import OrphanWatch.Backend.Client
import OrphanWatch.Config.Basic
import OrphanWatch.Inventory.Convention
import OrphanWatch.Monitor
import OrphanWatch.Proofs.NormalText

/-!
# What a valid configuration is good for

The parts of the monitor check their own settings when they are made, and the whole configuration is checked before
any of them is made. The check of the whole covers what the engine and the schedule refuse, apart from spans that
are too long; it does not look at the naming convention, and it takes an address that has nothing but slashes for
one (`MonitorConfig.parts_of_valid`).
-/

namespace OrphanWatch

/-! ### What the parts ask for -/

/-- A check in a row of checks is passed if it does not apply and the others are passed. -/
theorem MonitorError.check_eq_ok_iff {α : Type} {fails : Prop} [Decidable fails] {error : MonitorError}
    {rest : Except MonitorError α} {value : α} :
    (if fails then .error error else rest) = .ok value ↔ ¬ fails ∧ rest = .ok value := by
  by_cases hfails : fails <;> simp [hfails]

theorem Convention.exists_parse_iff {text : String} :
    (∃ convention, parse text = .ok convention) ↔
      Text.lowercase text = "democratic-csi" ∨ Text.lowercase text = "democratic_csi" := by
  rw [parse]
  split
  · next hname => exact iff_of_true ⟨_, rfl⟩ (.inl hname)
  · next hname => exact iff_of_true ⟨_, rfl⟩ (.inr hname)
  · next hhyphen hunderscore => exact iff_of_false (fun ⟨_, hok⟩ => by cases hok) (not_or.2 ⟨hhyphen, hunderscore⟩)

namespace Backend.Client

theorem plainUrl_ne_empty_iff {url : String} : plainUrl url ≠ "" ↔ ∃ c ∈ Text.trim url.toList, c ≠ '/' := by
  have hempty : plainUrl url = "" ↔ ∀ c ∈ Text.trim url.toList, c = '/' := by
    rw [plainUrl, ← String.toList_inj, String.toList_ofList]
    simp [Text.dropEndWhile_eq_nil_iff]
  simp only [ne_eq, hempty, not_forall, exists_prop]

/-- There is a client if the address is more than slashes and there are credentials. -/
theorem exists_create_iff {config : BackendConfig} :
    (∃ client, create config = .ok client) ↔
      (∃ c ∈ Text.trim config.url.toList, c ≠ '/') ∧ config.hasCredentials = true := by
  simp only [create, MonitorError.check_eq_ok_iff, ← plainUrl_ne_empty_iff, Bool.not_eq_true', Bool.not_eq_false]
  constructor
  · rintro ⟨client, hurl, hcredentials, -⟩
    exact ⟨hurl, hcredentials⟩
  · rintro ⟨hurl, hcredentials⟩
    exact ⟨_, hurl, hcredentials, rfl⟩

end Backend.Client

namespace EngineConfig

def IsSpan (seconds : Nat) : Prop :=
  seconds * 1000 < Text.signedLimit

instance (seconds : Nat) : Decidable (IsSpan seconds) :=
  inferInstanceAs (Decidable (seconds * 1000 < Text.signedLimit))

variable {config : EngineConfig}

theorem validate_eq_ok_iff :
    config.validate = .ok () ↔ 1 ≤ config.observations ∧ 0 < config.fetchTimeout := by
  simp only [validate, MonitorError.check_eq_ok_iff, and_true]
  omega

theorem exists_span_iff (setting : String) {seconds : Nat} :
    (∃ length, span setting (seconds * nanosPerSecond) = .ok length) ↔ IsSpan seconds := by
  have hlongest : seconds * nanosPerSecond ≤ longestSpan ↔ IsSpan seconds := by
    unfold IsSpan longestSpan nanosPerSecond Text.signedLimit
    omega
  rw [← hlongest, span]
  split
  · next hfits => exact iff_of_true ⟨_, rfl⟩ hfits
  · next hlong => exact iff_of_false (fun ⟨_, hok⟩ => by cases hok) hlong

theorem exists_policy_iff {seconds : Nat} (hseconds : config.minAge = seconds * nanosPerSecond) :
    (∃ policy, config.policy = .ok policy) ↔ IsSpan seconds := by
  rw [← exists_span_iff "min_orphan_age", ← hseconds, policy]
  cases span "min_orphan_age" config.minAge with
  | error error => exact iff_of_false (fun ⟨_, hok⟩ => by cases hok) (fun ⟨_, hok⟩ => by cases hok)
  | ok age => exact iff_of_true ⟨_, rfl⟩ ⟨_, rfl⟩

end EngineConfig

/-- An engine can be made if its settings are valid and no span is too long. -/
theorem Engine.exists_create_iff {config : EngineConfig} {cluster backend : String} :
    (∃ engine, create config (.cluster, cluster) (.backend, backend) = .ok engine) ↔
      config.validate = .ok () ∧ (∃ policy, config.policy = .ok policy)
        ∧ ∃ retention, config.retentionSpan = .ok retention := by
  rw [create]
  cases config.validate with
  | error error => simp [bind, Except.bind]
  | ok valid =>
    cases config.policy with
    | error error => simp [bind, Except.bind]
    | ok policy =>
      cases config.retentionSpan with
      | error error => simp [bind, Except.bind]
      | ok retention => simp [bind, Except.bind]

theorem Monitor.exists_create_iff {engine : Engine} {interval : Nat} :
    (∃ monitor, create engine interval = .ok monitor) ↔ 0 < interval := by
  simp only [create, MonitorError.check_eq_ok_iff]
  constructor
  · rintro ⟨monitor, hinterval, -⟩
    exact Nat.pos_of_ne_zero hinterval
  · intro hinterval
    exact ⟨_, Nat.ne_of_gt hinterval, rfl⟩

/-! ### The configuration as a whole -/

namespace MonitorConfig

variable {config : MonitorConfig}

structure IsValid (config : MonitorConfig) : Prop where
  observations_pos : 1 ≤ config.scan.observations
  interval_pos : 0 < config.scan.interval
  timeout_pos : config.scan.fetchTimeout? ≠ some 0
  timeout_le : config.scan.fetchTimeout ≤ config.scan.interval
  url_visible : ∃ c ∈ config.backend.url.toList, Text.isBlank c = false
  credentials : config.backend.hasCredentials = true
  drivers : config.cluster.drivers ≠ []

/-- A configuration passes its check exactly if it is valid. -/
theorem validate_eq_ok_iff : config.validate = .ok () ↔ config.IsValid := by
  have hurl : Text.isBlankText config.backend.url = true ↔
      ¬ ∃ c ∈ config.backend.url.toList, Text.isBlank c = false := by
    simp [Text.isBlankText]
  simp only [validate, MonitorError.check_eq_ok_iff, hurl, not_not, Nat.not_lt, Bool.not_eq_true', Bool.not_eq_false,
    List.isEmpty_iff, and_true]
  constructor
  · rintro ⟨hobservations, hinterval, htimeout, hfits, hvisible, hcredentials, hdrivers⟩
    exact ⟨hobservations, Nat.pos_of_ne_zero hinterval, htimeout, hfits, hvisible, hcredentials, hdrivers⟩
  · rintro ⟨hobservations, hinterval, htimeout, hfits, hvisible, hcredentials, hdrivers⟩
    exact ⟨hobservations, Nat.ne_of_gt hinterval, htimeout, hfits, hvisible, hcredentials, hdrivers⟩

theorem IsValid.fetchTimeout_pos (h : config.IsValid) : 0 < config.scan.fetchTimeout := by
  rw [ScanConfig.fetchTimeout]
  cases htimeout : config.scan.fetchTimeout? with
  | none =>
      rw [Option.getD_none]
      omega
  | some seconds =>
      have hpos := h.timeout_pos
      rw [htimeout, ne_eq, Option.some_inj] at hpos
      rw [Option.getD_some]
      omega

/-- Everything that the monitor is made of can be made with the configuration. -/
structure CanStart (config : MonitorConfig) : Prop where
  convention : ∃ convention, Convention.parse config.scan.convention = .ok convention
  client : ∃ client, Backend.Client.create config.backend = .ok client
  settings : config.scan.engineConfig.validate = .ok ()
  policy : ∃ policy, config.scan.engineConfig.policy = .ok policy
  retention : ∃ retention, config.scan.engineConfig.retentionSpan = .ok retention
  engine : ∀ cluster backend, ∃ engine,
    Engine.create config.scan.engineConfig (.cluster, cluster) (.backend, backend) = .ok engine
  monitor : ∀ engine, ∃ monitor, Monitor.create engine (config.scan.interval * 1000) = .ok monitor
  timeout : 0 < config.scan.fetchTimeout ∧ config.scan.fetchTimeout ≤ config.scan.interval

/-- **What a valid configuration is good for.** The settings of the engine pass their own check, the schedule takes the
interval, the credentials suffice, and no fetch may take longer than the interval. The rest can fail: the naming
convention has to be a known one, the address has to hold more than slashes, and the two spans of the engine must
not be too long. Apart from these, everything can be made. -/
theorem parts_of_valid (hvalid : config.validate = .ok ()) :
    (config.scan.engineConfig.validate = .ok () ∧ config.backend.hasCredentials = true
      ∧ (0 < config.scan.fetchTimeout ∧ config.scan.fetchTimeout ≤ config.scan.interval)
      ∧ ∀ engine, ∃ monitor, Monitor.create engine (config.scan.interval * 1000) = .ok monitor)
    ∧ ((∃ convention, Convention.parse config.scan.convention = .ok convention) ↔
      Text.lowercase config.scan.convention = "democratic-csi"
        ∨ Text.lowercase config.scan.convention = "democratic_csi")
    ∧ ((∃ client, Backend.Client.create config.backend = .ok client) ↔
      ∃ c ∈ Text.trim config.backend.url.toList, c ≠ '/')
    ∧ ((∃ policy, config.scan.engineConfig.policy = .ok policy) ↔ EngineConfig.IsSpan config.scan.minAge)
    ∧ ((∃ retention, config.scan.engineConfig.retentionSpan = .ok retention) ↔
      EngineConfig.IsSpan config.scan.retention)
    ∧ ∀ cluster backend,
      (∃ engine, Engine.create config.scan.engineConfig (.cluster, cluster) (.backend, backend) = .ok engine) ↔
        EngineConfig.IsSpan config.scan.minAge ∧ EngineConfig.IsSpan config.scan.retention := by
  have h : config.IsValid := validate_eq_ok_iff.1 hvalid
  have hsettings : config.scan.engineConfig.validate = .ok () :=
    EngineConfig.validate_eq_ok_iff.2 ⟨h.observations_pos, Nat.mul_pos h.fetchTimeout_pos (by decide)⟩
  have hpolicy : (∃ policy, config.scan.engineConfig.policy = .ok policy) ↔
      EngineConfig.IsSpan config.scan.minAge := EngineConfig.exists_policy_iff rfl
  have hretention : (∃ retention, config.scan.engineConfig.retentionSpan = .ok retention) ↔
      EngineConfig.IsSpan config.scan.retention := EngineConfig.exists_span_iff "snapshot_retention"
  refine ⟨⟨hsettings, h.credentials, ⟨h.fetchTimeout_pos, h.timeout_le⟩, fun engine => ?_⟩,
    Convention.exists_parse_iff, ?_, hpolicy, hretention, fun cluster backend => ?_⟩
  · exact Monitor.exists_create_iff.2 (Nat.mul_pos h.interval_pos (by decide))
  · rw [Backend.Client.exists_create_iff, and_iff_left h.credentials]
  · rw [Engine.exists_create_iff, and_iff_right hsettings, hpolicy, hretention]

/-- An address with a slash at its end, and a convention in capitals. -/
theorem valid_config_can_start :
    let config : MonitorConfig :=
      { MonitorConfig.standard with
        scan := { ScanConfig.standard with convention := "Democratic_CSI" }
        backend := { BackendConfig.standard with url := " https://nas.local/ ", apiKey := some "key" } }
    config.validate = .ok () ∧ config.CanStart := by
  intro config
  have hvalid : config.validate = .ok () := by decide +kernel
  obtain ⟨⟨hsettings, -, htimeout, hmonitor⟩, hconvention, hclient, hpolicy, hretention, hengine⟩ :=
    parts_of_valid hvalid
  have hspans : EngineConfig.IsSpan config.scan.minAge ∧ EngineConfig.IsSpan config.scan.retention := by decide
  have hvisible : 'h' ∈ Text.trim config.backend.url.toList := by decide +kernel
  exact ⟨hvalid, hconvention.2 (.inr (by decide +kernel)), hclient.2 ⟨'h', hvisible, by decide⟩, hsettings,
    hpolicy.2 hspans.1, hretention.2 hspans.2, fun cluster backend => (hengine cluster backend).2 hspans, hmonitor,
    htimeout⟩

/-- Yet each of the other conditions can fail in a valid configuration: a convention that nobody knows, an address of
slashes, and an age of more milliseconds than a span can have. -/
theorem valid_configs_that_cannot_start :
    let config (convention url : String) (minAge : Nat) : MonitorConfig :=
      { MonitorConfig.standard with
        scan := { ScanConfig.standard with convention, minAge }
        backend := { BackendConfig.standard with url, apiKey := some "k" } }
    let unknown := config "bogus" "https://nas.local" 86400
    let slashes := config "democratic-csi" "///" 86400
    let overlong := config "democratic-csi" "https://nas.local" Text.maxUnsigned
    (unknown.validate = .ok () ∧ ¬ unknown.CanStart
      ∧ Convention.parse unknown.scan.convention = .error (.configuration "unknown key convention: bogus"))
    ∧ (slashes.validate = .ok () ∧ ¬ slashes.CanStart
      ∧ Backend.Client.create slashes.backend = .error (.configuration "truenas.url is required"))
    ∧ (overlong.validate = .ok () ∧ ¬ overlong.CanStart
      ∧ overlong.scan.engineConfig.policy = .error (.configuration
        "min_orphan_age out of range: Source duration value is out of range for the target type")) := by
  intro config unknown slashes overlong
  have hvalid : unknown.validate = .ok () ∧ slashes.validate = .ok () ∧ overlong.validate = .ok () := by
    decide +kernel +revert
  have hunknown : Convention.parse unknown.scan.convention =
      .error (.configuration "unknown key convention: bogus") := by decide +kernel +revert
  have hslashes : Backend.Client.create slashes.backend = .error (.configuration "truenas.url is required") := by
    decide +kernel +revert
  have hoverlong : overlong.scan.engineConfig.policy = .error (.configuration
      "min_orphan_age out of range: Source duration value is out of range for the target type") := by
    decide +kernel +revert
  refine ⟨⟨hvalid.1, fun hstart => ?_, hunknown⟩, ⟨hvalid.2.1, fun hstart => ?_, hslashes⟩,
    hvalid.2.2, fun hstart => ?_, hoverlong⟩
  · obtain ⟨convention, hok⟩ := hstart.convention
    rw [hunknown] at hok
    cases hok
  · obtain ⟨client, hok⟩ := hstart.client
    rw [hslashes] at hok
    cases hok
  · obtain ⟨policy, hok⟩ := hstart.policy
    rw [hoverlong] at hok
    cases hok

end MonitorConfig

end OrphanWatch
