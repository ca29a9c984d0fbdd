import Mathlib.Logic.Function.Iterate
import OrphanWatch.Proofs.Flight

/-!
# What polls leave alone

Whatever the flight, the listings and the scripts are, polling them moves neither the clock nor the schedule,
and in the engine nothing happens but what another writer commits (`Flight.polled_pollSides`). If nobody commits
behind the scan, the monitor does not change at all (`Scene.Polled.monitor_eq`).
-/

namespace OrphanWatch

/-- The engine, after another writer committed that many times. -/
def Engine.intruded (engine : Engine) (commits : Nat) : Engine :=
  { engine with store := Scene.intrude^[commits] engine.store }

/-- Whether a scene can come out of another by polling listings in it. -/
structure Scene.Polled (before after : Scene) : Prop where
  clock : after.clock = before.clock
  signalled : before.signalled = true → after.signalled = true
  quiet : before.IsQuiet → after.IsQuiet
  monitor : ∃ commits, after.monitor = before.monitor.mapEngine (·.intruded commits)
    ∧ (before.IsQuiet → commits = 0)

namespace Scene

theorem Polled.refl (scene : Scene) : scene.Polled scene :=
  ⟨rfl, id, id, 0, rfl, fun _ => rfl⟩

theorem Polled.trans {first second third : Scene} (hfirst : first.Polled second)
    (hsecond : second.Polled third) : first.Polled third := by
  obtain ⟨commits, hmonitor, hnone⟩ := hfirst.monitor
  obtain ⟨commits', hmonitor', hnone'⟩ := hsecond.monitor
  refine ⟨hsecond.clock.trans hfirst.clock, hsecond.signalled ∘ hfirst.signalled,
    hsecond.quiet ∘ hfirst.quiet, commits' + commits, ?_, fun hquiet => ?_⟩
  · rw [hmonitor', hmonitor]
    simp only [Monitor.mapEngine, Engine.intruded, Function.iterate_add_apply]
  · rw [hnone hquiet, hnone' (hfirst.quiet hquiet)]

theorem Polled.monitor_eq {before after : Scene} (h : before.Polled after) (hquiet : before.IsQuiet) :
    after.monitor = before.monitor := by
  obtain ⟨commits, hmonitor, hnone⟩ := h.monitor
  rw [hmonitor, hnone hquiet]
  rfl

theorem polled_mapSource (scene : Scene) (side : Side) {change : ScriptedSource → ScriptedSource}
    (hquiet : scene.IsQuiet → (scene.mapSource side change).IsQuiet) :
    scene.Polled (scene.mapSource side change) := by
  cases side <;> exact ⟨rfl, id, hquiet, 0, rfl, fun _ => rfl⟩

theorem polled_rescript (scene : Scene) (kind : Kind) :
    scene.Polled (scene.mapSource kind.side (·.rescript kind Script.performed)) := by
  apply polled_mapSource
  intro hquiet other
  rw [script_performed]
  by_cases heq : other = kind
  · rw [if_pos heq]
    rfl
  · rw [if_neg heq]
    exact hquiet other

theorem polled_perform (scene : Scene) (kind : Kind) : scene.Polled (scene.perform kind) := by
  have hrescripted := polled_rescript scene kind
  have hmonitor : (scene.mapSource kind.side (·.rescript kind Script.performed)).monitor =
      scene.monitor := by
    cases kind.side <;> rfl
  -- Whether the script commits and whether it cancels are independent of each other.
  have hcommitted : ((scene.source kind.side).script kind).commitsBehind = true →
      scene.Polled ((scene.mapSource kind.side (·.rescript kind Script.performed)).mapEngine fun engine =>
        { engine with store := intrude engine.store }) := by
    intro hbehind
    refine ⟨hrescripted.clock, hrescripted.signalled, hrescripted.quiet, 1, ?_, fun hquiet => ?_⟩
    · rw [mapEngine, hmonitor]
      rfl
    · exact absurd hbehind (Bool.eq_false_iff.1 (hquiet kind))
  have hsignalled : ∀ after : Scene, scene.Polled after → scene.Polled { after with signalled := true } :=
    fun after h => ⟨h.clock, fun _ => rfl, h.quiet, h.monitor⟩
  simp only [perform]
  by_cases hbehind : ((scene.source kind.side).script kind).commitsBehind = true
  · rw [if_pos hbehind]
    split
    · exact hsignalled _ (hcommitted hbehind)
    · exact hcommitted hbehind
  · rw [if_neg hbehind]
    split
    · exact hsignalled _ hrescripted
    · exact hrescripted

theorem polled_ask (scene : Scene) (kind : Kind) : scene.Polled (scene.ask kind).1 := by
  have hperform := polled_perform scene kind
  have hcount : (scene.perform kind).Polled
      ((scene.perform kind).mapSource kind.side fun source => { source with toSource := source.ask }) :=
    polled_mapSource _ _ (keeps_ask_source (scene.perform kind) kind.side).1.quiet
  simp only [ask]
  split
  · exact hperform
  · split
    · exact hperform.trans hcount
    · exact hperform.trans hcount

theorem polled_poll (scene : Scene) (kind : Kind) (listing : Listing) :
    scene.Polled (scene.poll kind listing).1 := by
  cases listing with
  | fresh =>
      simp only [poll]
      split
      · exact polled_ask scene kind
      · exact .refl scene
  | held timer =>
      simp only [poll]
      split
      · exact polled_ask scene kind
      · exact .refl scene
  | waiting timer =>
      simp only [poll]
      split
      · exact .refl scene
      · exact .refl scene
  | answered records => exact .refl scene

/-- Polling listings leaves the clock and the schedule alone. -/
theorem polled_pollAll (scene : Scene) (listings : List (Kind × Listing)) :
    scene.Polled (scene.pollAll listings).1 := by
  induction listings generalizing scene with
  | nil => exact .refl scene
  | cons entry rest ih =>
      obtain ⟨kind, listing⟩ := entry
      have hhead := polled_poll scene kind listing
      simp only [pollAll]
      cases hresult : scene.poll kind listing with
      | mk polled result =>
          rw [hresult] at hhead
          cases result with
          | error error => exact hhead
          | ok listing' => exact hhead.trans (ih polled)

end Scene

namespace Flight

theorem polled_pollSide (flight : Flight) (scene : Scene) (side : Side) (fetching : Fetching) :
    scene.Polled (flight.pollSide scene side fetching).1 := by
  cases fetching with
  | done fetch => exact .refl scene
  | running listings =>
      have hall := Scene.polled_pollAll scene listings
      simp only [pollSide]
      split
      · exact .refl scene
      · generalize scene.pollAll listings = polled at hall ⊢
        obtain ⟨after, result⟩ := polled
        cases result with
        | error error => exact hall
        | ok others =>
            simp only
            split
            · exact hall
            · split <;> exact hall

/-- Polling a flight lists what it can, and touches nothing else. -/
theorem polled_pollSides (flight : Flight) (scene : Scene) :
    scene.Polled (flight.pollSides scene).1
      ∧ (flight.pollSides scene).2.origin = flight.origin
      ∧ (flight.pollSides scene).2.attempt = flight.attempt := by
  have hcluster := flight.polled_pollSide scene .cluster flight.cluster
  have hbackend := flight.polled_pollSide (flight.pollSide scene .cluster flight.cluster).1 .backend
    flight.backend
  exact ⟨hcluster.trans hbackend, rfl, rfl⟩

def IsUnderWay (flight : Flight) : Prop :=
  ∃ listings, flight.cluster = .running listings ∨ flight.backend = .running listings

/-- A flight goes on as long as a side is not done, and then its attempt is concluded with what became of the
sides. -/
theorem poll_cases (flight : Flight) (scene : Scene) :
    let polled := (flight.pollSides scene).1
    let next := (flight.pollSides scene).2
    (∃ cluster backend, next.cluster = .done cluster ∧ next.backend = .done backend
      ∧ flight.poll scene =
        (polled.mapEngine fun _ => (polled.engine.conclude flight.attempt cluster backend
            (flight.isCancelled polled) (flight.elapsed polled)).1,
          .landed (polled.engine.conclude flight.attempt cluster backend (flight.isCancelled polled)
            (flight.elapsed polled)).2))
    ∨ next.IsUnderWay ∧ flight.poll scene = (polled, .flying next) := by
  intro polled next
  cases hcluster : (flight.pollSides scene).2.cluster with
  | running listings =>
      refine .inr ⟨⟨listings, .inl hcluster⟩, ?_⟩
      simp only [poll, hcluster]
      rfl
  | done cluster =>
      cases hbackend : (flight.pollSides scene).2.backend with
      | running listings =>
          refine .inr ⟨⟨listings, .inr hbackend⟩, ?_⟩
          simp only [poll, hcluster, hbackend]
          rfl
      | done backend =>
          refine .inl ⟨cluster, backend, rfl, rfl, ?_⟩
          simp only [poll, hcluster, hbackend]
          rfl

end Flight

end OrphanWatch
