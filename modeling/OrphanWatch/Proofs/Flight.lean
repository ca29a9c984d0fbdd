import OrphanWatch.Proofs.Scan
import OrphanWatch.Proofs.SortedMap
import OrphanWatch.Timeline

/-!
# A scan from its launch to its landing

A scan that is asked for directly, with nothing else going on and nobody else committing, lands: it is polled
and waits for its timers in turn, and by its deadline both fetches have ended (`Timeline.exists_fly_runScanAt`).
What it then does to the engine is one `Engine.scan`, of what the sources answered
(`Timeline.runScanAt_eq_scan`).
-/

namespace OrphanWatch

namespace Scene

def script (scene : Scene) (kind : Kind) : Script :=
  (scene.source kind.side).script kind

def answer (scene : Scene) (kind : Kind) : Answer :=
  match (scene.script kind).failure with
  | some error => .error error
  | none => (scene.source kind.side).answer kind

def IsQuiet (scene : Scene) : Prop :=
  ∀ kind, (scene.script kind).commitsBehind = false

structure Keeps (before after : Scene) : Prop where
  engine : after.engine = before.engine
  failure : ∀ kind, (after.script kind).failure = (before.script kind).failure
  source_answer : ∀ kind, (after.source kind.side).answer kind = (before.source kind.side).answer kind
  quiet : before.IsQuiet → after.IsQuiet

theorem Keeps.refl (scene : Scene) : scene.Keeps scene :=
  ⟨rfl, fun _ => rfl, fun _ => rfl, id⟩

theorem Keeps.trans {first second third : Scene} (hfirst : first.Keeps second)
    (hsecond : second.Keeps third) : first.Keeps third :=
  ⟨hsecond.engine.trans hfirst.engine,
    fun kind => (hsecond.failure kind).trans (hfirst.failure kind),
    fun kind => (hsecond.source_answer kind).trans (hfirst.source_answer kind), hsecond.quiet ∘ hfirst.quiet⟩

theorem source_mapSource (scene : Scene) (side other : Side)
    (change : ScriptedSource → ScriptedSource) :
    (scene.mapSource side change).source other =
      if other = side then change (scene.source side) else scene.source other := by
  cases side <;> cases other <;> rfl

theorem script_rescript (source : ScriptedSource) (kind other : Kind) (change : Script → Script) :
    (source.rescript kind change).script other =
      if other = kind then change (source.script kind) else source.script other := by
  rw [ScriptedSource.script, ScriptedSource.rescript]
  simp only
  rw [SortedMap.get?_insert_eq_ite]
  by_cases heq : other = kind
  · rw [if_pos heq, if_pos heq]
    rfl
  · rw [if_neg heq, if_neg heq]
    rfl

theorem script_performed (scene : Scene) (kind other : Kind) :
    (scene.mapSource kind.side (·.rescript kind Script.performed)).script other =
      if other = kind then (scene.script kind).performed else scene.script other := by
  rw [script, source_mapSource]
  by_cases heq : other = kind
  · subst heq
    rw [if_pos rfl, if_pos rfl, script_rescript, if_pos rfl]
    rfl
  · by_cases hside : other.side = kind.side
    · rw [if_pos hside, if_neg heq, script_rescript, if_neg heq, ← hside]
      rfl
    · rw [if_neg hside, if_neg heq]
      rfl

/-- In a quiet scene, playing a script changes neither the engine nor the answers. -/
theorem keeps_perform {scene : Scene} (hquiet : scene.IsQuiet) (kind : Kind) :
    scene.Keeps (scene.perform kind) ∧ (scene.perform kind).clock = scene.clock := by
  have hkeeps : scene.Keeps (scene.mapSource kind.side (·.rescript kind Script.performed)) := by
    refine ⟨?_, fun other => ?_, fun other => ?_, fun _ other => ?_⟩
    · cases kind.side <;> rfl
    · rw [script_performed]
      by_cases heq : other = kind
      · rw [if_pos heq, heq]
        rfl
      · rw [if_neg heq]
    · rw [source_mapSource]
      by_cases hside : other.side = kind.side
      · rw [if_pos hside, hside]
        rfl
      · rw [if_neg hside]
    · rw [script_performed]
      by_cases heq : other = kind
      · rw [if_pos heq]
        rfl
      · rw [if_neg heq]
        exact hquiet other
  have hclock : (scene.mapSource kind.side (·.rescript kind Script.performed)).clock =
      scene.clock := by
    cases kind.side <;> rfl
  have hbehind : ((scene.source kind.side).script kind).commitsBehind = false := hquiet kind
  simp only [perform, hbehind, Bool.false_eq_true, if_false]
  split
  · exact ⟨⟨hkeeps.engine, hkeeps.failure, hkeeps.source_answer, hkeeps.quiet⟩, hclock⟩
  · exact ⟨hkeeps, hclock⟩

/-- That a source counts who asks it does not change what it says. -/
theorem keeps_ask_source (scene : Scene) (side : Side) :
    scene.Keeps (scene.mapSource side fun source => { source with toSource := source.ask })
      ∧ (scene.mapSource side fun source => { source with toSource := source.ask }).clock =
        scene.clock := by
  have hsource : ∀ other : Side,
      ((scene.mapSource side fun source => { source with toSource := source.ask }).source
          other).scripts = (scene.source other).scripts
        ∧ ∀ kind, ((scene.mapSource side fun source => { source with toSource := source.ask }).source
          other).answer kind = (scene.source other).answer kind := by
    intro other
    cases side <;> cases other <;> exact ⟨rfl, fun _ => rfl⟩
  have hscript : ∀ kind,
      (scene.mapSource side fun source => { source with toSource := source.ask }).script kind =
        scene.script kind := by
    intro kind
    rw [script, ScriptedSource.script, (hsource kind.side).1]
    rfl
  refine ⟨⟨?_, fun kind => ?_, fun kind => (hsource kind.side).2 kind, fun hquiet kind => ?_⟩, ?_⟩
  · cases side <;> rfl
  · rw [hscript]
  · rw [hscript]
    exact hquiet kind
  · cases side <;> rfl

end Scene

/-! ### Listings -/

/-- What is known about the listing of a kind while the answers are those of `base`. -/
def Listing.IsOf (base : Scene) (kind : Kind) : Listing → Prop
  | fresh | held _ => True
  | waiting _ => (base.script kind).failure = none
  | answered records => Listing.ofAnswer (base.answer kind) = .ok (answered records)

/-- A listing goes on with a timer that is not due yet, and a failure is the answer. -/
def Scene.Yields (base : Scene) (clock : Nat) (kind : Kind) : Except MonitorError Listing → Prop
  | .ok listing =>
      listing.IsOf base kind ∧ ∀ timer, listing.timer? = some timer → clock < timer.due
  | .error error => base.answer kind = .error error ∧ (base.answer kind).fails = true

theorem Listing.ofAnswer_cases (answer : Answer) :
    (∃ records, Listing.ofAnswer answer = .ok (.answered records) ∧ answer.fails = false
        ∧ records.getD [] = answer.records ∧ records.isNone = answer.isUnlisted)
      ∨ ∃ error, Listing.ofAnswer answer = .error error ∧ answer = .error error
        ∧ answer.fails = true := by
  cases answer with
  | ok records => exact .inl ⟨some records, rfl, rfl, rfl, rfl⟩
  | error error =>
      cases error with
      | kindNotListed kind reason => exact .inl ⟨none, rfl, rfl, rfl, rfl⟩
      | _ => exact .inr ⟨_, rfl, rfl, rfl⟩

namespace Scene

variable {base scene : Scene} {kind : Kind}

theorem yields_ofAnswer (base : Scene) (clock : Nat) (kind : Kind) :
    base.Yields clock kind (Listing.ofAnswer (base.answer kind)) := by
  rcases Listing.ofAnswer_cases (base.answer kind) with ⟨records, hlisting, -⟩ |
    ⟨error, hlisting, herror, hfails⟩
  · rw [hlisting]
    refine ⟨hlisting, fun timer htimer => ?_⟩
    cases htimer
  · rw [hlisting]
    exact ⟨herror, hfails⟩

theorem lt_due_timer (scene : Scene) {delay : Nat} (hdelay : delay ≠ 0) :
    scene.clock < (scene.timer delay).due := by
  have hwait : 0 < longestWait := by decide
  have hmin : 0 < min delay longestWait := Nat.lt_min.2 ⟨Nat.pos_of_ne_zero hdelay, hwait⟩
  exact Nat.lt_add_of_pos_right hmin

theorem ofAnswer_reply (hkeeps : base.Keeps scene) (hfailure : (base.script kind).failure = none) :
    scene.reply kind = Listing.ofAnswer (base.answer kind) := by
  rw [reply, hkeeps.source_answer, answer, hfailure]

theorem ask_spec (hkeeps : base.Keeps scene) (hquiet : base.IsQuiet) (kind : Kind) :
    base.Keeps (scene.ask kind).1 ∧ (scene.ask kind).1.clock = scene.clock
      ∧ base.Yields scene.clock kind (scene.ask kind).2 := by
  obtain ⟨hperform, hclock⟩ := keeps_perform (hkeeps.quiet hquiet) kind
  have hperformed := hkeeps.trans hperform
  obtain ⟨hcount, hclock'⟩ := keeps_ask_source (scene.perform kind) kind.side
  have hcounted := hperformed.trans hcount
  have hfailure := hperformed.failure kind
  rw [script] at hfailure
  simp only [ask]
  rw [hfailure]
  cases hbase : (base.script kind).failure with
  | some error =>
      have hanswer : base.answer kind = .error error := by rw [answer, hbase]
      have hyields := yields_ofAnswer base scene.clock kind
      rw [hanswer] at hyields
      exact ⟨hperformed, hclock, hyields⟩
  | none =>
      simp only
      split
      · refine ⟨hcounted, hclock'.trans hclock, ?_⟩
        rw [ofAnswer_reply hcounted hbase]
        exact yields_ofAnswer base scene.clock kind
      · next hdelay =>
          refine ⟨hcounted, hclock'.trans hclock, hbase, fun timer htimer => ?_⟩
          cases htimer
          have hdue := lt_due_timer
            ((scene.perform kind).mapSource kind.side fun source =>
              { source with toSource := source.ask }) hdelay
          rwa [hclock', hclock] at hdue

theorem poll_spec (hkeeps : base.Keeps scene) (hquiet : base.IsQuiet) {listing : Listing}
    (hlisting : listing.IsOf base kind) :
    base.Keeps (scene.poll kind listing).1 ∧ (scene.poll kind listing).1.clock = scene.clock
      ∧ base.Yields scene.clock kind (scene.poll kind listing).2 := by
  cases listing with
  | fresh =>
      simp only [poll]
      split
      · exact ask_spec hkeeps hquiet kind
      · next hdelay =>
          refine ⟨hkeeps, rfl, trivial, fun timer htimer => ?_⟩
          cases htimer
          exact lt_due_timer scene hdelay
  | held timer =>
      simp only [poll]
      split
      · exact ask_spec hkeeps hquiet kind
      · next hdue =>
          refine ⟨hkeeps, rfl, trivial, fun other hother => ?_⟩
          cases hother
          exact Nat.lt_of_not_le hdue
  | waiting timer =>
      simp only [poll]
      split
      · refine ⟨hkeeps, rfl, ?_⟩
        simp only
        rw [ofAnswer_reply hkeeps hlisting]
        exact yields_ofAnswer base scene.clock kind
      · next hdue =>
          refine ⟨hkeeps, rfl, hlisting, fun other hother => ?_⟩
          cases hother
          exact Nat.lt_of_not_le hdue
  | answered records =>
      refine ⟨hkeeps, rfl, hlisting, fun timer htimer => ?_⟩
      cases htimer

def Lists (base : Scene) (kinds : List Kind) (listings : List (Kind × Listing)) : Prop :=
  listings.map (·.1) = kinds ∧ ∀ entry ∈ listings, entry.2.IsOf base entry.1

/-- Polling listings keeps to the answers of their kinds. -/
theorem pollAll_spec (hkeeps : base.Keeps scene) (hquiet : base.IsQuiet) {kinds : List Kind}
    {listings : List (Kind × Listing)} (hlistings : base.Lists kinds listings) :
    base.Keeps (scene.pollAll listings).1 ∧ (scene.pollAll listings).1.clock = scene.clock
      ∧ match (scene.pollAll listings).2 with
        | .ok others => base.Lists kinds others
            ∧ ∀ entry ∈ others, ∀ timer, entry.2.timer? = some timer → scene.clock < timer.due
        | .error error => ∃ kind ∈ kinds, base.answer kind = .error error
            ∧ (base.answer kind).fails = true := by
  induction listings generalizing scene kinds with
  | nil =>
      refine ⟨hkeeps, rfl, hlistings, fun entry hentry => ?_⟩
      cases hentry
  | cons entry rest ih =>
      obtain ⟨kind, listing⟩ := entry
      obtain ⟨rfl, hof⟩ := hlistings
      have hhead : listing.IsOf base kind := hof (kind, listing) List.mem_cons_self
      obtain ⟨hpolled, hclock, hyields⟩ := poll_spec hkeeps hquiet hhead
      simp only [pollAll]
      cases hresult : scene.poll kind listing with
      | mk polled result =>
          rw [hresult] at hpolled hclock hyields
          cases result with
          | error error =>
              exact ⟨hpolled, hclock, kind, List.mem_cons_self, hyields⟩
          | ok listing' =>
              have hrest : base.Lists (rest.map (·.1)) rest :=
                ⟨rfl, fun entry hentry => hof entry (List.mem_cons_of_mem _ hentry)⟩
              obtain ⟨hpolled', hclock', hothers⟩ := ih hpolled hrest
              simp only at hclock hclock' ⊢
              refine ⟨hpolled', hclock'.trans hclock, ?_⟩
              cases hresults : (polled.pollAll rest).2 with
              | error error =>
                  rw [hresults] at hothers
                  obtain ⟨other, hother, hanswer⟩ := hothers
                  exact ⟨other, List.mem_cons_of_mem _ hother, hanswer⟩
              | ok others =>
                  rw [hresults] at hothers
                  obtain ⟨⟨hkinds, hof'⟩, hlater⟩ := hothers
                  refine ⟨⟨congrArg (kind :: ·) hkinds, fun entry hentry => ?_⟩,
                    fun entry hentry => ?_⟩
                  · rcases List.mem_cons.1 hentry with rfl | hentry
                    · exact hyields.1
                    · exact hof' entry hentry
                  · rcases List.mem_cons.1 hentry with rfl | hentry
                    · exact hyields.2
                    · rw [← hclock]
                      exact hlater entry hentry

end Scene

/-! ### Sides -/

def Fetching.IsOf (base : Scene) (side : Side) : Fetching → Prop
  | running listings => base.Lists side.kinds listings
  | done fetch => fetch.Ends side base.answer

namespace Fetching

theorem isOf_fresh (base : Scene) (side : Side) : (fresh side).IsOf base side := by
  refine ⟨?_, fun entry hentry => ?_⟩
  · rw [List.map_map]
    exact List.map_id _
  · obtain ⟨kind, -, rfl⟩ := List.mem_map.1 hentry
    trivial

theorem inventory?_cons_eq_some {kind : Kind} {listing : Listing} {rest : List (Kind × Listing)}
    {inventory : Inventory} (hinventory : inventory? ((kind, listing) :: rest) = some inventory) :
    ∃ records others, listing = .answered records ∧ inventory? rest = some others
      ∧ inventory.records = records.getD [] ++ others.records
      ∧ inventory.unlisted =
        if records.isNone then kind :: others.unlisted else others.unlisted := by
  rw [inventory?, List.foldr_cons, ← inventory?] at hinventory
  cases hothers : inventory? rest with
  | none =>
      rw [hothers] at hinventory
      simp at hinventory
  | some others =>
      rw [hothers] at hinventory
      cases listing with
      | fresh => cases hinventory
      | held timer => cases hinventory
      | waiting timer => cases hinventory
      | answered records =>
          refine ⟨records, others, rfl, rfl, ?_⟩
          cases records <;> cases hinventory <;> exact ⟨rfl, rfl⟩

/-- A side is complete with what was answered to its kinds, none of which failed. -/
theorem eq_ofAnswers_of_inventory? {base : Scene} {kinds : List Kind}
    {listings : List (Kind × Listing)} (hlistings : base.Lists kinds listings)
    {inventory : Inventory} (hinventory : inventory? listings = some inventory) :
    inventory.records = (kinds.flatMap fun kind => (base.answer kind).records)
      ∧ inventory.unlisted = (kinds.filter fun kind => (base.answer kind).isUnlisted)
      ∧ ∀ kind ∈ kinds, (base.answer kind).fails = false := by
  induction listings generalizing kinds inventory with
  | nil =>
      cases hinventory
      obtain ⟨rfl, -⟩ := hlistings
      exact ⟨rfl, rfl, fun kind hkind => by cases hkind⟩
  | cons entry rest ih =>
      obtain ⟨kind, listing⟩ := entry
      obtain ⟨rfl, hof⟩ := hlistings
      have hrest : base.Lists (rest.map (·.1)) rest :=
        ⟨rfl, fun entry hentry => hof entry (List.mem_cons_of_mem _ hentry)⟩
      obtain ⟨records, others, rfl, hothers, hrecords, hunlisted⟩ :=
        inventory?_cons_eq_some hinventory
      obtain ⟨hrecords', hunlisted', hanswers⟩ := ih hrest hothers
      have hhead : Listing.ofAnswer (base.answer kind) = .ok (.answered records) :=
        hof (kind, .answered records) List.mem_cons_self
      rcases Listing.ofAnswer_cases (base.answer kind) with ⟨found, hfound, hfails, hhere, hnone⟩ |
        ⟨error, herror, -⟩
      · cases hhead.symm.trans hfound
        refine ⟨?_, ?_, fun other hother => ?_⟩
        · rw [hrecords, hrecords', hhere]
          rfl
        · rw [hunlisted, hunlisted', hnone, List.map_cons, List.filter_cons]
        · rcases List.mem_cons.1 hother with rfl | hother
          · exact hfails
          · exact hanswers other hother
      · cases hhead.symm.trans herror

end Fetching

namespace Flight

variable {base scene : Scene} {flight : Flight}

/-- Polling the fetch of a side keeps to the answers of its kinds. -/
theorem pollSide_spec (flight : Flight) (hkeeps : base.Keeps scene) (hquiet : base.IsQuiet)
    {side : Side} {fetching : Fetching} (hof : fetching.IsOf base side) :
    base.Keeps (flight.pollSide scene side fetching).1
      ∧ (flight.pollSide scene side fetching).1.clock = scene.clock
      ∧ (flight.pollSide scene side fetching).2.IsOf base side
      ∧ ∀ listings, (flight.pollSide scene side fetching).2 = .running listings →
        scene.clock < flight.deadline
          ∧ ∀ entry ∈ listings, ∀ timer, entry.2.timer? = some timer → scene.clock < timer.due := by
  cases fetching with
  | done fetch => exact ⟨hkeeps, rfl, hof, fun listings hrunning => by cases hrunning⟩
  | running listings =>
      obtain ⟨hpolled, hclock, hresult⟩ := Scene.pollAll_spec hkeeps hquiet hof
      simp only [pollSide]
      split
      · exact ⟨hkeeps, rfl, .cancelled, fun listings hrunning => by cases hrunning⟩
      · split
        · next polled error heq =>
            rw [heq] at hpolled hclock hresult
            obtain ⟨kind, hkind, hanswer, hfails⟩ := hresult
            exact ⟨hpolled, hclock, .failed hkind hanswer hfails,
              fun listings hrunning => by cases hrunning⟩
        · next polled others heq =>
            rw [heq] at hpolled hclock hresult
            obtain ⟨hlists, hlater⟩ := hresult
            split
            · next inventory hinventory =>
                obtain ⟨hrecords, hunlisted, hanswers⟩ :=
                  Fetching.eq_ofAnswers_of_inventory? hlists hinventory
                obtain ⟨records, unlisted⟩ := inventory
                subst hrecords hunlisted
                exact ⟨hpolled, hclock, .fetched hanswers, fun listings hrunning => by cases hrunning⟩
            · split
              · exact ⟨hpolled, hclock, .timedOut _, fun listings hrunning => by cases hrunning⟩
              · next hdeadline =>
                  refine ⟨hpolled, hclock, hlists, fun listings hrunning => ?_⟩
                  cases hrunning
                  rw [← hclock] at hlater ⊢
                  exact ⟨Nat.lt_of_not_le hdeadline, hlater⟩

theorem pollSide_of_isCancelled (hcancelled : flight.isCancelled scene = true) (side : Side)
    (fetching : Fetching) : ∃ fetch, flight.pollSide scene side fetching = (scene, .done fetch) := by
  cases fetching with
  | done fetch => exact ⟨fetch, rfl⟩
  | running listings =>
      rw [pollSide, if_pos hcancelled]
      exact ⟨.cancelled, rfl⟩

structure IsOf (base : Scene) (flight : Flight) : Prop where
  cluster : flight.cluster.IsOf base .cluster
  backend : flight.backend.IsOf base .backend

theorem isOf_launch (scene : Scene) (origin : Origin) (now : Instant) :
    (launch scene origin now).2.IsOf (launch scene origin now).1 :=
  ⟨Fetching.isOf_fresh _ .cluster, Fetching.isOf_fresh _ .backend⟩

def Concludes (base : Scene) (attempt : Attempt) (scene : Scene)
    (result : Except MonitorError CycleReport) : Prop :=
  scene.IsQuiet ∧ ∃ (cluster backend : Fetch) (cancelled : Bool) (elapsed : Nat),
    cluster.Ends .cluster base.answer ∧ backend.Ends .backend base.answer
      ∧ base.engine.conclude attempt cluster backend cancelled elapsed = (scene.engine, result)

/-- A flight that goes on waits for timers that are not due yet. -/
theorem poll_spec (hkeeps : base.Keeps scene) (hquiet : base.IsQuiet) (hof : flight.IsOf base) :
    (∃ landed result, flight.poll scene = (landed, .landed result)
        ∧ Concludes base flight.attempt landed result)
      ∨ ∃ flown next, flight.poll scene = (flown, .flying next)
        ∧ base.Keeps flown ∧ flown.clock = scene.clock ∧ next.IsOf base
        ∧ next.attempt = flight.attempt ∧ next.origin = flight.origin
        ∧ next.deadline = flight.deadline ∧ scene.clock < next.deadline
        ∧ ∀ entry ∈ next.cluster.listings ++ next.backend.listings, ∀ timer,
          entry.2.timer? = some timer → scene.clock < timer.due := by
  obtain ⟨hkeeps₁, hclock₁, hcluster, hlater₁⟩ := flight.pollSide_spec hkeeps hquiet hof.cluster
  simp only [poll, pollSides]
  generalize flight.pollSide scene .cluster flight.cluster = polled
    at hkeeps₁ hclock₁ hcluster hlater₁ ⊢
  obtain ⟨scene₁, cluster⟩ := polled
  obtain ⟨hkeeps₂, hclock₂, hbackend, hlater₂⟩ := flight.pollSide_spec hkeeps₁ hquiet hof.backend
  simp only at hclock₁ hcluster hlater₁ hkeeps₂ hclock₂ hbackend hlater₂ ⊢
  generalize flight.pollSide scene₁ .backend flight.backend = polled
    at hkeeps₂ hclock₂ hbackend hlater₂ ⊢
  obtain ⟨scene₂, backend⟩ := polled
  simp only at hkeeps₂ hclock₂ hbackend hlater₂ ⊢
  rw [hclock₁] at hclock₂ hlater₂
  cases cluster with
  | running listings =>
      obtain ⟨hdeadline, hlater₁⟩ := hlater₁ listings rfl
      refine .inr ⟨scene₂, _, rfl, hkeeps₂, hclock₂, ⟨hcluster, hbackend⟩, rfl, rfl, rfl, hdeadline,
        fun entry hentry => ?_⟩
      rcases List.mem_append.1 hentry with hentry | hentry
      · exact hlater₁ entry hentry
      · cases backend with
        | done fetch => cases hentry
        | running others => exact (hlater₂ others rfl).2 entry hentry
  | done fetch =>
      cases backend with
      | running others =>
          obtain ⟨hdeadline, hlater₂⟩ := hlater₂ others rfl
          exact .inr ⟨scene₂, _, rfl, hkeeps₂, hclock₂, ⟨hcluster, hbackend⟩, rfl, rfl, rfl, hdeadline,
            hlater₂⟩
      | done other =>
          refine .inl ⟨_, _, rfl, hkeeps₂.quiet hquiet, fetch, other, flight.isCancelled scene₂, flight.elapsed scene₂,
            hcluster, hbackend, ?_⟩
          rw [← hkeeps₂.engine]
          rfl

/-- A flight that is cancelled lands when it is polled. -/
theorem poll_of_isCancelled (hcancelled : flight.isCancelled scene = true) :
    ∃ landed result, flight.poll scene = (landed, .landed result) := by
  obtain ⟨cluster, hcluster⟩ := pollSide_of_isCancelled hcancelled .cluster flight.cluster
  obtain ⟨backend, hbackend⟩ := pollSide_of_isCancelled hcancelled .backend flight.backend
  simp only [poll, pollSides, hcluster, hbackend]
  exact ⟨_, _, rfl⟩

end Flight

/-! ### Turns -/

/-- What goes on before a poll: the scene changes in any way, and others leave the engine as they like. -/
structure Turn where
  move : Scene → Scene
  others : Engine → Engine

namespace Turn

def apply (turn : Turn) (scene : Scene) : Scene :=
  (turn.move scene).mapEngine fun _ => turn.others scene.engine

def waitUntil (clock : Nat) : Turn :=
  ⟨fun scene => { scene with clock }, id⟩

end Turn

namespace Flight

def fly (flight : Flight) (scene : Scene) : List Turn → Scene × Progress
  | [] => (scene, .flying flight)
  | turn :: rest =>
    match flight.poll (turn.apply scene) with
    | (polled, .flying next) => next.fly polled rest
    | (polled, .landed result) => (polled, .landed result)

variable {base scene polled : Scene} {flight next : Flight} {turn : Turn}

theorem fly_cons_of_flying (rest : List Turn)
    (hpoll : flight.poll (turn.apply scene) = (polled, .flying next)) :
    flight.fly scene (turn :: rest) = next.fly polled rest := by
  rw [fly, hpoll]

theorem fly_cons_of_landed {result : Except MonitorError CycleReport} (rest : List Turn)
    (hpoll : flight.poll (turn.apply scene) = (polled, .landed result)) :
    flight.fly scene (turn :: rest) = (polled, .landed result) := by
  rw [fly, hpoll]

/-- A flight that lands after some waiting concludes its attempt. -/
theorem concludes_fly (hquiet : base.IsQuiet) (hkeeps : base.Keeps scene) (hof : flight.IsOf base)
    {clocks : List Nat} {landed : Scene} {result : Except MonitorError CycleReport}
    (hfly : flight.fly scene (clocks.map Turn.waitUntil) = (landed, .landed result)) :
    Concludes base flight.attempt landed result := by
  induction clocks generalizing scene flight with
  | nil => cases hfly
  | cons clock rest ih =>
      have hwaited : base.Keeps ((Turn.waitUntil clock).apply scene) :=
        ⟨hkeeps.engine, hkeeps.failure, hkeeps.source_answer, hkeeps.quiet⟩
      rw [List.map_cons] at hfly
      rcases poll_spec hwaited hquiet hof with ⟨landed', result', hpoll, hconcludes⟩ |
        ⟨flown, next, hpoll, hkeeps', -, hof', hattempt, -⟩
      · rw [fly_cons_of_landed _ hpoll] at hfly
        cases hfly
        exact hconcludes
      · rw [fly_cons_of_flying _ hpoll] at hfly
        rw [← hattempt]
        exact ih hkeeps' hof' hfly

end Flight

namespace Timeline

variable {base : Scene} {timeline : Timeline} {flight : Flight}

theorem settle_of_idle (hidle : timeline.tasks = []) : timeline.settle = timeline := by
  obtain ⟨scene, tasks, today⟩ := timeline
  cases hidle
  simp [settle, runReady, ready]

theorem nextDue?_of_idle (hidle : timeline.tasks = []) : timeline.nextDue? = none := by
  rw [nextDue?, hidle]
  rfl

theorem foldl_min_le (times : List Nat) (last : Nat) : times.foldl min last ≤ last := by
  induction times generalizing last with
  | nil => exact Nat.le_refl last
  | cons time rest ih => exact Nat.le_trans (ih (min last time)) (Nat.min_le_left last time)

theorem lt_foldl_min {clock : Nat} {times : List Nat} {last : Nat} (hlast : clock < last)
    (htimes : ∀ time ∈ times, clock < time) : clock < times.foldl min last := by
  induction times generalizing last with
  | nil => exact hlast
  | cons time rest ih =>
      have hmin : clock < min last time := Nat.lt_min.2 ⟨hlast, htimes time List.mem_cons_self⟩
      exact ih hmin fun other hother => htimes other (List.mem_cons_of_mem _ hother)

/-- A flight that was polled and is not cancelled waits for later timers only. -/
theorem lt_due_of_mem_timers {scene : Scene} (hcancelled : flight.isCancelled scene = false)
    (hdeadline : scene.clock < flight.deadline)
    (hlater : ∀ entry ∈ flight.cluster.listings ++ flight.backend.listings, ∀ timer,
      entry.2.timer? = some timer → scene.clock < timer.due) :
    ∀ timer ∈ flight.timers, scene.clock < timer.due := by
  intro timer htimer
  rw [Flight.timers, List.mem_append, List.mem_append] at htimer
  rcases htimer with (hcancellation | hlast) | hlisting
  · cases horigin : flight.origin with
    | schedule =>
        rw [horigin] at hcancellation
        cases hcancellation
    | direct cancelAt =>
        rw [Flight.isCancelled, horigin] at hcancelled
        rw [horigin] at hcancellation
        cases cancelAt with
        | none => cases hcancellation
        | some due =>
            rw [List.mem_singleton.1 hcancellation]
            simp only [Option.any_some, Bool.or_eq_false_iff, decide_eq_false_iff_not] at hcancelled
            exact Nat.lt_of_not_le hcancelled.2
  · rw [List.mem_singleton.1 hlast]
    exact hdeadline
  · obtain ⟨entry, hentry, htimer⟩ := List.mem_filterMap.1 hlisting
    exact hlater entry hentry timer htimer

/-- Who follows a flight in an idle timeline polls it and waits, in turn, until it lands. -/
theorem exists_fly_follow (hquiet : base.IsQuiet) (hkeeps : base.Keeps timeline.scene)
    (hidle : timeline.tasks = []) (hof : flight.IsOf base) :
    (∃ clocks : List Nat, flight.fly timeline.scene ((timeline.clock :: clocks).map Turn.waitUntil) =
        ((timeline.follow flight flight.deadline).1.scene,
          .landed (timeline.follow flight flight.deadline).2))
      ∧ (timeline.follow flight flight.deadline).1.tasks = [] := by
  -- By induction on the time that is left: whatever is still waited for is due later than now.
  induction hwait : flight.deadline - timeline.clock using Nat.strongRecOn
    generalizing timeline flight with
  | ind wait ih =>
      rw [follow]
      rcases Flight.poll_spec hkeeps hquiet hof with ⟨landed, result, hpoll, -⟩ |
        ⟨flown, next, hpoll, hkeeps', hclock, hof', -, -, hsame, hdeadline, hlater⟩
      · rw [hpoll]
        exact ⟨⟨[], Flight.fly_cons_of_landed [] hpoll⟩, hidle⟩
      · have hfirst : ∀ turns, flight.fly timeline.scene (.waitUntil timeline.clock :: turns) =
            next.fly flown turns :=
          fun turns => Flight.fly_cons_of_flying turns hpoll
        rw [hpoll]
        have hidle' : { timeline with scene := flown }.tasks = [] := hidle
        simp only [settle_of_idle hidle', nextDue?_of_idle hidle', Option.elim_none]
        rw [← hclock] at hdeadline hlater
        split
        · next hcancelled =>
            -- The next poll notices the cancellation, so it cannot leave the flight in the air.
            obtain ⟨landed, result, hlanded⟩ := Flight.poll_of_isCancelled hcancelled
            rw [finish, hlanded]
            refine ⟨⟨[flown.clock], ?_⟩, hidle⟩
            rw [List.map_cons, hfirst]
            exact Flight.fly_cons_of_landed [] hlanded
        · next hcancelled =>
            have htimers := lt_due_of_mem_timers (Bool.eq_false_iff.2 hcancelled) hdeadline hlater
            have hdue : timeline.clock < (next.timers.map (·.due)).foldl min flight.deadline := by
              refine lt_foldl_min ?_ fun time htime => ?_
              · rw [← hsame, clock, ← hclock]
                exact hdeadline
              · obtain ⟨timer, htimer, rfl⟩ := List.mem_map.1 htime
                rw [clock, ← hclock]
                exact htimers timer htimer
            have hle := foldl_min_le (next.timers.map (·.due)) flight.deadline
            generalize (next.timers.map (·.due)).foldl min flight.deadline = due at hdue hle ⊢
            have hkeeps'' : base.Keeps ({ timeline with scene := flown }.atClock due).scene :=
              ⟨hkeeps'.engine, hkeeps'.failure, hkeeps'.source_answer, hkeeps'.quiet⟩
            have hless : next.deadline - ({ timeline with scene := flown }.atClock due).clock < wait := by
              rw [clock_atClock, hsame, ← hwait]
              omega
            obtain ⟨⟨clocks, hfly⟩, htasks⟩ := ih _ hless hkeeps'' hidle hof' rfl
            rw [if_pos ⟨hdue, hle⟩, ← hsame]
            refine ⟨⟨due :: clocks, ?_⟩, htasks⟩
            rw [List.map_cons, hfirst]
            exact hfly

/-- A direct scan of an idle timeline is a flight that is polled in turns, and lands. -/
theorem exists_fly_runScanAt (timeline : Timeline) (hidle : timeline.tasks = [])
    (hquiet : timeline.scene.IsQuiet) (now : Instant) (cancelAfter : Option Nat) :
    let launched := Flight.launch { timeline.scene with signalled := false }
      (.direct (cancelAfter.map fun millis => (timeline.scene.timer millis).due)) now
    (∃ clocks : List Nat, launched.2.fly launched.1 (clocks.map Turn.waitUntil) =
        ((timeline.runScanAt now cancelAfter).1.scene, .landed (timeline.runScanAt now cancelAfter).2))
      ∧ (timeline.runScanAt now cancelAfter).1.tasks = [] := by
  intro launched
  have hquiet' : launched.1.IsQuiet := hquiet
  have hidle' : { timeline with scene := launched.1 }.tasks = [] := hidle
  obtain ⟨⟨clocks, hfly⟩, htasks⟩ := exists_fly_follow hquiet' (.refl launched.1) hidle'
    (Flight.isOf_launch _ _ now)
  exact ⟨⟨_, hfly⟩, htasks⟩

/-- **A direct scan of an idle timeline is a scan of its engine**, at the given moment, of what the sources
answer. It leaves the timeline idle. -/
theorem runScanAt_eq_scan (timeline : Timeline) (hidle : timeline.tasks = [])
    (hquiet : timeline.scene.IsQuiet) (now : Instant) (cancelAfter : Option Nat) :
    (∃ scan : Scan, scan.now = now ∧ scan.answer = timeline.scene.answer
        ∧ timeline.engine.scan scan =
          ((timeline.runScanAt now cancelAfter).1.engine, (timeline.runScanAt now cancelAfter).2))
      ∧ (timeline.runScanAt now cancelAfter).1.tasks = []
      ∧ (timeline.runScanAt now cancelAfter).1.scene.IsQuiet := by
  let launched := Flight.launch { timeline.scene with signalled := false }
    (.direct (cancelAfter.map fun millis => (timeline.scene.timer millis).due)) now
  have hquiet' : launched.1.IsQuiet := hquiet
  obtain ⟨⟨clocks, hfly⟩, htasks⟩ := exists_fly_runScanAt timeline hidle hquiet now cancelAfter
  obtain ⟨hlanded, cluster, backend, cancelled, elapsed, hcluster, hbackend, hconclude⟩ :=
    Flight.concludes_fly hquiet' (.refl launched.1) (Flight.isOf_launch _ _ now) hfly
  exact ⟨⟨⟨now, timeline.scene.answer, cluster, backend, hcluster, hbackend, cancelled, elapsed⟩, rfl,
    rfl, hconclude⟩, htasks, hlanded⟩

end Timeline

end OrphanWatch
