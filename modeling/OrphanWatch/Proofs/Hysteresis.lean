import Mathlib.Data.List.Induction
import OrphanWatch.Proofs.History

/-!
# Hysteresis over whole runs

After a run there is an active candidate of a key exactly if the key was seen on one side alone and has not
been gone since, and everything the candidate says can be read off the streak that the history ends with
(`Engine.hysteresis_of_history`). The clock may go backwards, and scans may be degraded, cancelled, or leave
the key alone in between.
-/

namespace OrphanWatch

/-- Confirmed, if at all, at the first observation of the streak that ripens. -/
def Candidate.PromotedBy (policy : Policy) (history : List (Instant × Observation)) (start : Nat)
    (candidate : Candidate) : Prop :=
  (candidate.state = .candidate ∧ candidate.confirmedAt = none
      ∧ ∀ j, ¬ Ripens history candidate.side start policy j)
    ∨ (candidate.state = .confirmed
      ∧ ∃ (j : Nat) (now : Instant) (observation : Observation),
        history[j]? = some (now, observation)
        ∧ candidate.confirmedAt = some now ∧ Ripens history candidate.side start policy j
        ∧ ∀ i < j, ¬ Ripens history candidate.side start policy i)

/-- What an active candidate tells about the history of its key. -/
structure Candidate.Follows (policy : Policy) (history : List (Instant × Observation)) (start : Nat)
    (candidate : Candidate) : Prop where
  streak : IsWholeStreak history candidate.side start
  firstObserved : ∃ record : Record,
    history[start]? = some (candidate.firstObservedAt, .one candidate.side record)
  lastObserved : ∃ (j : Nat) (record : Record),
    history[j]? = some (candidate.lastObservedAt, .one candidate.side record)
      ∧ candidate.nativeId = record.nativeId ∧ candidate.sizeBytes = record.sizeBytes
      ∧ ∀ (i : Nat) (now : Instant) (side : OrphanSide) (record : Record), j < i →
          history[i]? ≠ some (now, .one side record)
  observed : candidate.observations =
    min (countOn candidate.side (history.drop start)) maxObservations
  promotion : candidate.PromotedBy policy history start

def Tracks (policy : Policy) (history : List (Instant × Observation)) (entry : Option Candidate) :
    Prop :=
  (entry.isSome = true ↔ IsOpen history)
    ∧ ∀ candidate, entry = some candidate → ∃ start, candidate.Follows policy history start

namespace Candidate

variable {policy : Policy} {history : List (Instant × Observation)} {start : Nat}
  {candidate : Candidate} {now : Instant} {observation : Observation} {record : Record}

theorem evaluate_eq (candidate : Candidate) (now : Instant) (policy : Policy) :
    ∃ state confirmedAt, (candidate.evaluate now policy).1 = { candidate with state, confirmedAt } := by
  unfold evaluate
  split
  · exact ⟨_, _, rfl⟩
  · exact ⟨candidate.state, candidate.confirmedAt, rfl⟩

theorem PromotedBy.isActive (hpromoted : candidate.PromotedBy policy history start) :
    candidate.isActive = true := by
  rcases hpromoted with ⟨hstate, -⟩ | ⟨hstate, -⟩ <;> simp [Candidate.isActive, hstate]

/-- A candidate is confirmed exactly if one of its observations has ripened. -/
theorem PromotedBy.confirmed_iff (hpromoted : candidate.PromotedBy policy history start) :
    candidate.state = .confirmed ↔ ∃ j, Ripens history candidate.side start policy j := by
  rcases hpromoted with ⟨hstate, -, hnone⟩ | ⟨hstate, j, now, observation, -, -, hripens, -⟩
  · rw [hstate]
    constructor
    · intro hconfirmed
      cases hconfirmed
    · rintro ⟨j, hripens⟩
      exact absurd hripens (hnone j)
  · exact ⟨fun _ => ⟨j, hripens⟩, fun _ => hstate⟩

theorem PromotedBy.concat (hpromoted : candidate.PromotedBy policy history start)
    (hunripe : candidate.state = .candidate →
      ¬ Ripens (history ++ [(now, observation)]) candidate.side start policy history.length) :
    candidate.PromotedBy policy (history ++ [(now, observation)]) start := by
  rcases hpromoted with ⟨hstate, hconfirmedAt, hnone⟩ |
    ⟨hstate, j, time, other, hentry, hconfirmedAt, hripens, hfirst⟩
  · refine .inl ⟨hstate, hconfirmedAt, fun j hripens => ?_⟩
    have hlength := hripens.lt_length
    rw [List.length_append, List.length_singleton] at hlength
    rcases Nat.lt_succ_iff_lt_or_eq.1 hlength with hlt | rfl
    · exact hnone j ((ripens_concat_of_lt hlt).1 hripens)
    · exact hunripe hstate hripens
  · have hlt := hripens.lt_length
    refine .inr ⟨hstate, j, time, other, getElem?_concat_eq_some_iff.2 (.inl hentry), hconfirmedAt,
      (ripens_concat_of_lt hlt).2 hripens, fun i hi hearlier => ?_⟩
    exact hfirst i hi ((ripens_concat_of_lt (Nat.lt_trans hi hlt)).1 hearlier)

/-- A candidate that counts the streak meets the policy if the observation that was just added ripens. -/
theorem isMetBy_iff_ripens (hle : start ≤ history.length) {opening : Record}
    (hfirst : (history ++ [(now, .one candidate.side record)])[start]? =
      some (candidate.firstObservedAt, .one candidate.side opening))
    (hobserved : candidate.observations =
      min (countOn candidate.side
        ((history ++ [(now, Observation.one candidate.side record)]).drop start)) maxObservations) :
    policy.isMetBy candidate now = true ↔
      Ripens (history ++ [(now, .one candidate.side record)]) candidate.side start policy
        history.length := by
  have hwhole : (history ++ [(now, Observation.one candidate.side record)]).take
      (history.length + 1) = history ++ [(now, .one candidate.side record)] := by
    refine List.take_of_length_le (Nat.le_of_eq ?_)
    rw [List.length_append, List.length_singleton]
  rw [Policy.isMetBy, Bool.and_eq_true, decide_eq_true_eq, decide_eq_true_eq, age, hobserved,
    Ripens, hwhole]
  constructor
  · rintro ⟨hcount, hage⟩
    exact ⟨hle, _, _, now, record, hfirst, List.getElem?_concat_length .., hcount, hage⟩
  · rintro ⟨-, first, other, time, record', hfirst', hlast, hcount, hage⟩
    rw [hfirst] at hfirst'
    rw [List.getElem?_concat_length] at hlast
    cases hfirst'
    cases hlast
    exact ⟨hcount, hage⟩

theorem PromotedBy.evaluate (hpromoted : candidate.PromotedBy policy history start)
    (hle : start ≤ history.length) {opening : Record}
    (hfirst : (history ++ [(now, .one candidate.side record)])[start]? =
      some (candidate.firstObservedAt, .one candidate.side opening))
    (hobserved : candidate.observations =
      min (countOn candidate.side
        ((history ++ [(now, Observation.one candidate.side record)]).drop start)) maxObservations) :
    (candidate.evaluate now policy).1.PromotedBy policy
      (history ++ [(now, .one candidate.side record)]) start := by
  have hmet : policy.isMetBy candidate now = true ↔
      Ripens (history ++ [(now, .one candidate.side record)]) candidate.side start policy
        history.length := isMetBy_iff_ripens hle hfirst hobserved
  unfold Candidate.evaluate
  split
  · next hconfirms =>
      obtain ⟨hstate, hmeets⟩ := hconfirms
      rcases hpromoted with ⟨-, -, hnone⟩ | ⟨hconfirmed, -⟩
      · refine .inr ⟨rfl, history.length, now, _, List.getElem?_concat_length .., rfl,
          hmet.1 hmeets, fun i hi hearlier => ?_⟩
        exact hnone i ((ripens_concat_of_lt hi).1 hearlier)
      · rw [hstate] at hconfirmed
        cases hconfirmed
  · next hwaits =>
      exact hpromoted.concat fun hstate hripens => hwaits ⟨hstate, hmet.2 hripens⟩

theorem Follows.concat_withheld (hfollows : candidate.Follows policy history start) :
    candidate.Follows policy (history ++ [(now, .withheld)]) start where
  streak := hfollows.streak.concat (.inl rfl)
  firstObserved := by
    obtain ⟨record, hfirst⟩ := hfollows.firstObserved
    exact ⟨record, getElem?_concat_eq_some_iff.2 (.inl hfirst)⟩
  lastObserved := by
    obtain ⟨j, record, hlast, hid, hsize, hlatest⟩ := hfollows.lastObserved
    refine ⟨j, record, getElem?_concat_eq_some_iff.2 (.inl hlast), hid, hsize, ?_⟩
    intro i time side other hlt hone
    rcases getElem?_concat_eq_some_iff.1 hone with hbefore | ⟨-, hwithheld⟩
    · exact hlatest i time side other hlt hbefore
    · cases hwithheld
  observed := by
    have hle : start ≤ history.length := Nat.le_of_lt hfollows.streak.lt_length
    rw [hfollows.observed, countOn_drop_concat hle]
    rfl
  promotion := by
    refine hfollows.promotion.concat fun _ hripens => ?_
    obtain ⟨-, first, opening, time, record, -, hlast, -⟩ := hripens
    rw [List.getElem?_concat_length] at hlast
    cases hlast

theorem lastObserved_concat (history : List (Instant × Observation)) (now : Instant)
    (side : OrphanSide) (record : Record) :
    ∃ (j : Nat) (last : Record),
      (history ++ [(now, .one side record)])[j]? = some (now, .one side last)
        ∧ record.nativeId = last.nativeId ∧ record.sizeBytes = last.sizeBytes
        ∧ ∀ (i : Nat) (time : Instant) (other : OrphanSide) (later : Record), j < i →
          (history ++ [(now, .one side record)])[i]? ≠ some (time, .one other later) := by
  refine ⟨history.length, record, List.getElem?_concat_length .., rfl, rfl, ?_⟩
  intro i time other later hlt hone
  have hlength := lt_length_of_getElem? hone
  rw [List.length_append, List.length_singleton] at hlength
  omega

/-- One more observation on the side goes on with the streak. -/
theorem Follows.observe (hfollows : candidate.Follows policy history start) (generation : Nat) :
    (candidate.observe record generation now policy).1.Follows policy
      (history ++ [(now, .one candidate.side record)]) start := by
  have hle : start ≤ history.length := Nat.le_of_lt hfollows.streak.lt_length
  obtain ⟨opening, hfirst⟩ := hfollows.firstObserved
  have hfirst' : (history ++ [(now, Observation.one candidate.side record)])[start]? =
      some (candidate.firstObservedAt, .one candidate.side opening) :=
    getElem?_concat_eq_some_iff.2 (.inl hfirst)
  have hobserved : (candidate.recount record generation now).observations =
      min (countOn candidate.side
        ((history ++ [(now, Observation.one candidate.side record)]).drop start)) maxObservations := by
    have hon : (Observation.one candidate.side record).isOn candidate.side = true := by
      simp [Observation.isOn]
    rw [recount, hfollows.observed, countOn_drop_concat hle, if_pos hon]
    simp only
    omega
  have hpromoted : (candidate.recount record generation now).PromotedBy policy history start :=
    hfollows.promotion
  have hpromotion : ((candidate.recount record generation now).evaluate now policy).1.PromotedBy policy
      (history ++ [(now, .one candidate.side record)]) start :=
    hpromoted.evaluate hle hfirst' hobserved
  rw [Candidate.observe]
  obtain ⟨state, confirmedAt, heq⟩ :=
    evaluate_eq (candidate.recount record generation now) now policy
  rw [heq] at hpromotion ⊢
  exact
    { streak := hfollows.streak.concat (.inr ⟨record, rfl⟩)
      firstObserved := ⟨opening, hfirst'⟩
      lastObserved := lastObserved_concat history now candidate.side record
      observed := hobserved
      promotion := hpromotion }

/-- A candidate that is started begins a streak of its own. -/
theorem follows_start {side : OrphanSide} (hnone : ∀ i, ¬ IsStreak history side i) (key : Key)
    (generation : Nat) :
    ((Candidate.start key side record generation now).evaluate now policy).1.Follows policy
      (history ++ [(now, .one side record)]) history.length := by
  have hfirst : (history ++ [(now, Observation.one side record)])[history.length]? =
      some (now, .one side record) := List.getElem?_concat_length ..
  have hobserved : (Candidate.start key side record generation now).observations =
      min (countOn side ((history ++ [(now, Observation.one side record)]).drop history.length))
        maxObservations := by
    rw [List.drop_left]
    simp [Candidate.start, countOn, Observation.isOn, maxObservations]
  have hpromoted : (Candidate.start key side record generation now).PromotedBy policy history
      history.length := by
    refine .inl ⟨rfl, rfl, fun j hripens => ?_⟩
    exact absurd hripens.lt_length (Nat.not_lt.2 hripens.1)
  have hpromotion := hpromoted.evaluate (Nat.le_refl _) hfirst hobserved
  obtain ⟨state, confirmedAt, heq⟩ :=
    evaluate_eq (Candidate.start key side record generation now) now policy
  rw [heq] at hpromotion ⊢
  exact
    { streak := isWholeStreak_concat_length hnone
      firstObserved := ⟨record, hfirst⟩
      lastObserved := lastObserved_concat history now side record
      observed := hobserved
      promotion := hpromotion }

end Candidate

namespace Round

variable {round : Round} {key : Key} {entry : Option Candidate}

theorem filter_isActive_map_ended (resolution : Resolution) :
    (entry.map (round.ended resolution)).filter Candidate.isActive = none := by
  cases entry with
  | none => rfl
  | some candidate =>
      have hstate := state_ended round resolution candidate
      simp [Option.filter, Candidate.isActive, hstate]

theorem filter_isActive_kept :
    (round.kept entry).filter Candidate.isActive = entry.filter Candidate.isActive := by
  rw [kept, Option.filter_filter]
  congr 1
  funext candidate
  cases hstate : candidate.state <;> simp [Candidate.isActive, Candidate.isExpired, hstate]

/-- A candidate that is not active might as well not be there. -/
theorem followed_filter_isActive (side : OrphanSide) (record : Record) :
    round.followed key side record (entry.filter Candidate.isActive) =
      round.followed key side record entry := by
  rw [followed_eq, Option.filter_filter, followed_eq]
  have hsame : (fun candidate : Candidate =>
      candidate.isActive && (candidate.isActive && candidate.side == side)) =
        fun candidate => candidate.isActive && candidate.side == side := by
    funext candidate
    rw [← Bool.and_assoc, Bool.and_self]
  simp only [hsame]

theorem isActive_evaluate {candidate : Candidate} {now : Instant} {policy : Policy}
    (hactive : candidate.isActive = true) : (candidate.evaluate now policy).1.isActive = true := by
  unfold Candidate.evaluate
  split
  · rfl
  · exact hactive

theorem isActive_followed (side : OrphanSide) (record : Record) :
    (round.followed key side record entry).isActive = true := by
  rw [followed_eq]
  split
  · next candidate hcontinuing =>
      have hactive := (Option.filter_eq_some_iff.1 hcontinuing).2
      rw [Bool.and_eq_true] at hactive
      have hrecounted : (candidate.recount record round.generation round.now).isActive = true :=
        hactive.1
      exact isActive_evaluate hrecounted
  · exact isActive_evaluate rfl

/-- What a scan makes of the active entry of a key, by its observation. -/
theorem filter_isActive_passed (sighting : Sighting) :
    (round.passed key sighting entry).filter Candidate.isActive =
      match sighting.observation round.now round.retention with
      | .withheld => entry.filter Candidate.isActive
      | .gone => none
      | .one side record =>
          some (round.followed key side record (entry.filter Candidate.isActive)) := by
  obtain ⟨pair, isSettled, isExcluded, isSkipped⟩ := sighting
  have hfollowed : ∀ side record,
      (some (round.followed key side record (round.kept entry))).filter Candidate.isActive =
        some (round.followed key side record (entry.filter Candidate.isActive)) := by
    intro side record
    rw [← followed_filter_isActive, filter_isActive_kept,
      Option.filter_some, if_pos (isActive_followed side record)]
  cases isSettled with
  | true =>
      have hended : ∀ state : Option Candidate, ∀ isGone,
          (round.vanished isGone (round.settled true state)).filter Candidate.isActive = none := by
        intro state isGone
        cases isGone <;> exact filter_isActive_map_ended _
      exact hended _ _
  | false =>
      cases pair with
      | none =>
          cases isExcluded <;> cases isSkipped
          · exact filter_isActive_map_ended _
          · exact filter_isActive_kept
          · exact filter_isActive_kept
          · exact filter_isActive_kept
      | some pair =>
          cases pair with
          | healthy cluster backend => exact filter_isActive_map_ended _
          | clusterOnly record => exact hfollowed .clusterOnly record
          | backendOnly record =>
              have hyoung : record.isYoungSnapshot round.now round.retention =
                  round.withholds record := rfl
              simp only [passed, paired, Pair.orphan?, Sighting.observation, hyoung]
              cases round.withholds record with
              | true => exact filter_isActive_kept
              | false => exact hfollowed .backendOnly record

end Round

namespace Tracks

variable {policy : Policy} {history : List (Instant × Observation)} {entry : Option Candidate}
  {now : Instant}

theorem nil : Tracks policy [] none := by
  have hclosed : ¬ IsOpen [] := by
    rintro ⟨i, time, side, record, hone, -⟩
    cases hone
  refine ⟨⟨fun hsome => ?_, fun hopen => absurd hopen hclosed⟩, fun candidate hentry => ?_⟩
  · cases hsome
  · cases hentry

theorem concat_withheld (htracks : Tracks policy history entry) :
    Tracks policy (history ++ [(now, .withheld)]) entry := by
  obtain ⟨hopen, hfollows⟩ := htracks
  refine ⟨hopen.trans isOpen_concat_withheld.symm, fun candidate hentry => ?_⟩
  obtain ⟨start, hcandidate⟩ := hfollows candidate hentry
  exact ⟨start, hcandidate.concat_withheld⟩

theorem concat_gone : Tracks policy (history ++ [(now, .gone)]) none := by
  refine ⟨⟨fun hsome => ?_, fun hopen => absurd hopen not_isOpen_concat_gone⟩,
    fun candidate hentry => ?_⟩
  · cases hsome
  · cases hentry

theorem concat_one {round : Round} (hpolicy : round.policy = policy)
    (htracks : Tracks policy history entry) (key : Key) (side : OrphanSide) (record : Record) :
    Tracks policy (history ++ [(round.now, .one side record)])
      (some (round.followed key side record entry)) := by
  obtain ⟨hopen, hfollows⟩ := htracks
  refine ⟨⟨fun _ => isOpen_concat_one, fun _ => rfl⟩, fun candidate hentry => ?_⟩
  cases hentry
  rw [Round.followed_eq, hpolicy]
  split
  · next candidate hcontinuing =>
      obtain ⟨hentry, hsame⟩ := Option.filter_eq_some_iff.1 hcontinuing
      obtain ⟨start, hcandidate⟩ := hfollows candidate hentry
      rw [Bool.and_eq_true, beq_iff_eq] at hsame
      obtain ⟨-, rfl⟩ := hsame
      exact ⟨start, hcandidate.observe round.generation⟩
  · next hfresh =>
      -- A streak on the side would have kept a candidate of that side in the entry.
      have hnone : ∀ i, ¬ IsStreak history side i := by
        intro i hstreak
        obtain ⟨candidate, hentry⟩ := Option.isSome_iff_exists.1 (hopen.2 hstreak.isOpen)
        obtain ⟨start, hcandidate⟩ := hfollows candidate hentry
        have hside : candidate.side = side := hcandidate.streak.toIsStreak.side_eq hstreak
        rw [hentry, Option.filter_some, hcandidate.promotion.isActive, hside, beq_self_eq_true] at hfresh
        cases hfresh
      exact ⟨history.length, Candidate.follows_start hnone key round.generation⟩

end Tracks

def Snapshot.active? (snapshot : Snapshot) (key : Key) : Option Candidate :=
  (snapshot.candidates.get? key).filter Candidate.isActive

/-- One scan keeps a history and the entry of its key in step. -/
theorem Snapshot.tracks_after {policy : Policy} {retention : Int} {snapshot : Snapshot} {key : Key}
    {history : List (Instant × Observation)} (htracks : Tracks policy history (snapshot.active? key))
    (scan : Scan) :
    Tracks policy (history ++ (scan.observation? retention key).toList)
      ((snapshot.after policy retention scan).active? key) := by
  rw [Snapshot.after, Scan.observation?]
  cases scan.inventories? with
  | none =>
      rw [Option.map_none, Option.toList_none, List.append_nil]
      exact htracks
  | some inventories =>
      obtain ⟨cluster, backend⟩ := inventories
      simp only [Option.map_some, Option.toList_some, active?, advanced]
      rw [Classification.get?_run, Round.filter_isActive_passed]
      generalize Correlation.sighting _ _ key = sighting
      cases sighting.observation scan.now retention with
      | withheld => exact htracks.concat_withheld
      | gone => exact Tracks.concat_gone
      | one side record => exact htracks.concat_one rfl key side record

/-- After any run the active candidate of a key is the one that the history of the key calls for. -/
theorem Engine.tracks_scanAll {engine : Engine} (hempty : engine.store.snapshot = .initial)
    (key : Key) (scans : List Scan) :
    Tracks engine.policy (history engine.retention key scans)
      ((engine.scanAll scans).store.snapshot.active? key) := by
  rw [snapshot_scanAll, hempty]
  induction scans using List.reverseRecOn with
  | nil => exact Tracks.nil
  | append_singleton before scan ih =>
      rw [history_append_singleton, List.foldl_append]
      exact Snapshot.tracks_after ih scan

/-- **Hysteresis is exact over whole runs.** There is an active candidate of a key exactly if the key was
on one side and has not been gone since; the candidate follows the streak that its history ends with, and
is confirmed exactly if some observation of the streak ripens. -/
theorem Engine.hysteresis_of_history (engine : Engine) (hempty : engine.store.snapshot = .initial)
    (scans : List Scan) (key : Key) :
    let history := history engine.retention key scans
    let entry := (engine.scanAll scans).store.snapshot.active? key
    (entry.isSome = true ↔ IsOpen history)
      ∧ ∀ candidate, entry = some candidate →
        ∃ start, candidate.Follows engine.policy history start
          ∧ (candidate.state = .confirmed ↔
            ∃ j, Ripens history candidate.side start engine.policy j) := by
  obtain ⟨hopen, hfollows⟩ := tracks_scanAll hempty key scans
  refine ⟨hopen, fun candidate hentry => ?_⟩
  obtain ⟨start, hcandidate⟩ := hfollows candidate hentry
  exact ⟨start, hcandidate, hcandidate.promotion.confirmed_iff⟩

theorem Engine.hysteresis_of_two_observations :
    let record : Record := { Record.named .backendVolume "tank/a" with rawKey := some "A " }
    let engine := ofPolicy ⟨2, 5⟩ 0
    let scans : List Scan :=
      [.complete ⟨1, 0⟩ [record], .overdue ⟨3, 0⟩ [record] 1, .complete ⟨7, 0⟩ [record]]
    engine.store.snapshot = .initial
      ∧ ∃ candidate start,
        (engine.scanAll scans).store.snapshot.active? ⟨.volume, "a"⟩ = some candidate
        ∧ candidate.state = .confirmed
        ∧ candidate.Follows engine.policy (history engine.retention ⟨.volume, "a"⟩ scans) start := by
  intro record engine scans
  have hstate : ((engine.scanAll scans).store.snapshot.active? ⟨.volume, "a"⟩).map (·.state) =
      some .confirmed := by decide +kernel +revert
  obtain ⟨candidate, hentry, hconfirmed⟩ := Option.map_eq_some_iff.1 hstate
  obtain ⟨start, hfollows, -⟩ :=
    (hysteresis_of_history engine rfl scans ⟨.volume, "a"⟩).2 candidate hentry
  exact ⟨rfl, candidate, start, hentry, hconfirmed, hfollows⟩

end OrphanWatch
