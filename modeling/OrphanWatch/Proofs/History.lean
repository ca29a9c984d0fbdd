import OrphanWatch.Proofs.Classification
import OrphanWatch.Proofs.Correlation
import OrphanWatch.Proofs.Scan

/-!
# The history of a key

Every committed scan observes a key in one of three ways: one side alone holds it, it is gone, or the scan
does not tell. The history of a key lists these observations; a streak is what remains of it from an
observation on one side on, if the key is never gone and never on the other side afterwards.
-/

namespace OrphanWatch

inductive Observation where
  /-- The record is there on one side and has no counterpart. -/
  | one (side : OrphanSide) (record : Record)
  /-- Both sides hold the key, or a bound claim does, or nothing does. -/
  | gone
  /-- The scan leaves the key alone. -/
  | withheld
  deriving DecidableEq, Repr

def Observation.isOn (side : OrphanSide) : Observation → Bool
  | one other _ => other == side
  | _ => false

def Record.isYoungSnapshot (record : Record) (now : Instant) (retention : Int) : Bool :=
  record.kind == .backendSnapshot
    && record.createdAt.any fun created => decide (now.since created < retention)

/-- The observation of a key. A settled key is gone, even if an unbound claim has it as well. A key that has
a pair is not to be left alone for another reason than its age (`Attempt.sighting_of_pair`). -/
def Sighting.observation (sighting : Sighting) (now : Instant) (retention : Int) : Observation :=
  if sighting.settled then .gone
  else
    match sighting.pair with
    | some (.healthy ..) => .gone
    | some (.clusterOnly record) => .one .clusterOnly record
    | some (.backendOnly record) =>
      if record.isYoungSnapshot now retention then .withheld else .one .backendOnly record
    | none => if sighting.excluded || sighting.skipped then .withheld else .gone

/-- A key that has a pair is not excluded, and its scope is not skipped. -/
theorem Attempt.sighting_of_pair {cluster backend : Inventory} {key : Key} {pair : Pair}
    (hpair : (Attempt.correlation cluster backend).pairs.get? key = some pair) :
    let sighting := (Attempt.correlation cluster backend).sighting (skippedScopes cluster backend) key
    sighting.excluded = false ∧ sighting.skipped = false := by
  refine ⟨Correlation.excludedKeys_of_pair hpair, ?_⟩
  obtain ⟨record, hmem, hkey⟩ := Correlation.mem_of_pair hpair
  have hscope := (Key.isNormal_of_ofRecord? hkey).2
  have hobserved : (skippedScopes cluster backend).contains record.kind.scope = false := by
    rcases List.mem_append.1 hmem with hmem | hmem
    · simpa using (List.mem_filter.1 hmem).2
    · simpa using (List.mem_filter.1 hmem).2
  rw [Correlation.sighting, hscope]
  exact hobserved

def Scan.observation? (retention : Int) (key : Key) (scan : Scan) : Option (Instant × Observation) :=
  scan.inventories?.map fun (cluster, backend) =>
    (scan.now, ((Attempt.correlation cluster backend).sighting (skippedScopes cluster backend)
      key).observation scan.now retention)

def history (retention : Int) (key : Key) (scans : List Scan) : List (Instant × Observation) :=
  scans.filterMap (Scan.observation? retention key)

section Streak

variable (history : List (Instant × Observation)) (side : OrphanSide) (start : Nat)

def IsOpen : Prop :=
  ∃ (i : Nat) (now : Instant) (side : OrphanSide) (record : Record),
    history[i]? = some (now, .one side record)
      ∧ ∀ (j : Nat) (time : Instant), i < j → history[j]? ≠ some (time, .gone)

/-- A streak begins with the key on one side, and afterwards it is neither gone nor on the other side. -/
structure IsStreak : Prop where
  begins : ∃ (now : Instant) (record : Record), history[start]? = some (now, .one side record)
  unbroken : ∀ (j : Nat) (now : Instant) (observation : Observation), start ≤ j →
    history[j]? = some (now, observation) →
      observation = .withheld ∨ ∃ record, observation = .one side record

structure IsWholeStreak : Prop extends IsStreak history side start where
  earliest : ∀ i < start, ¬ IsStreak history side i

def countOn (entries : List (Instant × Observation)) : Nat :=
  entries.countP fun entry => entry.2.isOn side

/-- Whether the observation with the given number is one on the side, and the streak up to it meets the
policy: it is long enough, counted up to the greatest number that is counted, and old enough. -/
def Ripens (policy : Policy) (j : Nat) : Prop :=
  start ≤ j ∧ ∃ (first : Instant) (observation : Observation) (now : Instant) (record : Record),
    history[start]? = some (first, observation)
      ∧ history[j]? = some (now, .one side record)
      ∧ policy.observations ≤ min (countOn side ((history.take (j + 1)).drop start))
          Candidate.maxObservations
      ∧ policy.minAge ≤ now.since first

end Streak

/-! ### One more observation -/

variable {history : List (Instant × Observation)} {side : OrphanSide} {start : Nat} {now : Instant}
  {observation : Observation} {record : Record} {policy : Policy}

theorem history_append_singleton (retention : Int) (key : Key) (scans : List Scan) (scan : Scan) :
    OrphanWatch.history retention key (scans ++ [scan]) =
      OrphanWatch.history retention key scans ++ (scan.observation? retention key).toList := by
  rw [OrphanWatch.history, List.filterMap_append]
  cases hobservation : scan.observation? retention key <;>
    simp [hobservation, OrphanWatch.history]

theorem getElem?_concat_eq_some_iff {last entry : Instant × Observation} {j : Nat} :
    (history ++ [last])[j]? = some entry ↔
      history[j]? = some entry ∨ (j = history.length ∧ last = entry) := by
  rw [List.getElem?_append]
  by_cases hlt : j < history.length
  · have hne : j ≠ history.length := Nat.ne_of_lt hlt
    simp [hlt, hne]
  · have hnone : history[j]? = none := List.getElem?_eq_none (Nat.le_of_not_lt hlt)
    rw [if_neg hlt, hnone, List.getElem?_singleton]
    by_cases heq : j = history.length
    · simp [heq]
    · have hpos : j - history.length ≠ 0 := by omega
      simp [heq, hpos]

theorem lt_length_of_getElem? {entry : Instant × Observation} {j : Nat}
    (hentry : history[j]? = some entry) : j < history.length :=
  (List.getElem?_eq_some_iff.1 hentry).1

theorem isOpen_concat_one : IsOpen (history ++ [(now, .one side record)]) := by
  refine ⟨history.length, now, side, record, List.getElem?_concat_length .., ?_⟩
  intro j time hlt hgone
  have hlength := lt_length_of_getElem? hgone
  rw [List.length_append, List.length_singleton] at hlength
  omega

theorem not_isOpen_concat_gone : ¬ IsOpen (history ++ [(now, .gone)]) := by
  rintro ⟨i, time, side, record, hone, hafter⟩
  rcases getElem?_concat_eq_some_iff.1 hone with hbefore | ⟨-, hlast⟩
  · exact hafter history.length now (lt_length_of_getElem? hbefore) (List.getElem?_concat_length ..)
  · cases hlast

/-- A scan that leaves the key alone does not change whether the key is open. -/
theorem isOpen_concat_withheld : IsOpen (history ++ [(now, .withheld)]) ↔ IsOpen history := by
  constructor
  · rintro ⟨i, time, side, record, hone, hafter⟩
    rcases getElem?_concat_eq_some_iff.1 hone with hbefore | ⟨-, hlast⟩
    · refine ⟨i, time, side, record, hbefore, fun j when hlt hgone => ?_⟩
      exact hafter j when hlt (getElem?_concat_eq_some_iff.2 (.inl hgone))
    · cases hlast
  · rintro ⟨i, time, side, record, hone, hafter⟩
    refine ⟨i, time, side, record, getElem?_concat_eq_some_iff.2 (.inl hone), ?_⟩
    intro j when hlt hgone
    rcases getElem?_concat_eq_some_iff.1 hgone with hbefore | ⟨-, hlast⟩
    · exact hafter j when hlt hbefore
    · cases hlast

def Observation.Continues (side : OrphanSide) (observation : Observation) : Prop :=
  observation = .withheld ∨ ∃ record, observation = .one side record

theorem IsStreak.lt_length (hstreak : IsStreak history side start) : start < history.length := by
  obtain ⟨now, record, hbegins⟩ := hstreak.begins
  exact lt_length_of_getElem? hbegins

/-- A streak goes on as long as the key is not gone and not on the other side. -/
theorem isStreak_concat_iff (hlt : start < history.length) :
    IsStreak (history ++ [(now, observation)]) side start ↔
      IsStreak history side start ∧ observation.Continues side := by
  constructor
  · rintro ⟨⟨first, record, hbegins⟩, hunbroken⟩
    refine ⟨⟨?_, fun j time other hle hentry => ?_⟩, ?_⟩
    · rcases getElem?_concat_eq_some_iff.1 hbegins with hbefore | ⟨heq, -⟩
      · exact ⟨first, record, hbefore⟩
      · omega
    · exact hunbroken j time other hle (getElem?_concat_eq_some_iff.2 (.inl hentry))
    · exact hunbroken history.length now observation (Nat.le_of_lt hlt)
        (List.getElem?_concat_length ..)
  · rintro ⟨⟨⟨first, record, hbegins⟩, hunbroken⟩, hcontinues⟩
    refine ⟨⟨first, record, getElem?_concat_eq_some_iff.2 (.inl hbegins)⟩, ?_⟩
    intro j time other hle hentry
    rcases getElem?_concat_eq_some_iff.1 hentry with hbefore | ⟨-, hlast⟩
    · exact hunbroken j time other hle hbefore
    · cases hlast
      exact hcontinues

theorem isStreak_concat_length :
    IsStreak (history ++ [(now, .one side record)]) side history.length := by
  refine ⟨⟨now, record, List.getElem?_concat_length ..⟩, fun j time other hle hentry => ?_⟩
  rcases getElem?_concat_eq_some_iff.1 hentry with hbefore | ⟨-, hlast⟩
  · exact absurd (lt_length_of_getElem? hbefore) (Nat.not_lt.2 hle)
  · cases hlast
    exact .inr ⟨record, rfl⟩

/-- Of two streaks the later one begins within the other. -/
theorem IsStreak.side_eq {other : OrphanSide} {i : Nat} (hstreak : IsStreak history side start)
    (hother : IsStreak history other i) : side = other := by
  obtain ⟨first, record, hbegins⟩ := hstreak.begins
  obtain ⟨first', record', hbegins'⟩ := hother.begins
  rcases Nat.le_total start i with hle | hle
  · rcases hstreak.unbroken i _ _ hle hbegins' with hwithheld | ⟨_, hone⟩
    · cases hwithheld
    · cases hone
      rfl
  · rcases hother.unbroken start _ _ hle hbegins with hwithheld | ⟨_, hone⟩
    · cases hwithheld
    · cases hone
      rfl

theorem IsStreak.isOpen (hstreak : IsStreak history side start) : IsOpen history := by
  obtain ⟨first, record, hbegins⟩ := hstreak.begins
  refine ⟨start, first, side, record, hbegins, fun j time hlt hgone => ?_⟩
  rcases hstreak.unbroken j time .gone (Nat.le_of_lt hlt) hgone with hwithheld | ⟨_, hone⟩
  · cases hwithheld
  · cases hone

theorem IsWholeStreak.concat (hwhole : IsWholeStreak history side start)
    (hcontinues : observation.Continues side) :
    IsWholeStreak (history ++ [(now, observation)]) side start where
  toIsStreak := (isStreak_concat_iff hwhole.lt_length).2 ⟨hwhole.toIsStreak, hcontinues⟩
  earliest := fun i hi hstreak =>
    have hlt : i < history.length := Nat.lt_trans hi hwhole.lt_length
    hwhole.earliest i hi ((isStreak_concat_iff hlt).1 hstreak).1

/-- A streak begins where the key is on a side that it was not on before. -/
theorem isWholeStreak_concat_length (hnone : ∀ i, ¬ IsStreak history side i) :
    IsWholeStreak (history ++ [(now, .one side record)]) side history.length where
  toIsStreak := isStreak_concat_length
  earliest := fun i hi hstreak => hnone i ((isStreak_concat_iff hi).1 hstreak).1

theorem countOn_drop_concat (hle : start ≤ history.length) :
    countOn side ((history ++ [(now, observation)]).drop start) =
      countOn side (history.drop start) + if observation.isOn side then 1 else 0 := by
  rw [List.drop_append_of_le_length hle, countOn, List.countP_append, List.countP_singleton]
  rfl

theorem Ripens.lt_length {j : Nat} (hripens : Ripens history side start policy j) :
    j < history.length := by
  obtain ⟨-, first, opening, now, record, -, hentry, -⟩ := hripens
  exact lt_length_of_getElem? hentry

/-- What comes later has no influence on when an observation ripens. -/
theorem ripens_concat_of_lt {j : Nat} (hlt : j < history.length) :
    Ripens (history ++ [(now, observation)]) side start policy j ↔
      Ripens history side start policy j := by
  unfold Ripens
  refine and_congr_right fun hle => ?_
  have hstart : start < history.length := Nat.lt_of_le_of_lt hle hlt
  rw [List.getElem?_append_left hlt, List.getElem?_append_left hstart,
    List.take_append_of_le_length hlt]

end OrphanWatch
