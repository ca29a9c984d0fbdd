import Mathlib.Data.List.TakeWhile
import OrphanWatch.Backend.Records
import OrphanWatch.Cluster.Records
import OrphanWatch.Proofs.Accounting

/-!
# The names that both sides share

The cluster knows a volume by a handle, and the backend knows it by a path or by a property. The provisioner
puts the name of the volume at the end of all of these, so both sides derive the same key
(`Naming.sides_share_names`). What stands before the name does not matter, unless it makes a path look like an
iSCSI name.
-/

namespace OrphanWatch.Text

variable {mark : Char} {name : List Char}

theorem occursIn_eq_true_iff {part text : List Char} : occursIn part text = true ↔ part <:+: text := by
  induction text with
  | nil => rw [occursIn, List.isEmpty_iff, List.infix_nil]
  | cons c rest ih =>
      have hstart : (afterStart part (c :: rest)).isSome = true ↔ part <+: c :: rest := by
        rw [Option.isSome_iff_exists]
        exact exists_congr fun _ => afterStart_eq_some_iff.trans eq_comm
      rw [occursIn, Bool.or_eq_true, ih, hstart, List.infix_cons_iff]

theorem afterLast_append (hmark : mark ∉ name) (start : List Char) :
    afterLast mark (start ++ mark :: name) = name := by
  have hkeep : ∀ c ∈ name.reverse, decide (c ≠ mark) = true := by
    intro c hc
    exact decide_eq_true fun heq => hmark (heq ▸ List.mem_reverse.1 hc)
  have hstop : (mark :: start.reverse).takeWhile (fun c => decide (c ≠ mark)) = [] :=
    List.takeWhile_cons_of_neg (by simp)
  rw [afterLast, List.reverse_append, List.reverse_cons, List.append_assoc, List.singleton_append,
    List.takeWhile_append_of_pos hkeep, hstop, List.append_nil, List.reverse_reverse]

theorem afterLast_of_not_mem (hmark : mark ∉ name) : afterLast mark name = name := by
  have hkeep : ∀ c ∈ name.reverse, decide (c ≠ mark) = true := by
    intro c hc
    exact decide_eq_true fun heq => hmark (heq ▸ List.mem_reverse.1 hc)
  rw [afterLast, List.takeWhile_eq_self_iff.2 hkeep, List.reverse_reverse]

theorem dropEndWhile_isPrefix {α : Type} (p : α → Bool) (xs : List α) : dropEndWhile p xs <+: xs := by
  obtain ⟨cut, hxs, -⟩ := exists_eq_dropEndWhile_append p xs
  exact ⟨cut, hxs.symm⟩

theorem trim_infix (text : List Char) : trim text <:+: text :=
  (dropEndWhile_isPrefix isBlank _).isInfix.trans (List.dropWhile_suffix isBlank).isInfix

/-- Trimming what has a visible character before a trimmed end leaves both alone. -/
theorem trim_append_cons {c : Char} (hvisible : isBlank c = false) {ending : List Char}
    (hending : dropEndWhile isBlank ending = ending) (start : List Char) :
    trim (start ++ c :: ending) = start.dropWhile isBlank ++ c :: ending := by
  have hkept : (c :: ending).dropWhile isBlank = c :: ending :=
    List.dropWhile_cons_of_neg (by simp [hvisible])
  have hstart : (start ++ c :: ending).dropWhile isBlank = start.dropWhile isBlank ++ c :: ending := by
    rw [List.dropWhile_append, hkept]
    split
    · next hnil => rw [List.isEmpty_iff.1 hnil, List.nil_append]
    · rfl
  rw [trim, hstart]
  apply dropEndWhile_append (List.cons_ne_nil c ending)
  rw [dropEndWhile_cons_of_not hvisible, hending]

theorem trim_eq_self_iff {text : List Char} :
    trim text = text ↔ text.dropWhile isBlank = text ∧ dropEndWhile isBlank text = text := by
  constructor
  · intro htrim
    have hlength : text.length ≤ (text.dropWhile isBlank).length := by
      calc
        text.length = (dropEndWhile isBlank (text.dropWhile isBlank)).length := congrArg List.length htrim.symm
        _ ≤ (text.dropWhile isBlank).length := (dropEndWhile_isPrefix isBlank _).length_le
    have hstart : text.dropWhile isBlank = text :=
      (List.dropWhile_suffix isBlank).eq_of_length_le hlength
    rw [trim, hstart] at htrim
    exact ⟨hstart, htrim⟩
  · rintro ⟨hstart, hend⟩
    rw [trim, hstart, hend]

end OrphanWatch.Text

namespace OrphanWatch

namespace Naming

/-! ### Handles -/

def IsMarked (handle : String) : Prop :=
  "iqn.".toList <:+: handle.toList

instance (handle : String) : Decidable (IsMarked handle) :=
  decidable_of_iff _ Text.occursIn_eq_true_iff

structure IsLeaf (name : String) : Prop where
  nonempty : name.toList ≠ []
  trimmed : Text.trim name.toList = name.toList
  noSlash : '/' ∉ name.toList

structure IsVolumeName (name : String) : Prop extends IsLeaf name where
  noColon : ':' ∉ name.toList
  unmarked : ¬ IsMarked name

theorem IsLeaf.isBlankText_eq_false {name : String} (hleaf : IsLeaf name) :
    Text.isBlankText name = false := by
  apply Bool.eq_false_iff.2
  intro hblank
  have hnil := Text.trim_eq_nil_iff.2 (List.all_eq_true.1 hblank)
  exact hleaf.nonempty (hleaf.trimmed.symm.trans hnil)

/-- The handles of a volume: its name, a path that ends in it, and an iSCSI name. -/
inductive IsVolumeHandle (parent name : String) : String → Prop
  | bare : IsVolumeHandle parent name name
  | path : IsVolumeHandle parent name (parent ++ "/" ++ name)
  | iscsi (target : String) : IsVolumeHandle parent name ("iqn." ++ target ++ ":" ++ name)

inductive IsSnapshotHandle (parent name snapshot : String) : String → Prop
  | bare : IsSnapshotHandle parent name snapshot (name ++ "@" ++ snapshot)
  | path : IsSnapshotHandle parent name snapshot (parent ++ "/" ++ (name ++ "@" ++ snapshot))

variable {name parent : String}

/-- A handle that is no iSCSI name ends behind its last slash. -/
theorem lastName_of_unmarked {handle : String} (hunmarked : ¬ IsMarked handle) :
    lastName handle.toList = Text.afterLast '/' (Text.trim handle.toList) := by
  have hnot : ¬ Text.occursIn "iqn.".toList (Text.trim handle.toList) = true := fun hmarked =>
    hunmarked ((Text.occursIn_eq_true_iff.1 hmarked).trans (Text.trim_infix _))
  rw [lastName, if_neg hnot]

theorem handleName_eq_some {handle : String} (hlast : lastName handle.toList = name.toList)
    (hne : name.toList ≠ []) : handleName handle = some name := by
  rw [handleName, hlast]
  cases hname : name.toList with
  | nil => exact absurd hname hne
  | cons c rest => exact congrArg some (hname ▸ String.ofList_toList)

theorem handleName_bare (hleaf : IsLeaf name) (hunmarked : ¬ IsMarked name) :
    handleName name = some name := by
  apply handleName_eq_some _ hleaf.nonempty
  rw [lastName_of_unmarked hunmarked, hleaf.trimmed]
  exact Text.afterLast_of_not_mem hleaf.noSlash

theorem handleName_path (hleaf : IsLeaf name) (hunmarked : ¬ IsMarked (parent ++ "/" ++ name)) :
    handleName (parent ++ "/" ++ name) = some name := by
  have hsplit : (parent ++ "/" ++ name).toList = parent.toList ++ '/' :: name.toList := by simp
  apply handleName_eq_some _ hleaf.nonempty
  rw [lastName_of_unmarked hunmarked, hsplit,
    Text.trim_append_cons (by decide) (Text.trim_eq_self_iff.1 hleaf.trimmed).2]
  exact Text.afterLast_append hleaf.noSlash _

theorem handleName_iscsi (hname : IsVolumeName name) (target : String) :
    handleName ("iqn." ++ target ++ ":" ++ name) = some name := by
  have hsplit : ("iqn." ++ target ++ ":" ++ name).toList =
      ("iqn.".toList ++ target.toList) ++ ':' :: name.toList := by simp
  have hvisible : ("iqn.".toList ++ target.toList).dropWhile Text.isBlank =
      "iqn.".toList ++ target.toList := List.dropWhile_cons_of_neg (by decide)
  have hmarked : Text.occursIn "iqn.".toList (("iqn.".toList ++ target.toList) ++ ':' :: name.toList) =
      true := by
    rw [Text.occursIn_eq_true_iff, List.append_assoc]
    exact (List.prefix_append _ _).isInfix
  apply handleName_eq_some _ hname.nonempty
  rw [lastName, hsplit, Text.trim_append_cons (by decide) (Text.trim_eq_self_iff.1 hname.trimmed).2,
    hvisible, if_pos hmarked]
  exact Text.afterLast_append hname.noColon _

/-- All handles of a volume end in its name. -/
theorem handleName_of_isVolumeHandle (hname : IsVolumeName name)
    (hparent : ¬ IsMarked (parent ++ "/" ++ name)) {handle : String}
    (hhandle : IsVolumeHandle parent name handle) : handleName handle = some name := by
  cases hhandle with
  | bare => exact handleName_bare hname.toIsLeaf hname.unmarked
  | path => exact handleName_path hname.toIsLeaf hparent
  | iscsi target => exact handleName_iscsi hname target

/-- A snapshot is named at the end of a path as a volume is. -/
theorem isLeaf_snapshot (hname : IsVolumeName name) {snapshot : String}
    (htrimmed : Text.trim snapshot.toList = snapshot.toList) (hslash : '/' ∉ snapshot.toList) :
    IsLeaf (name ++ "@" ++ snapshot) := by
  have hsplit : (name ++ "@" ++ snapshot).toList = name.toList ++ '@' :: snapshot.toList := by simp
  refine ⟨?_, ?_, ?_⟩
  · simp [hsplit]
  · rw [hsplit, Text.trim_append_cons (by decide) (Text.trim_eq_self_iff.1 htrimmed).2,
      (Text.trim_eq_self_iff.1 hname.trimmed).1]
  · rw [hsplit, List.mem_append, List.mem_cons, not_or, not_or]
    exact ⟨hname.noSlash, by decide, hslash⟩

/-- All handles of a snapshot end in its name. -/
theorem handleName_of_isSnapshotHandle {snapshot : String} (hleaf : IsLeaf (name ++ "@" ++ snapshot))
    (hunmarked : ¬ IsMarked (parent ++ "/" ++ (name ++ "@" ++ snapshot))) {handle : String}
    (hhandle : IsSnapshotHandle parent name snapshot handle) :
    handleName handle = some (name ++ "@" ++ snapshot) := by
  cases hhandle with
  | path => exact handleName_path hleaf hunmarked
  | bare =>
      apply handleName_bare hleaf
      intro hmarked
      apply hunmarked
      rw [IsMarked, String.toList_append]
      exact hmarked.trans (List.suffix_append _ _).isInfix

end Naming

/-! ### Attributes and keys -/

theorem Key.exists_normalize {name : String} (hleaf : Naming.IsLeaf name) (scope : Scope) :
    ∃ key, Key.normalize scope name = some key := by
  have hvisible := hleaf.isBlankText_eq_false
  rw [Text.isBlankText, List.all_eq_false] at hvisible
  rw [exists_normalize_iff]
  simpa using hvisible

theorem Attribute.name_injective {first second : Attribute} (hsame : first.name = second.name) :
    first = second := by
  revert hsame
  cases first <;> cases second <;> decide

namespace Record

theorem attribute?_withAttribute (record : Record) (attr other : Attribute) (value : String) :
    (record.withAttribute attr value).attribute? other =
      if other = attr then some value else record.attribute? other := by
  by_cases hsame : other = attr
  · subst hsame
    rw [if_pos rfl]
    exact SortedMap.get?_insert_self _ _ _
  · rw [if_neg hsame]
    exact SortedMap.get?_insert_of_ne _ (fun hname => hsame (Attribute.name_injective hname)) _

theorem attribute?_withAttribute? (record : Record) (attr other : Attribute) (value : Option String) :
    (record.withAttribute? attr value).attribute? other =
      if other = attr then value.or (record.attribute? other) else record.attribute? other := by
  cases value with
  | none => simp [withAttribute?]
  | some value => simp [withAttribute?, attribute?_withAttribute]

theorem kind_withAttribute? (record : Record) (attr : Attribute) (value : Option String) :
    (record.withAttribute? attr value).kind = record.kind := by
  cases value <;> rfl

/-- The two records have the key in common, and they are paired wherever no other record has it. -/
structure MatchUnder (cluster backend : Record) (key : Key) : Prop where
  cluster_key : Key.ofRecord? cluster = some key
  backend_key : Key.ofRecord? backend = some key
  healthy : ∀ clusterRecords backendRecords : List Record,
    clusterRecords.filter (Key.ofRecord? · = some key) = [cluster] →
    backendRecords.filter (Key.ofRecord? · = some key) = [backend] →
    (Correlation.of clusterRecords backendRecords).pairs.get? key = some (.healthy cluster backend)

variable {cluster backend : Record} {key : Key}

theorem ofRecord?_of_kind {record : Record} (hkind : record.kind ≠ .volumeClaim) :
    Key.ofRecord? record = record.rawKey.bind (Key.normalize record.kind.scope) := by
  rw [Key.ofRecord?]
  split
  · next hclaim => exact absurd hclaim hkind
  · rfl

theorem isBoundClaim_eq_false {record : Record} (hkind : record.kind ≠ .volumeClaim) :
    record.isBoundClaim = false := by
  rw [isBoundClaim, beq_eq_false_iff_ne.2 hkind, Bool.false_and, Bool.false_and]

theorem filter_isEligible_eq {records : List Record} {record : Record} {side : Side}
    (heligible : record.IsEligible side key)
    (honly : records.filter (Key.ofRecord? · = some key) = [record]) :
    (records.filter fun other => other.IsEligible side key) = [record] := by
  have hnarrow : (records.filter fun other => other.IsEligible side key) =
      (records.filter (Key.ofRecord? · = some key)).filter fun other => other.IsEligible side key := by
    rw [List.filter_filter]
    refine List.filter_congr fun other _ => ?_
    by_cases hother : other.IsEligible side key
    · simp [hother, hother.2.1]
    · simp [hother]
  rw [hnarrow, honly]
  simp [heligible]

theorem matchUnder_of_isEligible (hcluster : cluster.IsEligible .cluster key)
    (hbackend : backend.IsEligible .backend key) : cluster.MatchUnder backend key where
  cluster_key := hcluster.2.1
  backend_key := hbackend.2.1
  healthy := by
    intro clusterRecords backendRecords hclusterOnly hbackendOnly
    rw [Correlation.get?_pairs_eq_some_iff]
    exact ⟨(filter_isEligible_eq hcluster hclusterOnly).symm, (filter_isEligible_eq hbackend hbackendOnly).symm⟩

/-- Records of the two sides with one name match, if their kinds are of one scope. -/
theorem exists_matchUnder {name : String} (hleaf : Naming.IsLeaf name) {kind other : Kind}
    (hkinds : kind.side = .cluster ∧ other.side = .backend ∧ kind.scope = other.scope)
    (hcluster : cluster.kind = kind ∧ cluster.rawKey = some name)
    (hbackend : backend.kind = other ∧ backend.rawKey = some name) :
    ∃ key, Key.normalize kind.scope name = some key ∧ cluster.MatchUnder backend key := by
  obtain ⟨rfl, hclusterRaw⟩ := hcluster
  obtain ⟨rfl, hbackendRaw⟩ := hbackend
  obtain ⟨hclusterSide, hbackendSide, hscope⟩ := hkinds
  have hbackendClaim : backend.kind ≠ .volumeClaim := fun hclaim => by
    rw [hclaim] at hbackendSide
    cases hbackendSide
  have hclusterClaim : cluster.kind ≠ .volumeClaim := fun hclaim => by
    rw [hclaim] at hscope
    revert hscope hbackendClaim
    cases backend.kind <;> decide
  obtain ⟨key, hkey⟩ := Key.exists_normalize hleaf cluster.kind.scope
  refine ⟨key, hkey, matchUnder_of_isEligible
    ⟨hclusterSide, ?_, isBoundClaim_eq_false hclusterClaim⟩
    ⟨hbackendSide, ?_, isBoundClaim_eq_false hbackendClaim⟩⟩
  · rw [ofRecord?_of_kind hclusterClaim, hclusterRaw]
    exact hkey
  · rw [ofRecord?_of_kind hbackendClaim, hbackendRaw, ← hscope]
    exact hkey

end Record

/-! ### Records of the cluster -/

namespace Cluster

variable {config : ClusterConfig} {handle : String}

def PersistentVolume.HasHandle (config : ClusterConfig) (volume : PersistentVolume) (handle : String) :
    Prop :=
  ∃ spec source, volume.spec = some spec ∧ spec.source = some source
    ∧ config.monitors source.driver = true ∧ source.volumeHandle = handle

theorem PersistentVolume.exists_record {volume : PersistentVolume}
    (hhandle : volume.HasHandle config handle) :
    ∃ record, volume.record? config = some record ∧ record.kind = .volume
      ∧ record.rawKey = Naming.handleName handle := by
  obtain ⟨spec, source, hspec, hsource, hmonitors, rfl⟩ := hhandle
  simp only [record?, hspec, hsource, Option.bind_eq_bind, Option.bind_some, if_pos hmonitors]
  refine ⟨_, rfl, Record.kind_withAttribute? .., ?_⟩
  rw [Naming.keyed, Naming.deriveKey, Record.kind_withAttribute?]
  simp only [Record.attribute?_withAttribute?, Record.attribute?_withAttribute, reduceCtorEq, if_false,
    if_true]
  rfl

def SnapshotContent.HasHandle (config : ClusterConfig) (content : SnapshotContent) (handle : String) :
    Prop :=
  (∃ spec driver, content.data.field? "spec" = some spec
      ∧ (spec.field? "driver").bind Json.asString = some driver ∧ config.monitors driver = true)
    ∧ content.handle? = some handle

theorem SnapshotContent.exists_record {content : SnapshotContent}
    (hhandle : content.HasHandle config handle) :
    ∃ record, content.record? config = some record ∧ record.kind = .snapshot
      ∧ record.rawKey = Naming.handleName handle := by
  obtain ⟨⟨spec, driver, hspec, hdriver, hmonitors⟩, hhandle⟩ := hhandle
  simp only [record?, hspec, hdriver, Option.bind_eq_bind, Option.bind_some, if_pos hmonitors]
  refine ⟨_, rfl, Record.kind_withAttribute? .., ?_⟩
  rw [Naming.keyed, Naming.deriveKey, Record.kind_withAttribute?]
  simp only [Record.attribute?_withAttribute?, hhandle]
  rfl

end Cluster

/-! ### Records of the backend -/

def Selection.LiesBelow (selection : Selection) (path : String) : Prop :=
  ∃ parent ∈ selection.parents, ∃ rest ≠ [], path.toList = parent ++ '/' :: rest

theorem Selection.selectsPath_iff {selection : Selection} {path : String} :
    selection.selectsPath path = true ↔ selection.LiesBelow path := by
  have hbelow : ∀ parent, isBelow parent path.toList = true ↔
      ∃ rest ≠ [], path.toList = parent ++ '/' :: rest := by
    intro parent
    rw [isBelow]
    constructor
    · intro hbelow
      split at hbelow
      · next c rest hstart =>
          exact ⟨c :: rest, List.cons_ne_nil c rest, Text.afterStart_eq_some_iff.1 hstart⟩
      · cases hbelow
    · rintro ⟨rest, hne, hpath⟩
      rw [Text.afterStart_eq_some_iff.2 hpath]
      cases rest with
      | nil => exact absurd rfl hne
      | cons c rest => rfl
  simp only [selectsPath, LiesBelow, List.any_eq_true, hbelow]

namespace Backend

variable {selection : Selection} {parent name : String} {entry : Json}

/-- A dataset that the provisioner made for the volume: it is selected by a path that ends in the name, or it
carries the name as a property. -/
inductive IsDatasetOf (selection : Selection) (parent name : String) (entry : Json) : Prop
  | path (hid : textField entry "id" = some (parent ++ "/" ++ name))
      (hbelow : selection.LiesBelow (parent ++ "/" ++ name))
      (hunnamed : Property.userProperty? entry Naming.volumeNameProperty = none)
  | named (id : String) (hid : textField entry "id" = some id)
      (hnamed : Property.userProperty? entry Naming.volumeNameProperty = some name)

theorem exists_datasetRecord (hname : Naming.IsVolumeName name)
    (hparent : ¬ Naming.IsMarked (parent ++ "/" ++ name)) (hdataset : IsDatasetOf selection parent name entry) :
    ∃ record, datasetRecord? selection entry = some record ∧ record.kind = .backendVolume
      ∧ record.rawKey = some name := by
  cases hdataset with
  | path hid hbelow hunnamed =>
      have hselected : selection.selectsPath (parent ++ "/" ++ name) = true :=
        Selection.selectsPath_iff.2 hbelow
      simp only [datasetRecord?, hid, hunnamed, hselected, Option.bind_eq_bind, Option.bind_some,
        Bool.not_true, Bool.and_false, Bool.false_eq_true, if_false]
      refine ⟨_, rfl, Record.kind_withAttribute? .., ?_⟩
      rw [Naming.keyed, Naming.deriveKey, Record.kind_withAttribute?]
      simp only [Record.attribute?_withAttribute?, Record.attribute?_withAttribute, reduceCtorEq, if_false,
        if_true, Option.none_or]
      exact Naming.handleName_path hname.toIsLeaf hparent
  | named id hid hnamed =>
      simp only [datasetRecord?, hid, hnamed, Option.bind_eq_bind, Option.bind_some, Option.isNone_some,
        Bool.false_and, Bool.false_eq_true, if_false]
      refine ⟨_, rfl, Record.kind_withAttribute? .., ?_⟩
      rw [Naming.keyed, Naming.deriveKey, Record.kind_withAttribute?]
      simp only [Record.attribute?_withAttribute?, if_true, Option.some_or]
      exact if_neg (Bool.eq_false_iff.1 hname.isBlankText_eq_false)

structure IsSnapshotWithId (selection : Selection) (id : String) (entry : Json) : Prop where
  id_eq : textField entry "id" = some id
  selected : (Property.userProperty? entry Naming.snapshotNameProperty).isSome = true
    ∨ selection.selectsSnapshot ((textField entry "dataset").getD (splitSnapshotId id).1)
      ((textField entry "snapshot_name").getD (splitSnapshotId id).2) = true

theorem exists_snapshotRecord {id : String} (hmention : Text.mentions id '@' = true)
    (hsnapshot : IsSnapshotWithId selection id entry) :
    ∃ record, snapshotRecord? selection entry = some record ∧ record.kind = .backendSnapshot
      ∧ record.rawKey = Naming.handleName id := by
  have hkept : ((Property.userProperty? entry Naming.snapshotNameProperty).isNone
      && !selection.selectsSnapshot ((textField entry "dataset").getD (splitSnapshotId id).1)
        ((textField entry "snapshot_name").getD (splitSnapshotId id).2)) = false := by
    rcases hsnapshot.selected with htagged | hselected
    · rw [Option.isNone_eq_false_iff.2 htagged, Bool.false_and]
    · rw [hselected, Bool.not_true, Bool.and_false]
  simp only [snapshotRecord?, hsnapshot.id_eq, Option.bind_eq_bind, Option.bind_some, hkept,
    Bool.false_eq_true, if_false]
  refine ⟨_, rfl, Record.kind_withAttribute? .., ?_⟩
  rw [Naming.keyed, Naming.deriveKey, Record.kind_withAttribute?]
  simp only [Record.attribute?_withAttribute?, Record.attribute?_withAttribute, reduceCtorEq, if_false, if_true]
  exact if_pos hmention

end Backend

namespace Naming

/-- **Both sides derive one key.** A volume of the cluster and a dataset that is of this volume, by its path or
by its property, have records that match under the key of the volume's name; so have the snapshots of the two
sides. A name that is no text at all, or one that the paths turn into an iSCSI name, is excepted. -/
theorem sides_share_names (config : ClusterConfig) (selection : Selection) (name p q : String)
    (hname : IsVolumeName name) (hp : ¬ IsMarked (p ++ "/" ++ name)) (hq : ¬ IsMarked (q ++ "/" ++ name)) :
    (∀ (volume : Cluster.PersistentVolume) (handle : String) (entry : Json),
      IsVolumeHandle q name handle → volume.HasHandle config handle →
      Backend.IsDatasetOf selection p name entry →
      ∃ onCluster onBackend key,
        volume.record? config = some onCluster
          ∧ Backend.datasetRecord? selection entry = some onBackend
          ∧ (∀ entries, entry ∈ Backend.descendants entries →
            onBackend ∈ Backend.datasetRecords selection entries)
          ∧ Key.normalize .volume name = some key ∧ onCluster.MatchUnder onBackend key)
    ∧ ∀ (snapshot : String) (content : Cluster.SnapshotContent) (handle : String) (entry : Json),
      Text.trim snapshot.toList = snapshot.toList → '/' ∉ snapshot.toList →
      ¬ IsMarked (p ++ "/" ++ (name ++ "@" ++ snapshot)) →
      ¬ IsMarked (q ++ "/" ++ (name ++ "@" ++ snapshot)) →
      IsSnapshotHandle q name snapshot handle → content.HasHandle config handle →
      Backend.IsSnapshotWithId selection (p ++ "/" ++ (name ++ "@" ++ snapshot)) entry →
      ∃ onCluster onBackend key,
        content.record? config = some onCluster
          ∧ Backend.snapshotRecord? selection entry = some onBackend
          ∧ (∀ entries, entry ∈ entries → onBackend ∈ Backend.snapshotRecords selection entries)
          ∧ Key.normalize .snapshot (name ++ "@" ++ snapshot) = some key
          ∧ onCluster.MatchUnder onBackend key := by
  constructor
  · intro volume handle entry hhandle hvolume hdataset
    obtain ⟨onCluster, hcluster, hclusterKind, hclusterRaw⟩ :=
      Cluster.PersistentVolume.exists_record hvolume
    obtain ⟨onBackend, hbackend, hbackendKind, hbackendRaw⟩ :=
      Backend.exists_datasetRecord hname hp hdataset
    rw [handleName_of_isVolumeHandle hname hq hhandle] at hclusterRaw
    obtain ⟨key, hkey, hmatch⟩ := Record.exists_matchUnder hname.toIsLeaf (by decide)
      ⟨hclusterKind, hclusterRaw⟩ ⟨hbackendKind, hbackendRaw⟩
    exact ⟨onCluster, onBackend, key, hcluster, hbackend,
      fun entries hentry => List.mem_filterMap.2 ⟨entry, hentry, hbackend⟩, hkey, hmatch⟩
  · intro snapshot content handle entry htrimmed hslash hpSnapshot hqSnapshot hhandle hcontent hsnapshot
    have hleaf := isLeaf_snapshot hname htrimmed hslash
    have hmention : Text.mentions (p ++ "/" ++ (name ++ "@" ++ snapshot)) '@' = true := by
      simp [Text.mentions]
    obtain ⟨onCluster, hcluster, hclusterKind, hclusterRaw⟩ :=
      Cluster.SnapshotContent.exists_record hcontent
    obtain ⟨onBackend, hbackend, hbackendKind, hbackendRaw⟩ :=
      Backend.exists_snapshotRecord hmention hsnapshot
    rw [handleName_of_isSnapshotHandle hleaf hqSnapshot hhandle] at hclusterRaw
    rw [handleName_path hleaf hpSnapshot] at hbackendRaw
    obtain ⟨key, hkey, hmatch⟩ := Record.exists_matchUnder hleaf (by decide)
      ⟨hclusterKind, hclusterRaw⟩ ⟨hbackendKind, hbackendRaw⟩
    exact ⟨onCluster, onBackend, key, hcluster, hbackend,
      fun entries hentry => List.mem_filterMap.2 ⟨entry, hentry, hbackend⟩, hkey, hmatch⟩

/-- A volume with an iSCSI handle and its dataset, and a snapshot of it that is known by its bare name. -/
theorem sides_share_names_of_iscsi_volume :
    let text := fun (name value : String) => Json.ofFields [(name, .string value)]
    let driver := "org.democratic-csi.iscsi"
    let selection := Selection.of ["tank/k8s/"] Selection.standardPrefixes
    let volume : Cluster.PersistentVolume :=
      ⟨.empty, some ⟨none, some ⟨driver, "iqn.2005-10.org.freenas.ctl:Pvc-1"⟩, none⟩, none⟩
    let dataset := text "id" "tank/k8s/Pvc-1"
    let spec :=
      Json.ofFields [("driver", .string driver), ("source", text "snapshotHandle" "Pvc-1@snapshot-7")]
    let content : Cluster.SnapshotContent := ⟨.empty, Json.ofFields [("spec", spec)]⟩
    let snapshot := text "id" "tank/k8s/Pvc-1@snapshot-7"
    IsVolumeName "Pvc-1"
      ∧ ¬ IsMarked ("tank/k8s" ++ "/" ++ ("Pvc-1" ++ "@" ++ "snapshot-7"))
      ∧ volume.HasHandle .standard "iqn.2005-10.org.freenas.ctl:Pvc-1"
      ∧ Backend.IsDatasetOf selection "tank/k8s" "Pvc-1" dataset
      ∧ content.HasHandle .standard "Pvc-1@snapshot-7"
      ∧ Backend.IsSnapshotWithId selection "tank/k8s/Pvc-1@snapshot-7" snapshot
      ∧ (∃ onCluster, volume.record? .standard = some onCluster
        ∧ ∃ onBackend ∈ Backend.datasetRecords selection [dataset],
          onCluster.MatchUnder onBackend ⟨.volume, "pvc-1"⟩)
      ∧ ∃ onCluster, content.record? .standard = some onCluster
        ∧ ∃ onBackend ∈ Backend.snapshotRecords selection [snapshot],
          onCluster.MatchUnder onBackend ⟨.snapshot, "pvc-1@snapshot-7"⟩ := by
  intro text driver selection volume dataset spec content snapshot
  have hids : Backend.textField dataset "id" = some "tank/k8s/Pvc-1"
      ∧ Backend.textField snapshot "id" = some "tank/k8s/Pvc-1@snapshot-7" := by decide +kernel +revert
  have hselected : selection.selectsPath "tank/k8s/Pvc-1" = true
      ∧ Property.userProperty? dataset volumeNameProperty = none
      ∧ selection.selectsSnapshot "tank/k8s/Pvc-1" "snapshot-7" = true := by decide +kernel +revert
  have hmonitors : ClusterConfig.standard.monitors driver = true
      ∧ (spec.field? "driver").bind Json.asString = some driver
      ∧ content.handle? = some "Pvc-1@snapshot-7" := by decide +kernel +revert
  have hname : IsVolumeName "Pvc-1" :=
    ⟨⟨by decide, by decide +kernel, by decide⟩, by decide, by decide +kernel⟩
  have hpath : ¬ IsMarked ("tank/k8s" ++ "/" ++ "Pvc-1") := by decide +kernel
  have hunmarked : ¬ IsMarked ("tank/k8s" ++ "/" ++ ("Pvc-1" ++ "@" ++ "snapshot-7")) := by
    decide +kernel
  have hvolume : volume.HasHandle .standard "iqn.2005-10.org.freenas.ctl:Pvc-1" :=
    ⟨_, _, rfl, rfl, hmonitors.1, rfl⟩
  have hdataset : Backend.IsDatasetOf selection "tank/k8s" "Pvc-1" dataset :=
    .path hids.1 (Selection.selectsPath_iff.1 hselected.1) hselected.2.1
  have hcontent : content.HasHandle .standard "Pvc-1@snapshot-7" :=
    ⟨⟨spec, driver, SortedMap.get?_insert_self .empty "spec" spec, hmonitors.2.1, hmonitors.1⟩, hmonitors.2.2⟩
  have hsnapshot : Backend.IsSnapshotWithId selection "tank/k8s/Pvc-1@snapshot-7" snapshot :=
    ⟨hids.2, .inr hselected.2.2⟩
  have hkeys : Key.normalize .volume "Pvc-1" = some ⟨.volume, "pvc-1"⟩
      ∧ Key.normalize .snapshot ("Pvc-1" ++ "@" ++ "snapshot-7") = some ⟨.snapshot, "pvc-1@snapshot-7"⟩ := by
    decide +kernel
  obtain ⟨hvolumes, hsnapshots⟩ :=
    sides_share_names .standard selection "Pvc-1" "tank/k8s" "tank/k8s" hname hpath hpath
  obtain ⟨onCluster, onBackend, key, hcluster, -, hlisted, hkey, hmatch⟩ :=
    hvolumes volume _ dataset (.iscsi "2005-10.org.freenas.ctl") hvolume hdataset
  cases hkeys.1.symm.trans hkey
  obtain ⟨onClusterSnapshot, onBackendSnapshot, key, hclusterSnapshot, -, hlistedSnapshot, hkey,
    hmatchSnapshot⟩ :=
    hsnapshots "snapshot-7" content _ snapshot (by decide +kernel) (by decide) hunmarked hunmarked .bare hcontent
      hsnapshot
  cases hkeys.2.symm.trans hkey
  have hmem : dataset ∈ Backend.descendants [dataset] := by
    simp [Backend.descendants, dataset, text, Json.ofFields, Backend.withDescendants]
  exact ⟨hname, hunmarked, hvolume, hdataset, hcontent, hsnapshot,
    ⟨onCluster, hcluster, onBackend, hlisted _ hmem, hmatch⟩,
    onClusterSnapshot, hclusterSnapshot, onBackendSnapshot,
    hlistedSnapshot _ (List.mem_singleton_self snapshot), hmatchSnapshot⟩

end Naming

end OrphanWatch
