import Mathlib.Data.List.Basic
import NameFraming.Corpus.Breakdown

/-! Disks whose entries have proper names. Writing into files that are there changes only what these
files hold: which paths lead where, what is listed in a directory, and what can be read or written
is the same before and after. -/

namespace NameFraming

/-- A name that something in a directory can have. -/
structure EntryName (name : Text) : Prop where
  noSlash : '/' ∉ name
  noNull : '\x00' ∉ name
  notParent : name ≠ ['.', '.']
  short : (Utf8.encode name).length ≤ Disk.longestName

instance (name : Text) : Decidable (EntryName name) :=
  decidable_of_iff
    ('/' ∉ name ∧ '\x00' ∉ name ∧ name ≠ ['.', '.'] ∧
      (Utf8.encode name).length ≤ Disk.longestName)
    ⟨fun ⟨noSlash, noNull, notParent, short⟩ => ⟨noSlash, noNull, notParent, short⟩,
      fun entry => ⟨entry.noSlash, entry.noNull, entry.notParent, entry.short⟩⟩

/-- Everything has one location, which ends in its name, and the errors of single files are those of
the system. -/
structure Disk.WellFormed (disk : Disk) : Prop where
  distinct : (disk.nodes.map Prod.fst).Nodup
  named : ∀ location ∈ disk.nodes.map Prod.fst,
    ∃ directory name, location = directory ++ [name] ∧ EntryName name
  faults : ∀ entry ∈ disk.readErrors, entry.2 ≠ .nullByte

theorem Disk.wellFormed_iff (disk : Disk) :
    ((disk.nodes.map Prod.fst).Nodup ∧
      (∀ location ∈ disk.nodes.map Prod.fst, ∃ name ∈ location.getLast?, EntryName name) ∧
      ∀ entry ∈ disk.readErrors, entry.2 ≠ .nullByte) ↔ disk.WellFormed := by
  constructor
  · intro ⟨distinct, named, faults⟩
    refine ⟨distinct, fun location member => ?_, faults⟩
    obtain ⟨name, last, entry⟩ := named location member
    obtain ⟨directory, whole⟩ := List.getLast?_eq_some_iff.mp last
    exact ⟨directory, name, whole, entry⟩
  · intro ⟨distinct, named, faults⟩
    refine ⟨distinct, fun location member => ?_, faults⟩
    obtain ⟨directory, name, rfl, entry⟩ := named location member
    exact ⟨name, List.getLast?_concat, entry⟩

instance (disk : Disk) : Decidable disk.WellFormed :=
  decidable_of_iff _ disk.wellFormed_iff

namespace Path

variable {path : Path} {name : Text} {c : Char}

theorem intercalate_concat {parts : List Text} (nonempty : parts ≠ []) (name : Text) :
    ['/'].intercalate (parts ++ [name]) = ['/'].intercalate parts ++ '/' :: name := by
  induction parts with
  | nil => exact absurd rfl nonempty
  | cons first rest ih =>
      cases rest with
      | nil => simp [List.intercalate]
      | cons second later =>
          have shorter := ih (by simp)
          simp only [List.intercalate, List.cons_append, List.intersperse_cons_cons,
            List.flatten_cons, List.append_assoc] at shorter ⊢
          rw [shorter]

theorem mem_toText_child (member : c ∈ (path.child name).toText) :
    c = '/' ∨ c ∈ path.toText ∨ c ∈ name := by
  obtain ⟨anchor, parts⟩ := path
  by_cases none : parts = []
  · subst none
    cases anchor <;> simp [toText, child] at member ⊢ <;> tauto
  · simp [toText, child, none, intercalate_concat none] at member ⊢
    tauto

end Path

namespace Disk

variable {disk after : Disk} {location base : Location} {path directory : Path} {name : Text}

section Locations

theorem follow_append (disk : Disk) (location : Location) (front back : List Text) :
    disk.follow location (front ++ back) =
      (disk.follow location front).bind fun middle => disk.follow middle back := by
  induction front generalizing location with
  | nil => rfl
  | cons part rest ih =>
      simp only [List.cons_append, follow]
      cases disk.node? location with
      | none => rfl
      | some node =>
          cases node with
          | file content => rfl
          | directory =>
              simp only
              split
              · rfl
              · exact ih _

/-- A path that is longer than paths can be. -/
def IsTooLong (path : Path) : Prop :=
  longestPath < (Utf8.encode path.toText).length

instance (path : Path) : Decidable (IsTooLong path) :=
  inferInstanceAs (Decidable (_ < _))

theorem locate_child (located : disk.locate directory = .ok base)
    (isDirectory : disk.node? base = some .directory) (entry : EntryName name) :
    disk.locate (directory.child name) =
      if IsTooLong (directory.child name) then .error .nameTooLong else .ok (base ++ [name]) := by
  unfold locate at located
  split at located
  · cases located
  · rename_i noNull
    split at located
    · cases located
    · have childNoNull : ¬ (directory.child name).toText.contains '\x00' = true := by
        rw [List.contains_iff_mem] at noNull ⊢
        intro member
        rcases Path.mem_toText_child member with slash | inDirectory | inName
        · cases slash
        · exact noNull inDirectory
        · exact entry.noNull inName
      have found : disk.follow (if directory.anchor.isEmpty then [] else .root)
          (directory.parts ++ [name]) = .ok (base ++ [name]) := by
        rw [follow_append, located]
        have step : Location.step base name = base ++ [name] := if_neg entry.notParent
        simp [Except.bind, follow, isDirectory, Nat.not_lt.mpr entry.short, step]
      rw [locate, if_neg childNoNull]
      exact if_congr Iff.rfl rfl found

theorem node?_entry (entry : EntryName name) :
    disk.node? (base ++ [name]) = disk.nodes.lookup (base ++ [name]) := by
  have notSlash : name ≠ ['/'] := by
    rintro rfl
    exact entry.noSlash (List.mem_singleton_self _)
  have notAbove : ¬ ((base ++ [name]).all (· == ['.', '.']) ||
      base ++ [name] == Location.root) = true := by
    simp [entry.notParent, Location.root, List.append_eq_singleton_iff, notSlash]
  rw [node?, if_neg notAbove]

end Locations

section Skeleton

/-- A node without what it holds. -/
def emptied : DiskNode → DiskNode
  | .directory => .directory
  | .file _ => .file []

/-- The disk with all its files empty. -/
def skeleton (disk : Disk) : Disk :=
  { disk with nodes := disk.nodes.map fun entry => (entry.1, emptied entry.2) }

theorem emptied_eq_directory_iff {node : DiskNode} : emptied node = .directory ↔ node = .directory := by
  cases node <;> simp [emptied]

theorem lookup_map_emptied (nodes : List (Location × DiskNode)) (location : Location) :
    (nodes.map fun entry => (entry.1, emptied entry.2)).lookup location =
      (nodes.lookup location).map emptied := by
  induction nodes with
  | nil => rfl
  | cons entry rest ih =>
      obtain ⟨held, node⟩ := entry
      simp only [List.map_cons, List.lookup_cons, ih]
      split <;> rfl

theorem node?_skeleton (disk : Disk) (location : Location) :
    disk.skeleton.node? location = (disk.node? location).map emptied := by
  simp only [node?, skeleton, lookup_map_emptied]
  split <;> rfl

theorem isDirectory_skeleton_iff :
    disk.skeleton.node? location = some .directory ↔ disk.node? location = some .directory := by
  rw [node?_skeleton]
  cases disk.node? location <;> simp [emptied_eq_directory_iff]

theorem follow_skeleton (disk : Disk) (location : Location) (parts : List Text) :
    disk.skeleton.follow location parts = disk.follow location parts := by
  induction parts generalizing location with
  | nil => rfl
  | cons part rest ih =>
      simp only [follow, node?_skeleton]
      cases disk.node? location with
      | none => rfl
      | some node => cases node <;> simp only [Option.map_some, emptied, ih]

theorem locate_skeleton (disk : Disk) (path : Path) :
    disk.skeleton.locate path = disk.locate path := by
  simp only [locate, follow_skeleton]

theorem entryNames_skeleton (disk : Disk) (location : Location) :
    disk.skeleton.entryNames location = disk.entryNames location := by
  simp only [entryNames, skeleton, List.filterMap_map]
  rfl

theorem fileNames_skeleton (disk : Disk) (location : Location) :
    disk.skeleton.fileNames location = disk.fileNames location := by
  simp only [fileNames, skeleton, List.filterMap_map]
  apply List.filterMap_congr
  intro ⟨_, node⟩ _
  cases node <;> rfl

theorem wellFormed_skeleton_iff : disk.skeleton.WellFormed ↔ disk.WellFormed := by
  have locations : disk.skeleton.nodes.map Prod.fst = disk.nodes.map Prod.fst := by
    simp [skeleton]
  constructor
  · intro ⟨distinct, named, faults⟩
    exact ⟨locations ▸ distinct, locations ▸ named, faults⟩
  · intro ⟨distinct, named, faults⟩
    exact ⟨locations ▸ distinct, locations ▸ named, faults⟩

theorem WellFormed.of_skeleton (wellFormed : disk.WellFormed)
    (sameSkeleton : after.skeleton = disk.skeleton) : after.WellFormed := by
  rw [← wellFormed_skeleton_iff, sameSkeleton, wellFormed_skeleton_iff]
  exact wellFormed

theorem locate_of_skeleton (sameSkeleton : after.skeleton = disk.skeleton) (path : Path) :
    after.locate path = disk.locate path := by
  rw [← locate_skeleton, sameSkeleton, locate_skeleton]

theorem readErrors_of_skeleton (sameSkeleton : after.skeleton = disk.skeleton) :
    after.readErrors = disk.readErrors :=
  (congrArg readErrors sameSkeleton : after.skeleton.readErrors = disk.skeleton.readErrors)

theorem content_skeleton (disk : Disk) (path : Path) :
    disk.skeleton.content path = (disk.content path).map fun _ => [] := by
  simp only [content, locate_skeleton, node?_skeleton]
  cases disk.locate path with
  | error error => rfl
  | ok location =>
      simp only [bind, Except.bind]
      cases disk.node? location with
      | none => rfl
      | some node => cases node <;> rfl

/-- Whether a file can be written does not depend on what files hold. -/
theorem write_skeleton_eq_error_iff {bytes : Bytes} {error : DiskError} :
    disk.skeleton.write path bytes = .error error ↔ disk.write path bytes = .error error := by
  have sameErrors : disk.skeleton.writeErrors = disk.writeErrors := rfl
  simp only [write, sameErrors, locate_skeleton, node?_skeleton]
  cases disk.writeErrors.lookup path.name with
  | some fault => rfl
  | none =>
      cases disk.locate path with
      | error fault => rfl
      | ok location =>
          simp only [bind, Except.bind]
          cases disk.node? location with
          | none => simp
          | some node => cases node <;> simp [emptied]

end Skeleton

section Content

variable {old new : Bytes}

theorem lookup_eq_some_iff {nodes : List (Location × DiskNode)} {node : DiskNode}
    (distinct : (nodes.map Prod.fst).Nodup) :
    nodes.lookup location = some node ↔ (location, node) ∈ nodes := by
  induction nodes with
  | nil => simp
  | cons entry rest ih =>
      obtain ⟨held, first⟩ := entry
      obtain ⟨absent, laterDistinct⟩ := List.nodup_cons.mp distinct
      rw [List.lookup_cons, List.mem_cons, Prod.mk.injEq]
      by_cases same : location = held
      · subst same
        have notLater : (location, node) ∉ rest := by
          intro member
          have listed := List.mem_map_of_mem (f := Prod.fst) member
          exact absent listed
        simp [notLater, eq_comm]
      · have differs : (location == held) = false := by simpa using same
        simp [differs, same, ih laterDistinct]

theorem lookup_map_replace (nodes : List (Location × DiskNode)) (location other : Location)
    (node : DiskNode) :
    (nodes.map fun entry => if entry.1 == location then (location, node) else entry).lookup other =
      if other = location then (nodes.lookup location).map fun _ => node
      else nodes.lookup other := by
  induction nodes with
  | nil => simp
  | cons entry rest ih =>
      obtain ⟨held, first⟩ := entry
      rw [List.map_cons, List.lookup_cons, List.lookup_cons]
      by_cases same : held = location
      · subst same
        by_cases reached : other = held
        · simp [reached]
        · have missed : (other == held) = false := by simpa using reached
          simpa [List.lookup_cons, missed, reached] using ih
      · have kept : (held == location) = false := by simpa using same
        have missed : (location == held) = false := by simpa using Ne.symm same
        by_cases reached : other = held
        · subst reached
          simp [same]
        · have missedToo : (other == held) = false := by simpa using reached
          simpa [List.lookup_cons, kept, missed, missedToo] using ih

theorem WellFormed.exists_entryName (wellFormed : disk.WellFormed) {node : DiskNode}
    (member : (location, node) ∈ disk.nodes) :
    ∃ directory name, location = directory ++ [name] ∧ EntryName name :=
  wellFormed.named location (List.mem_map_of_mem (f := Prod.fst) member)

/-- A file at the location of something in a directory. -/
theorem node?_eq_file_iff (wellFormed : disk.WellFormed) {content : Bytes} :
    disk.node? location = some (.file content) ↔ (location, .file content) ∈ disk.nodes := by
  constructor
  · intro found
    unfold node? at found
    split at found
    · cases found
    · exact (lookup_eq_some_iff wellFormed.distinct).mp found
  · intro member
    obtain ⟨directory, name, rfl, entry⟩ := wellFormed.exists_entryName member
    rw [node?_entry entry, lookup_eq_some_iff wellFormed.distinct]
    exact member

theorem entryName_of_node? (wellFormed : disk.WellFormed) {content : Bytes}
    (found : disk.node? (base ++ [name]) = some (.file content)) : EntryName name := by
  have member := (node?_eq_file_iff wellFormed).mp found
  obtain ⟨directory, last, same, entry⟩ := wellFormed.exists_entryName member
  obtain ⟨_, rfl⟩ := List.append_inj' same rfl |>.imp id List.singleton_inj.mp
  exact entry

theorem fileName_eq_some_iff {node : DiskNode} :
    (match node with
      | .file _ =>
          if !location.isEmpty && location.dropLast == base then location.getLast? else none
      | .directory => none) = some name ↔
      (∃ content, node = .file content) ∧ location = base ++ [name] := by
  cases node with
  | directory => simp
  | file content =>
      simp only [Option.ite_none_right_eq_some, Bool.and_eq_true, beq_iff_eq,
        List.getLast?_eq_some_iff]
      constructor
      · intro ⟨⟨_, above⟩, front, whole⟩
        rw [whole, List.dropLast_concat] at above
        exact ⟨⟨content, rfl⟩, above ▸ whole⟩
      · intro ⟨_, whole⟩
        rw [whole]
        exact ⟨⟨by simp, List.dropLast_concat⟩, base, rfl⟩

theorem mem_fileNames_iff (wellFormed : disk.WellFormed) :
    name ∈ disk.fileNames base ↔ ∃ content, disk.node? (base ++ [name]) = some (.file content) := by
  simp only [node?_eq_file_iff wellFormed, fileNames, List.mem_filterMap]
  constructor
  · intro ⟨⟨location, node⟩, member, listed⟩
    obtain ⟨⟨content, rfl⟩, rfl⟩ := fileName_eq_some_iff.mp listed
    exact ⟨content, member⟩
  · intro ⟨content, member⟩
    exact ⟨_, member, fileName_eq_some_iff.mpr ⟨⟨content, rfl⟩, rfl⟩⟩

theorem nodup_fileNames (wellFormed : disk.WellFormed) (base : Location) :
    (disk.fileNames base).Nodup := by
  refine List.Pairwise.filterMap _ ?_ (List.pairwise_map.mp wellFormed.distinct)
  intro first second differ name listed other otherListed same
  have firstEq := (fileName_eq_some_iff.mp listed).2
  have secondEq := (fileName_eq_some_iff.mp otherListed).2
  exact differ (firstEq.trans (same ▸ secondEq.symm))

theorem any_of_node? (wellFormed : disk.WellFormed)
    (found : disk.node? location = some (.file old)) :
    disk.nodes.any (·.1 == location) = true := by
  have member := (node?_eq_file_iff wellFormed).mp found
  exact List.any_eq_true.mpr ⟨_, member, by simp⟩

/-- Writing into a file changes that file and nothing else. -/
theorem node?_put (wellFormed : disk.WellFormed)
    (found : disk.node? location = some (.file old)) (other : Location) :
    (disk.put location (.file new)).node? other =
      if other = location then some (.file new) else disk.node? other := by
  have held := any_of_node? wellFormed found
  simp only [node?, put, held, if_true, lookup_map_replace] at found ⊢
  by_cases same : other = location
  · subst same
    split at found
    · cases found
    · rename_i entry
      rw [if_neg entry, if_pos rfl, if_pos rfl, found]
      rfl
  · rw [if_neg same, if_neg same]

theorem skeleton_put (wellFormed : disk.WellFormed)
    (found : disk.node? location = some (.file old)) :
    (disk.put location (.file new)).skeleton = disk.skeleton := by
  have held := any_of_node? wellFormed found
  simp only [skeleton, put, held, if_true, List.map_map]
  congr 1
  apply List.map_congr_left
  intro ⟨other, node⟩ member
  by_cases same : other = location
  · -- Locations are distinct, so what is replaced is the file that was found.
    subst same
    have inNodes := (node?_eq_file_iff wellFormed).mp found
    rw [← lookup_eq_some_iff wellFormed.distinct] at member inNodes
    cases member.symm.trans inNodes
    simp [emptied]
  · simp [same]

/-- What is written into a file of a directory. -/
theorem write_eq_ok (unfaulted : disk.writeErrors.lookup path.name = none)
    (located : disk.locate path = .ok location)
    (found : disk.node? location = some (.file old)) :
    disk.write path new = .ok (disk.put location (.file new)) := by
  simp [write, unfaulted, located, found, bind, Except.bind]

theorem eq_put_of_write (located : disk.locate path = .ok location)
    (written : disk.write path new = .ok after) : after = disk.put location (.file new) := by
  simp only [write, located, bind, Except.bind] at written
  split at written
  · cases written
  · split at written
    · cases written
    · exact (Except.ok.inj written).symm

theorem isDirectory_iff : disk.isDirectory path = true ↔
    ∃ location, disk.locate path = .ok location ∧ disk.node? location = some .directory := by
  rw [Disk.isDirectory, beq_iff_eq, find?]
  cases disk.locate path <;> simp

theorem entryName_of_mem_entryNames (wellFormed : disk.WellFormed)
    (member : name ∈ disk.entryNames base) : EntryName name := by
  simp only [entryNames, List.mem_filterMap, Option.ite_none_right_eq_some] at member
  obtain ⟨⟨location, node⟩, inNodes, _, last⟩ := member
  obtain ⟨directory, own, rfl, entry⟩ := wellFormed.exists_entryName inNodes
  rw [List.getLast?_concat] at last
  exact Option.some.inj last ▸ entry

theorem mem_entryNames_of_node? (wellFormed : disk.WellFormed)
    (found : disk.node? (base ++ [name]) = some (.file old)) : name ∈ disk.entryNames base := by
  have member := (node?_eq_file_iff wellFormed).mp found
  exact List.mem_filterMap.mpr ⟨_, member, by simp⟩

theorem read_eq_ok (unfaulted : disk.readErrors.lookup path.name = none)
    (located : disk.locate path = .ok location) (found : disk.node? location = some (.file old)) :
    disk.read path = .ok old := by
  simp [read, unfaulted, content, located, found, bind, Except.bind]

/-- Only a fault can keep a file that is there from being read. -/
theorem read_cases (located : disk.locate path = .ok location)
    (found : disk.node? location = some (.file old)) :
    disk.read path = .ok old ∨ ∃ name error, (name, error) ∈ disk.readErrors ∧
      disk.read path = .error error := by
  cases fault : disk.readErrors.lookup path.name with
  | none => exact .inl (read_eq_ok fault located found)
  | some error =>
      obtain ⟨front, back, whole, _⟩ := List.lookup_eq_some_iff.mp fault
      exact .inr ⟨path.name, error, by simp [whole], by simp [read, fault]⟩

/-- Reading depends on where a path leads and on what is there. -/
theorem read_congr (sameSkeleton : after.skeleton = disk.skeleton)
    (located : disk.locate path = .ok location)
    (sameNode : after.node? location = disk.node? location) : after.read path = disk.read path := by
  have sameErrors := readErrors_of_skeleton sameSkeleton
  have locatedAfter := (locate_of_skeleton sameSkeleton path).trans located
  simp [read, sameErrors, content, located, locatedAfter, sameNode, bind, Except.bind]

/-- A file that could be read is read with its new content. -/
theorem read_of_written (read : disk.read path = .ok old)
    (sameSkeleton : after.skeleton = disk.skeleton) (located : disk.locate path = .ok location)
    (written : after.node? location = some (.file new)) : after.read path = .ok new := by
  have sameErrors := readErrors_of_skeleton sameSkeleton
  have unfaulted : disk.readErrors.lookup path.name = none := by
    cases fault : disk.readErrors.lookup path.name with
    | none => rfl
    | some error => simp [Disk.read, fault] at read
  exact read_eq_ok (sameErrors ▸ unfaulted) ((locate_of_skeleton sameSkeleton path).trans located)
    written

end Content

end Disk

end NameFraming
