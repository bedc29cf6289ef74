import ChatGateway.Files.Tree

/-!
# Where a path leads

A path that can be followed leads to a place that its names alone decide; the tree only says
whether it can be followed. So directories that come into being never make a path lead elsewhere.

A path with something appended to its last name leads through the same directories to another
place.
-/

namespace ChatGateway.Files

/-- The place to which a name leads from a directory. -/
def enter (place : Place) (name : String) : Place :=
  if name = "" || name = "." then place
  else if name = ".." then place.dropLast
  else place ++ [name]

variable {tree later : Tree} {place goal : Place} {name : String} {names : List String}

/-- A name is followed in directories only, and not if it is too long. -/
theorem step_eq_ok_iff :
    step tree place name = .ok goal ↔
      tree.lookup place = some .directory ∧ name.utf8ByteSize ≤ nameLimit ∧ enter place name = goal := by
  unfold step enter
  rcases tree.lookup place with _ | _ | _
  · simp
  · simp
  · by_cases long : nameLimit < name.utf8ByteSize
    · simp [long, Nat.not_le.mpr long]
    · simp only [if_neg long, true_and, Nat.not_lt.mp long]
      split
      · simp
      · split <;> simp

/-- A way is followed by its first step and then from there. -/
theorem walk_cons_eq_ok_iff :
    walk tree place (name :: names) = .ok goal ↔
      ∃ next, step tree place name = .ok next ∧ walk tree next names = .ok goal := by
  cases h : step tree place name <;> simp [walk, h]

/-- A way in two parts is followed by its first part and then from there. -/
theorem walk_append_eq_ok_iff {before after : List String} :
    walk tree place (before ++ after) = .ok goal ↔
      ∃ middle, walk tree place before = .ok middle ∧ walk tree middle after = .ok goal := by
  induction before generalizing place with
  | nil => simp [walk]
  | cons name before ih =>
    rw [List.cons_append, walk_cons_eq_ok_iff]
    constructor
    · intro followed
      obtain ⟨next, hstep, hwalk⟩ := followed
      obtain ⟨middle, hbefore, hafter⟩ := ih.mp hwalk
      exact ⟨middle, walk_cons_eq_ok_iff.mpr ⟨next, hstep, hbefore⟩, hafter⟩
    · intro followed
      obtain ⟨middle, hwalk, hafter⟩ := followed
      obtain ⟨next, hstep, hbefore⟩ := walk_cons_eq_ok_iff.mp hwalk
      exact ⟨next, hstep, ih.mpr ⟨middle, hbefore, hafter⟩⟩

/-- The last name of a path is followed from where the others lead. -/
theorem walk_concat_eq_ok_iff :
    walk tree place (names ++ [name]) = .ok goal ↔
      ∃ inside, walk tree place names = .ok inside ∧ step tree inside name = .ok goal := by
  have single (inside : Place) : walk tree inside [name] = step tree inside name := by
    cases h : step tree inside name <;> simp [walk, h]
  simp only [walk_append_eq_ok_iff, single]

/-- Where names lead does not depend on the tree. -/
theorem foldl_enter_of_walk (h : walk tree place names = .ok goal) : names.foldl enter place = goal := by
  induction names generalizing place with
  | nil => exact Except.ok.inj h
  | cons name names ih =>
    obtain ⟨next, hstep, hwalk⟩ := walk_cons_eq_ok_iff.mp h
    rw [List.foldl_cons, (step_eq_ok_iff.mp hstep).2.2]
    exact ih hwalk

/-- Whatever is on the way, its end aside, is a directory. -/
theorem directory_of_walk (h : walk tree place (names ++ [name]) = .ok goal) {front : List String}
    (first : front <+: names) : tree.lookup (front.foldl enter place) = some .directory := by
  obtain ⟨rest, rfl⟩ := first
  rw [List.append_assoc] at h
  obtain ⟨middle, before, after⟩ := walk_append_eq_ok_iff.mp h
  have some : rest ++ [name] ≠ [] := by simp
  obtain ⟨next, others, same⟩ := List.exists_cons_of_ne_nil some
  rw [same] at after
  obtain ⟨_, entered, _⟩ := walk_cons_eq_ok_iff.mp after
  rw [foldl_enter_of_walk before]
  exact (step_eq_ok_iff.mp entered).1

/-- Every directory of the first tree is one of the second. -/
def KeepsDirectories (tree later : Tree) : Prop :=
  ∀ place, tree.lookup place = some .directory → later.lookup place = some .directory

/-- Where directories are kept, what could be followed can still be followed. -/
theorem KeepsDirectories.walk (kept : KeepsDirectories tree later)
    (h : walk tree place names = .ok goal) : walk later place names = .ok goal := by
  induction names generalizing place with
  | nil => exact h
  | cons name names ih =>
    obtain ⟨next, hstep, hwalk⟩ := walk_cons_eq_ok_iff.mp h
    obtain ⟨directory, rest⟩ := step_eq_ok_iff.mp hstep
    exact walk_cons_eq_ok_iff.mpr ⟨next, step_eq_ok_iff.mpr ⟨kept place directory, rest⟩, ih hwalk⟩

/-- Appending to a text without slashes changes the last part of a path only. -/
theorem parts_append (path tail : String) (h : '/' ∉ tail.toList) :
    ∃ front last, parts path = front ++ [last] ∧ parts (path ++ tail) = front ++ [last ++ tail] := by
  have split (chars : List Char) : ∃ front last, chars.splitOn '/' = front ++ [last] ∧
      (chars ++ tail.toList).splitOn '/' = front ++ [last ++ tail.toList] := by
    induction chars with
    | nil => exact ⟨[], [], rfl, List.splitOn_eq_singleton h⟩
    | cons c chars ih =>
      obtain ⟨front, last, hchars, happended⟩ := ih
      simp only [List.cons_append, List.splitOn_cons_eq_if_modifyHead, hchars, happended]
      split
      · exact ⟨[] :: front, last, rfl, rfl⟩
      · cases front with
        | nil => exact ⟨[], c :: last, rfl, rfl⟩
        | cons first front => exact ⟨(c :: first) :: front, last, rfl, rfl⟩
  obtain ⟨front, last, hpath, happended⟩ := split path.toList
  refine ⟨front.map String.ofList, String.ofList last, ?_, ?_⟩
  · rw [parts, hpath, List.map_append]
    rfl
  · rw [parts, String.toList_append, happended, List.map_append, List.map_singleton,
      String.ofList_append, String.ofList_toList]

namespace Volume

variable {volume : Volume} {path : String} {content : Bytes}

/-- The place of which a path speaks, whether or not it can be followed. -/
def spokenPlace (volume : Volume) (path : String) : Place :=
  (parts path).foldl enter (volume.start path)

/-- A walk that succeeds keeps its goal when faults are named otherwise. -/
theorem mapError_eq_ok_iff {walked : Except OsFault Place} :
    walked.mapError FileFault.os = .ok goal ↔ walked = .ok goal := by
  cases walked with
  | error fault => constructor <;> rintro ⟨⟩
  | ok place => constructor <;> (rintro ⟨⟩; rfl)

/-- A path of lawful form is located by following its parts. -/
theorem locate_eq_ok_iff :
    volume.locate path = .ok goal ↔
      path.toList.contains '\x00' = false ∧ path.isEmpty = false ∧ path.utf8ByteSize ≤ pathLimit ∧
        walk volume.tree (volume.start path) (parts path) = .ok goal := by
  unfold locate
  split
  · simp_all
  · split
    · simp_all
    · split
      · rename_i long
        simp [Nat.not_le.mpr long]
      · simp_all [mapError_eq_ok_iff]

/-- A path that can be followed leads to the place that it speaks of. -/
theorem spokenPlace_of_locate (h : volume.locate path = .ok goal) : volume.spokenPlace path = goal :=
  foldl_enter_of_walk (locate_eq_ok_iff.mp h).2.2.2

/-- Where directories are kept, a path is located where it was. -/
theorem locate_of_keepsDirectories (volume : Volume) (kept : KeepsDirectories volume.tree later)
    (h : volume.locate path = .ok goal) : { volume with tree := later }.locate path = .ok goal := by
  rw [locate_eq_ok_iff] at h ⊢
  exact ⟨h.1, h.2.1, h.2.2.1, kept.walk h.2.2.2⟩

/-- An entry is at a path exactly if the path leads to its place. -/
theorem entry?_eq_ok_iff {entry : Entry} :
    volume.entry? path = .ok entry ↔
      ∃ place, volume.locate path = .ok place ∧ volume.tree.lookup place = some entry := by
  unfold entry?
  cases hlocate : volume.locate path with
  | error fault => simp
  | ok place => cases hlookup : volume.tree.lookup place <;> simp [hlookup]

/-- There is something at a path exactly if an entry is found there. -/
theorem hasEntry_eq_true_iff :
    volume.hasEntry path = true ↔ ∃ entry, volume.entry? path = .ok entry := by
  unfold hasEntry
  cases volume.entry? path <;> simp

/-- Where a path leads tells whether there is something at it. -/
theorem hasEntry_of_locate (h : volume.locate path = .ok goal) :
    volume.hasEntry path = (volume.tree.lookup goal).isSome := by
  rw [hasEntry, entry?, h]
  cases found : volume.tree.lookup goal <;> simp [found]

/-- What can be read at a path is the content of the file there. -/
theorem read_eq_ok_iff :
    volume.read path = .ok content ↔ volume.entry? path = .ok (.file content) := by
  unfold read
  rcases volume.entry? path with _ | _ | _ <;> simp

end Volume

end ChatGateway.Files
