import ChatGateway.Files.Path
import ChatGateway.OsFault
import ChatGateway.Text.Bytes

/-!
# File trees

A tree says of each place whether a file or a directory is there; the root is always a
directory. A path is followed from the root or from the current directory: every name that
is left behind must be a directory, and the last one may be missing.

The operations are those of the system: asking, reading, making directories, emptying or
creating a file, filling it, and renaming. Each refuses with the system's fault and then
changes nothing, except that directories which were made on the way to a fault stay.
-/

namespace ChatGateway.Files

/-- A place in a tree: the names that lead there from the root. -/
abbrev Place := List String

/-- What is at a place. -/
inductive Entry where
  | file (content : Bytes)
  | directory
  deriving DecidableEq, Repr

/-- Whether the entry is a directory. -/
def Entry.isDirectory : Entry → Bool
  | directory => true
  | file _ => false

/-- What is at each place, the root aside; each place occurs at most once. -/
structure Tree where
  entries : List (Place × Entry) := []
  deriving DecidableEq, Repr

/-- Why a file operation fails. -/
inductive FileFault where
  | os (fault : OsFault)
  /-- The path holds a character that no path may hold. -/
  | nulCharacter
  deriving DecidableEq, Repr

/-- The fault in words. -/
def FileFault.message : FileFault → String
  | os fault => fault.message
  | nulCharacter => "file name contained an unexpected NUL byte"

namespace Tree

/-- What is at a place. -/
def lookup (tree : Tree) (place : Place) : Option Entry :=
  if place = [] then some .directory else tree.entries.lookup place

/-- The tree with an entry at a place. -/
def put (tree : Tree) (place : Place) (entry : Entry) : Tree :=
  ⟨(place, entry) :: tree.entries.filter (·.1 ≠ place)⟩

/-- The tree without the entry at a place. -/
def erase (tree : Tree) (place : Place) : Tree := ⟨tree.entries.filter (·.1 ≠ place)⟩

/-- The tree without a place and everything below it. -/
def prune (tree : Tree) (place : Place) : Tree :=
  ⟨tree.entries.filter fun entry => !place.isPrefixOf entry.1⟩

/-- What is at a place does not depend on the entries of another place. -/
theorem lookup_filter_of_ne (entries : List (Place × Entry)) {place other : Place}
    (h : other ≠ place) : (entries.filter (·.1 ≠ place)).lookup other = entries.lookup other := by
  induction entries with
  | nil => rfl
  | cons entry rest ih =>
    obtain ⟨p, e⟩ := entry
    by_cases hp : p = place
    · subst hp
      have : (other == p) = false := by simpa using h
      simp only [List.filter_cons, ne_eq, not_true_eq_false, decide_false, Bool.false_eq_true,
        if_false, List.lookup_cons, this]
      exact ih
    · simp only [List.filter_cons, ne_eq, hp, not_false_eq_true, decide_true, if_true, List.lookup_cons, ih]

/-- Once the entries of a place are left out nothing is there. -/
theorem lookup_filter_self (entries : List (Place × Entry)) (place : Place) :
    (entries.filter (·.1 ≠ place)).lookup place = none := by
  induction entries with
  | nil => rfl
  | cons entry rest ih =>
    obtain ⟨p, e⟩ := entry
    by_cases hp : p = place
    · simp [hp] at ih ⊢
      exact ih
    · have : (place == p) = false := by simpa using Ne.symm hp
      simp only [List.filter_cons, ne_eq, hp, not_false_eq_true, decide_true, if_true, List.lookup_cons,
        this]
      exact ih

/-- What is put at a place is there; the root is no place where anything could be put. -/
theorem lookup_put_self (tree : Tree) {place : Place} (entry : Entry) (h : place ≠ []) :
    (tree.put place entry).lookup place = some entry := by
  simp [lookup, put, h]

/-- Putting something at a place changes no other place. -/
theorem lookup_put_of_ne (tree : Tree) {place other : Place} (entry : Entry)
    (h : other ≠ place) : (tree.put place entry).lookup other = tree.lookup other := by
  have : (other == place) = false := by simpa using h
  simp only [lookup, put, List.lookup_cons, this]
  rw [lookup_filter_of_ne tree.entries h]

/-- Nothing is left at a place that is erased. -/
theorem lookup_erase_self (tree : Tree) {place : Place} (h : place ≠ []) :
    (tree.erase place).lookup place = none := by
  simp only [lookup, erase, h, if_false]
  exact lookup_filter_self tree.entries place

/-- Erasing a place changes no other place. -/
theorem lookup_erase_of_ne (tree : Tree) {place other : Place} (h : other ≠ place) :
    (tree.erase place).lookup other = tree.lookup other := by
  simp only [lookup, erase]
  rw [lookup_filter_of_ne tree.entries h]

end Tree

/-- The greatest number of octets of a name. -/
def nameLimit : Nat := 255

/-- The greatest number of octets of a path. -/
def pathLimit : Nat := 4095

/-- Follows one name from a place, which must be a directory. -/
def step (tree : Tree) (place : Place) (name : String) : Except OsFault Place :=
  match tree.lookup place with
  | none => .error .noEntry
  | some (.file _) => .error .notDirectory
  | some .directory =>
    if nameLimit < name.utf8ByteSize then .error .nameTooLong
    else if name = "" || name = "." then .ok place
    else if name = ".." then .ok place.dropLast
    else .ok (place ++ [name])

/-- Follows names from a place. -/
def walk (tree : Tree) (place : Place) : List String → Except OsFault Place
  | [] => .ok place
  | name :: rest =>
    match step tree place name with
    | .error fault => .error fault
    | .ok next => walk tree next rest

/-- A tree and the directory from which relative paths start. -/
structure Volume where
  tree : Tree
  current : Place

namespace Volume

/-- The place from which a path starts. -/
def start (volume : Volume) (path : String) : Place :=
  if isAbsolute path then [] else volume.current

/-- The place that a path leads to, whether or not something is there. -/
def locate (volume : Volume) (path : String) : Except FileFault Place :=
  if path.toList.contains '\x00' then .error .nulCharacter
  else if path.isEmpty then .error (.os .noEntry)
  else if pathLimit < path.utf8ByteSize then .error (.os .nameTooLong)
  else (walk volume.tree (volume.start path) (parts path)).mapError .os

/-- What a path leads to. -/
def entry? (volume : Volume) (path : String) : Except FileFault Entry :=
  match volume.locate path with
  | .error fault => .error fault
  | .ok place =>
    match volume.tree.lookup place with
    | none => .error (.os .noEntry)
    | some entry => .ok entry

/-- Whether a path leads to something; what cannot be followed leads nowhere. -/
def hasEntry (volume : Volume) (path : String) : Bool :=
  match volume.entry? path with
  | .ok _ => true
  | .error _ => false

/-- Whether a path leads to a directory. -/
def hasDirectory (volume : Volume) (path : String) : Bool :=
  match volume.entry? path with
  | .ok entry => entry.isDirectory
  | .error _ => false

/-- The content of the file that a path leads to. -/
def read (volume : Volume) (path : String) : Except FileFault Bytes :=
  match volume.entry? path with
  | .error fault => .error fault
  | .ok .directory => .error (.os .isDirectory)
  | .ok (.file content) => .ok content

/-- Makes one directory at the end of names that start at a place. -/
def makeDirectory (tree : Tree) (origin : Place) (names : List String) : Except OsFault Tree :=
  match walk tree origin names with
  | .error fault => .error fault
  | .ok place =>
    match tree.lookup place with
    | some _ => .error .alreadyExists
    | none => .ok (tree.put place .directory)

/-- Whether names that start at a place lead to a directory. -/
def leadsToDirectory (tree : Tree) (origin : Place) (names : List String) : Bool :=
  match walk tree origin names with
  | .error _ => false
  | .ok place => tree.lookup place = some .directory

/-- Makes one directory at the end of names that start at a place, unless it is there. -/
def ensureDirectory (tree : Tree) (origin : Place) (names : List String) :
    Except OsFault Unit × Tree :=
  match makeDirectory tree origin names with
  | .ok made => (.ok (), made)
  | .error fault => (if leadsToDirectory tree origin names then .ok () else .error fault, tree)

/-- Makes a directory unless it is there, once the directories before it are made; the names
are given last first. What was made before a fault stays. -/
def makeReversed (tree : Tree) (origin : Place) : List String → Except OsFault Unit × Tree
  | [] => (.ok (), tree)
  | name :: before =>
    let path := (name :: before).reverse
    match makeDirectory tree origin path with
    | .ok made => (.ok (), made)
    | .error fault =>
      if fault = .noEntry then
        match makeReversed tree origin before with
        | (.error fault, tree) => (.error fault, tree)
        | (.ok (), tree) => ensureDirectory tree origin path
      else ensureDirectory tree origin path

/-- Makes the directories around what a path names, as far as that goes. -/
def enclose (volume : Volume) (path : String) : Except FileFault Unit × Volume :=
  let around := parentText path
  if around.toList.contains '\x00' then (.error .nulCharacter, volume)
  else if pathLimit < around.utf8ByteSize then (.error (.os .nameTooLong), volume)
  else
    let (result, tree) := makeReversed volume.tree (volume.start path) (parentNames path).reverse
    (result.mapError .os, { volume with tree })

/-- The volume with all directories around what a path names. -/
def makeParents (volume : Volume) (path : String) : Except FileFault Volume :=
  match volume.enclose path with
  | (.error fault, _) => .error fault
  | (.ok (), volume) => .ok volume

/-- Empties the file that a path leads to, or creates it; its place. -/
def truncate (volume : Volume) (path : String) : Except FileFault (Place × Volume) :=
  match volume.locate path with
  | .error fault => .error fault
  | .ok place =>
    match volume.tree.lookup place with
    | some .directory => .error (.os .isDirectory)
    | _ => .ok (place, { volume with tree := volume.tree.put place (.file []) })

/-- Gives the file at a place its content. -/
def fill (volume : Volume) (place : Place) (content : Bytes) : Volume :=
  { volume with tree := volume.tree.put place (.file content) }

/-- Moves the file that a path leads to over another path. -/
def rename (volume : Volume) (source target : String) : Except FileFault Volume :=
  match volume.locate source, volume.locate target with
  | .error fault, _ => .error fault
  | .ok _, .error fault => .error fault
  | .ok origin, .ok goal =>
    if !endsInName target then .error (.os .busy)
    else
      match volume.tree.lookup origin, volume.tree.lookup goal with
      | none, _ => .error (.os .noEntry)
      | some .directory, _ => .error (.os .notDirectory)
      | some (.file _), some .directory => .error (.os .isDirectory)
      | some (.file content), _ =>
        .ok { volume with tree := (volume.tree.erase origin).put goal (.file content) }

end Volume

end ChatGateway.Files
