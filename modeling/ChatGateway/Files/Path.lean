/-!
# Paths

A path is a text whose names are separated by slashes. It is absolute if it starts with a
slash; repeated slashes and the name `.` inside a path mean nothing.
-/

namespace ChatGateway.Files

/-- Whether a path starts at the root. -/
def isAbsolute (path : String) : Bool := path.toList.head? = some '/'

/-- The second path as seen from the first; an absolute second path stands for itself. -/
def join (directory path : String) : String :=
  if isAbsolute path || directory.isEmpty then path
  else if directory.toList.getLast? = some '/' then directory ++ path
  else directory ++ "/" ++ path

/-- The parts of a path between slashes, empty ones included. -/
def parts (path : String) : List String := (path.toList.splitOn '/').map String.ofList

/-- The names that a path leads through, up to its last one. -/
def names (path : String) : List String := (parts path).filter fun name => name ≠ "" && name ≠ "."

/-- The names of the directory around what a path names. -/
def parentNames (path : String) : List String := (names path).dropLast

/-- Whether a part of a path takes no step. -/
def isIdle (part : String) : Bool := part = "" || part = "."

/-- The path to the directory around what a path names, as it is written there. -/
def parentText (path : String) : String :=
  "/".intercalate (((parts path).reverse.dropWhile isIdle).drop 1 |>.dropWhile isIdle).reverse

/-- Whether the last part of a path is the name of an entry rather than a way to a directory. -/
def endsInName (path : String) : Bool :=
  match ((parts path).filter (· ≠ "")).getLast? with
  | none | some "." | some ".." => false
  | some _ => true

/-- The characters after the last dot of the last name, unless the name starts with it. -/
def extension? (path : String) : Option String :=
  match (names path).getLast? with
  | none | some ".." => none
  | some name =>
    let reversed := name.toList.reverse
    match reversed.dropWhile (· ≠ '.') with
    | [] | [_] => none
    | _ => some (String.ofList (reversed.takeWhile (· ≠ '.')).reverse)

end ChatGateway.Files
