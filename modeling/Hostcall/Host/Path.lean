import Hostcall.Text.Split

/-!
# Paths

Paths are texts cut at `/`. An empty piece or a `.` counts for nothing unless it comes first: an empty
first piece is the root, a first `.` is the working directory. The directory beside a file is `parent?`;
`join` puts a relative path after a directory.
-/

namespace Hostcall.Path

def isAbsolute (path : String) : Bool :=
  path.toList.head? = some '/'

/-- The texts between the separators, empty ones included. -/
def pieces (path : String) : List (List Char) :=
  Text.split (· == '/') path.toList

/-- Whether a piece names nothing where it is not the first. -/
def isIdle (piece : List Char) : Bool :=
  piece = [] || piece = ['.']

/-- One step of a path. -/
inductive Component where
  | root
  | name (n : List Char)
  deriving Repr, DecidableEq

/-- The steps of a path, those that stay in place left out. -/
def components (path : String) : List Component :=
  let names := (pieces path).filter (!isIdle ·) |>.map .name
  if isAbsolute path then .root :: names else names

/-- The pieces without the idle ones at the end. -/
def trimPieces : List (List Char) → List (List Char)
  | [] => []
  | first :: rest => first :: (rest.reverse.dropWhile isIdle).reverse

/-- The text before the last component; the root and the empty path have none. -/
def parent? (path : String) : Option String :=
  match trimPieces (pieces path) with
  | [] => none
  | [first] => if first = [] then none else some ""
  | ps =>
    let before := trimPieces ps.dropLast
    some (if before = [[]] then "/" else String.ofList (Text.joinWith '/' before))

/-- A relative path below a directory; the empty directory adds nothing. -/
def join (directory path : String) : String :=
  match directory.toList.getLast? with
  | none => path
  | some c => if c = '/' then directory ++ path else directory ++ "/" ++ path

/-- The names of a path in order, without the empty ones. -/
def names (path : String) : List String :=
  (pieces path).filter (· ≠ []) |>.map String.ofList

/-- Whether a path ends in a separator. -/
def endsInSeparator (path : String) : Bool :=
  path.toList.getLast? = some '/'

end Hostcall.Path
