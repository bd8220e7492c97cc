import Hostcall.Host.Error
import Hostcall.Host.Path
import Hostcall.Text.Utf8

/-!
# The host's files

A tree of named nodes and, apart from it, the bodies of the files: a name can go while an open file
keeps its body. A file is known by the place where it was created and a count, so that two runs which
touch different places name their files alike. Paths are walked as the host does it, each name in its
turn.
-/

namespace Hostcall

/-- The names from the root down to a node. -/
abbrev Location := List String

/-- A file apart from its name: where it was created, and how many files were created there before. -/
structure FileId where
  birth : Location
  generation : Nat
  deriving Repr, DecidableEq

/-- What a name leads to. -/
inductive Node where
  | directory
  | file (id : FileId)
  /-- Takes everything and holds nothing. -/
  | null
  /-- Has no room for a single byte. -/
  | full
  deriving Repr, DecidableEq

/-- The files of a host and the directory in which relative paths begin. -/
structure Disk where
  home : Location
  /-- The directories in which, and below which, new files may be made. -/
  grounds : List Location := [home]
  nodes : List (Location × Node)
  bodies : List (FileId × List UInt8)
  deriving Repr, DecidableEq

namespace Disk

/-- A host with an empty working directory and its devices. -/
def ofHome (home : Location) : Disk where
  home := home
  nodes :=
    (List.range (home.length + 1)).map (fun n => (home.take n, Node.directory)) ++
      [(["dev"], .directory), (["dev", "null"], .null), (["dev", "full"], .full)]
  bodies := []

def node? (d : Disk) (place : Location) : Option Node :=
  d.nodes.lookup place

/-- The content of a file, whether or not it still has a name. -/
def body (d : Disk) (id : FileId) : List UInt8 :=
  (d.bodies.lookup id).getD []

def setBody (d : Disk) (id : FileId) (bytes : List UInt8) : Disk :=
  { d with bodies := (id, bytes) :: d.bodies.filter (·.1 ≠ id) }

/-- A file that is rewritten has its new content. -/
@[simp] theorem body_setBody_self (d : Disk) (id : FileId) (bytes : List UInt8) :
    (d.setBody id bytes).body id = bytes := by
  simp [body, setBody]

/-- All other files keep their content. -/
theorem body_setBody_of_ne (d : Disk) {id other : FileId} (bytes : List UInt8) (h : other ≠ id) :
    (d.setBody id bytes).body other = d.body other := by
  have hb : (other == id) = false := by simpa using h
  simp only [body, setBody, List.lookup_cons, hb]
  congr 1
  induction d.bodies with
  | nil => rfl
  | cons e es ih =>
    obtain ⟨key, content⟩ := e
    by_cases he : key = id
    · have hk : (other == key) = false := by simpa [he] using h
      simpa [he, List.lookup_cons, hb] using ih
    · cases hk : other == key <;> simp_all [List.lookup_cons]

/-- Makes a directory where there is no node yet. -/
def addDirectory (d : Disk) (place : Location) : Disk :=
  { d with nodes := (place, .directory) :: d.nodes }

/-- Makes an empty file where there is no node yet. -/
def addFile (d : Disk) (place : Location) : Disk × FileId :=
  let id : FileId := ⟨place, (d.bodies.filter (·.1.birth = place)).length⟩
  ({ d with nodes := (place, .file id) :: d.nodes, bodies := (id, []) :: d.bodies }, id)

/-- Takes a name away; the body stays for those that have it open. -/
def removeNode (d : Disk) (place : Location) : Disk :=
  { d with nodes := d.nodes.filter (·.1 ≠ place) }

/-- The longest name of one step, in bytes. -/
def nameLimit : Nat := 255

/-- Paths have fewer bytes than this. -/
def pathLimit : Nat := 4096

/-- The place of a name in a directory; a dot stays, two dots go up. -/
def enter (place : Location) (name : String) : Location :=
  if name = "." then place
  else if name = ".." then place.dropLast
  else place ++ [name]

/-- What stands at one name of a directory. -/
def find (d : Disk) (place : Location) (name : String) : Except HostError Node :=
  if nameLimit < (Utf8.encode name).length then .error .nameTooLong
  else match d.node? (enter place name) with
    | none => .error .notFound
    | some node => .ok node

/-- Goes down through directories. -/
def walk (d : Disk) (place : Location) : List String → Except HostError Location
  | [] => .ok place
  | name :: names =>
    match d.find place name with
    | .error e => .error e
    | .ok .directory => d.walk (enter place name) names
    | .ok _ => .error .notDirectory

/-- Where a path leads, as far as that is settled by everything before its last name. -/
inductive Destination where
  /-- The path ends at a directory: it has no name, or its last is a dot or two. -/
  | directory
  /-- The last name in an existing directory, and whether a separator follows it. -/
  | entry (place : Location) (name : String) (separated : Bool)
  deriving Repr, DecidableEq

/-- Walks a path up to its last name. -/
def destination (d : Disk) (path : String) : Except HostError Destination :=
  if '\x00' ∈ path.toList then .error .nulInPath
  else if path = "" then .error .notFound
  else if pathLimit ≤ (Utf8.encode path).length then .error .nameTooLong
  else
    let start := if Path.isAbsolute path then [] else d.home
    let names := Path.names path
    match names.getLast? with
    | none => .ok .directory
    | some last =>
      if last = "." ∨ last = ".." then
        (d.walk start names).map fun _ => .directory
      else
        (d.walk start names.dropLast).map fun place =>
          .entry place last (Path.endsInSeparator path)

/-- The node that a path leads to. -/
def lookup (d : Disk) (path : String) : Except HostError Node :=
  match d.destination path with
  | .error e => .error e
  | .ok .directory => .ok .directory
  | .ok (.entry place name separated) =>
    match d.find place name with
    | .error e => .error e
    | .ok .directory => .ok .directory
    | .ok node => if separated then .error .notDirectory else .ok node

/-- Whether new files may be made in a directory. -/
def admits (d : Disk) (place : Location) : Bool :=
  d.grounds.any (·.isPrefixOf place)

/-- The node that a path leads to, a new empty file if there is none and the directory admits one. -/
def lookupOrCreate (d : Disk) (path : String) : Except HostError (Disk × Node) :=
  match d.destination path with
  | .error e => .error e
  | .ok .directory => .error .isDirectory
  | .ok (.entry place name separated) =>
    if separated then .error .isDirectory
    else match d.find place name with
      | .ok .directory => .error .isDirectory
      | .ok node => .ok (d, node)
      | .error .notFound =>
        if d.admits place then
          let (d, id) := d.addFile (enter place name)
          .ok (d, .file id)
        else .error .permissionDenied
      | .error e => .error e

/-- Makes the directories of a path that are not there yet. -/
def makeDirectories (d : Disk) (path : String) : Disk :=
  let start := if Path.isAbsolute path then [] else d.home
  let (d, _) := (Path.names path).foldl (fun (d, place) name =>
    let place := enter place name
    if (d.node? place).isSome then (d, place) else (d.addDirectory place, place)) (d, start)
  d

/-- Removes the name of a file. -/
def remove (d : Disk) (path : String) : Except HostError Disk :=
  match d.destination path with
  | .error e => .error e
  | .ok .directory => .error .isDirectory
  | .ok (.entry place name separated) =>
    match d.find place name with
    | .error e => .error e
    | .ok .directory => .error .isDirectory
    | .ok _ =>
      if separated then .error .notDirectory else .ok (d.removeNode (enter place name))

/-- One line of a listing: a path below the working directory, and the content unless it is a directory. -/
structure Listed where
  path : String
  content : Option (List UInt8)
  deriving Repr, DecidableEq

/-- Everything below the working directory, each directory before its content, names in order. -/
def listing (d : Disk) : List Listed :=
  let below := d.nodes.filter fun (place, _) => d.home.isPrefixOf place && place ≠ d.home
  let sorted := below.mergeSort fun a b => !decide (b.1 < a.1)
  sorted.map fun (place, node) =>
    let path := String.intercalate "/" (place.drop d.home.length)
    match node with
    | .file id => ⟨path, some (d.body id)⟩
    | .directory => ⟨path ++ "/", none⟩
    | _ => ⟨path, some []⟩

end Disk

end Hostcall
