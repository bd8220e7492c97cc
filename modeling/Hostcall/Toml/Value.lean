/-!
# TOML values

A document is a table of values under keys. A table remembers how it came about, because that decides
which later lines may add to it.
-/

namespace Hostcall.Toml

/-- How a table came about. -/
inductive Making where
  /-- By its own header. -/
  | header
  /-- By the header of a table below it. -/
  | above
  /-- By a dotted key. -/
  | dotted
  /-- Between braces; nothing can be added. -/
  | closed
  deriving Repr, DecidableEq

inductive Value where
  | text (s : String)
  | integer (n : Int)
  /-- A number with a fraction, by its bits in double precision. -/
  | float (bits : Nat)
  | boolean (b : Bool)
  /-- A date, a time, or both, as written. -/
  | moment (written : String)
  | array (items : List Value)
  | table (making : Making) (entries : List (String × Value))
  /-- Tables that were each added by a header of their own, latest first. -/
  | tables (elements : List Value)
  deriving Repr

abbrev Entries := List (String × Value)

namespace Entries

/-- Sets the value of a key, in its old place if there is one. -/
def put (es : Entries) (key : String) (v : Value) : Entries :=
  if es.any (·.1 = key) then es.map fun e => if e.1 = key then (key, v) else e
  else es ++ [(key, v)]

/-- Edits the table that a path of keys leads to, making the tables that are missing on the way. Keys
lead into the latest of several tables. A dotted path does not lead into a table with a header. -/
def update (making : Making) (edit : Making → Entries → Option Entries) :
    Making → List String → Entries → Option Entries
  | made, [], es => edit made es
  | _, key :: keys, es =>
    match es.lookup key with
    | none => (update making edit making keys []).map fun inner =>
        es ++ [(key, .table making inner)]
    | some (.table made inner) =>
      if made = .closed ∨ (making = .dotted ∧ made = .header) then none
      else (update making edit made keys inner).map fun inner =>
        es.put key (.table made inner)
    | some (.tables elements) =>
      match elements with
      | .table made inner :: earlier =>
        (update making edit made keys inner).map fun inner =>
          es.put key (.tables (.table made inner :: earlier))
      | _ => none
    | some _ => none

/-- Adds a value under a dotted key. The last table on the way must have been made for dotted keys,
unless there is none on the way; and the key must be new. -/
def assign (es : Entries) (made : Making) (path : List String) (key : String) (v : Value) :
    Option Entries :=
  es.update .dotted (fun made es =>
    if made = .dotted ↔ path = [] then none
    else if es.any (·.1 = key) then none
    else some (es ++ [(key, v)])) made path

/-- Opens the table of a header; one that is only there for the sake of tables below it is taken over. -/
def openTable (es : Entries) (path : List String) (key : String) : Option Entries :=
  es.update .above (fun _ es =>
    match es.lookup key with
    | none => some (es ++ [(key, .table .header [])])
    | some (.table .above inner) => some (es.put key (.table .header inner))
    | some _ => none) .header path

/-- Opens one more table of several under the same header. -/
def openElement (es : Entries) (path : List String) (key : String) : Option Entries :=
  es.update .above (fun _ es =>
    match es.lookup key with
    | none => some (es ++ [(key, .tables [.table .header []])])
    | some (.tables elements) => some (es.put key (.tables (.table .header [] :: elements)))
    | some _ => none) .header path

/-- Runs an edit inside the table of a header that was opened before. -/
def inside (es : Entries) (path : List String) (edit : Making → Entries → Option Entries) :
    Option Entries :=
  es.update .above edit .header path

end Entries

end Hostcall.Toml
