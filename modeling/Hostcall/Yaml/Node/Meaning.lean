import Hostcall.Yaml.Datum
import Hostcall.Yaml.Node

/-!
# What nodes mean

The data that nodes stand for, with aliases written out. An alias may stand for a node around it; the
depth to which data are written out keeps this finite, and the number of aliases that are followed is
bounded by the weight of the document.
-/

namespace Hostcall.Yaml

/-- The datum of a scalar. -/
def Tag.scalarDatum (tag : Option Tag) (quoted : Bool) (text : String) : Datum :=
  let untagged := if quoted then .text text else Plain.resolve text
  match tag with
  | none => untagged
  | some .unreadable => untagged
  | some .other => .text text
  | some .null => if Plain.isNull text then .null else .refused text
  | some .boolean => (Plain.boolean? text).elim (.refused text) .boolean
  | some .integer => (Plain.integer? text.toList).getD (.refused text)
  | some .fraction => (Plain.fraction? text.toList).elim (.refused text) .fraction
  | some .own => .refused text

namespace Node

/-- A datum, and how many aliases may still be followed. -/
abbrev Expansion (α : Type) := Option (α × Nat)

/-- Writes out items; those done come latest first. -/
def expandItems (expand : Nat → Node → Expansion Datum) (found : List Datum) (left : Nat) :
    List Node → Expansion (List Datum)
  | [] => some (found.reverse, left)
  | n :: ns =>
    match expand left n with
    | none => none
    | some (d, left) => expandItems expand (d :: found) left ns

/-- Writes out entries; those done come latest first. -/
def expandEntries (expand : Nat → Node → Expansion Datum) (found : List (Datum × Datum))
    (left : Nat) : List (Node × Node) → Expansion (List (Datum × Datum))
  | [] => some (found.reverse, left)
  | (k, v) :: es =>
    match expand left k with
    | none => none
    | some (k, left) =>
      match expand left v with
      | none => none
      | some (v, left) => expandEntries expand ((k, v) :: found) left es

/-- Follows an alias. -/
def follow? (marks : Marks) (left : Nat) : Node → Expansion Node
  | .alias mark =>
    match left, marks[mark]? with
    | left + 1, some n => some (n, left)
    | _, _ => none
  | n => some (n, left)

/-- The datum of a node with at most so many collections around each other. -/
def expand (marks : Marks) : Nat → Nat → Node → Expansion Datum
  | depth, left, n =>
    match follow? marks left n, depth with
    | some (.scalar p quoted text, left), _ => some (Tag.scalarDatum p.tag quoted text, left)
    | some (.sequence p items, left), depth + 1 =>
      if p.tag = some .own then none
      else (expandItems (expand marks depth) [] left items).map fun (ds, left) =>
        (.sequence ds, left)
    | some (.mapping p entries, left), depth + 1 =>
      if p.tag = some .own then none
      else (expandEntries (expand marks depth) [] left entries).map fun (es, left) =>
        (.mapping es, left)
    | _, _ => none

/-- The data of the items of a node that is a sequence; an empty node has none. Its own tag does not
count. -/
def items? (depthLimit : Nat) (n : Node) : Option (List Datum) :=
  match n with
  | .scalar _ quoted text => if text = "" ∧ !quoted then some [] else none
  | .sequence _ items =>
    (expandItems (expand (n.addTo {}) (depthLimit - 1)) [] (100 * n.weight) items).map (·.1)
  | _ => none

end Node

end Hostcall.Yaml
