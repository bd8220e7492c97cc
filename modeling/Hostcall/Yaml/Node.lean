import Std.Data.HashMap
import Hostcall.Yaml.Tag

/-!
# Nodes

A document as a tree. Nodes may be marked by anchors, and an alias stands for the node of its mark.
-/

namespace Hostcall.Yaml

/-- What is written in front of a node. -/
structure Properties where
  /-- The number of its anchor. -/
  mark : Option Nat := none
  tag : Option Tag := none
  deriving Repr, DecidableEq

inductive Node where
  | alias (mark : Nat)
  | scalar (p : Properties) (quoted : Bool) (text : String)
  | sequence (p : Properties) (items : List Node)
  | mapping (p : Properties) (entries : List (Node × Node))
  deriving Repr, Inhabited

namespace Node

/-- A node that is not written out. -/
def empty : Node := .scalar {} false ""

/-- The number of an anchor in front of a node. -/
def mark? : Node → Option Nat
  | .alias _ => none
  | .scalar p _ _ => p.mark
  | .sequence p _ => p.mark
  | .mapping p _ => p.mark

/-- Nodes by the numbers of their anchors. -/
abbrev Marks := Std.HashMap Nat Node

/-- Adds a node under its mark, in the place of an earlier one with the same. -/
def markIn (n : Node) (marks : Marks) : Marks :=
  match n.mark? with
  | none => marks
  | some mark => marks.insert mark n

mutual

/-- Adds a node and the nodes in it, in the order in which they begin. -/
def addTo (marks : Marks) : Node → Marks
  | .sequence p items => addItems ((Node.sequence p items).markIn marks) items
  | .mapping p entries => addEntries ((Node.mapping p entries).markIn marks) entries
  | n => n.markIn marks

def addItems (marks : Marks) : List Node → Marks
  | [] => marks
  | n :: ns => addItems (n.addTo marks) ns

def addEntries (marks : Marks) : List (Node × Node) → Marks
  | [] => marks
  | (k, v) :: es => addEntries (v.addTo (k.addTo marks)) es

end

mutual

/-- Adds up the weight of nodes: scalars and aliases count once, collections at their beginning and end. -/
def addWeight (sum : Nat) : Node → Nat
  | .sequence _ items => addItemsWeight (sum + 2) items
  | .mapping _ entries => addEntriesWeight (sum + 2) entries
  | _ => sum + 1

def addItemsWeight (sum : Nat) : List Node → Nat
  | [] => sum
  | n :: ns => addItemsWeight (n.addWeight sum) ns

def addEntriesWeight (sum : Nat) : List (Node × Node) → Nat
  | [] => sum
  | (k, v) :: es => addEntriesWeight (v.addWeight (k.addWeight sum)) es

end

/-- The weight of a node. -/
def weight (n : Node) : Nat := n.addWeight 0

end Node

end Hostcall.Yaml
