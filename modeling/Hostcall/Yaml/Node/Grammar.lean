import Hostcall.Yaml.Node
import Hostcall.Yaml.Token

/-!
# Reading nodes

The tree that the tokens of a document make. Where a node may be left out, what comes next decides whether
it is. A text has one document at most.
-/

namespace Hostcall.Yaml

/-- The tokens that are left, and the numbers of the anchors so far. -/
structure TokenSource where
  tokens : List Token
  anchors : Std.HashMap String Nat := {}

/-- Takes an `α` off the front of the tokens, or refuses. -/
abbrev NodeReader := StateT TokenSource Option

namespace NodeReader

def next? : NodeReader (Option Token) := return (← get).tokens.head?

def advance : NodeReader Unit := modify fun s => { s with tokens := s.tokens.tail }

/-- Takes an anchor if one comes next. It is numbered by how many names there are before it; a name that
comes again is still one name. -/
def anchor? : NodeReader (Option Nat) := do
  match ← next? with
  | some (.anchor name) =>
    advance
    let s ← get
    let mark := s.anchors.size
    set { s with anchors := s.anchors.insert name mark }
    return some mark
  | _ => return none

/-- Takes a tag if one comes next. -/
def tag? (shorthands : List Shorthand) : NodeReader (Option Tag) := do
  match ← next? with
  | some (.tag t) =>
    advance
    match t.resolve? shorthands with
    | none => failure
    | some tag => return some tag
  | _ => return none

/-- Takes an anchor and a tag in any order. -/
def properties (shorthands : List Shorthand) : NodeReader Properties := do
  let first ← anchor?
  let tag ← tag? shorthands
  let mark ← if first.isNone then anchor? else pure first
  return { mark, tag }

/-- The node of a name's latest anchor. -/
def aliasOf (name : String) : NodeReader Node := do
  match (← get).anchors[name]? with
  | none => failure
  | some mark => return .alias mark

/-- Whether a token ends what could have been a node in a block collection. -/
def endsBlockNode : Option Token → Bool
  | some .key => true
  | some .value => true
  | some .blockEnd => true
  | _ => false

/-- Reads a node unless the next token shows that there is none. -/
def orEmpty (ends : Option Token → Bool) (node : NodeReader Node) : NodeReader Node := do
  if ends (← next?) then return .empty else node

/-- The items of a block sequence, up to its end. -/
def blockItems (node : NodeReader Node) : Nat → List Node → NodeReader (List Node)
  | 0, _ => failure
  | n + 1, found => do
    match ← next? with
    | some .dash =>
      advance
      let item ← orEmpty (fun t => t = some .dash || t = some .blockEnd) node
      blockItems node n (item :: found)
    | some .blockEnd =>
      advance
      return found.reverse
    | _ => failure

/-- The items of a block sequence at the column of the key that it belongs to. -/
def alignedItems (node : NodeReader Node) : Nat → List Node → NodeReader (List Node)
  | 0, _ => failure
  | n + 1, found => do
    match ← next? with
    | some .dash =>
      advance
      let item ← orEmpty (fun t => t = some .dash || endsBlockNode t) node
      alignedItems node n (item :: found)
    | _ => return found.reverse

/-- The value after a key, which may be left out with its colon. -/
def valueOr (ends : Option Token → Bool) (node : NodeReader Node) : NodeReader Node := do
  if (← next?) = some .value then
    advance
    orEmpty ends node
  else return .empty

/-- The entries of a block mapping, up to its end. -/
def blockEntries (node : NodeReader Node) : Nat → List (Node × Node) →
    NodeReader (List (Node × Node))
  | 0, _ => failure
  | n + 1, found => do
    match ← next? with
    | some .key =>
      advance
      let k ← orEmpty endsBlockNode node
      let v ← valueOr endsBlockNode node
      blockEntries node n ((k, v) :: found)
    | some .blockEnd =>
      advance
      return found.reverse
    | _ => failure

/-- A comma, which the first member of a collection does without. -/
def separator (isFirst : Bool) : NodeReader Unit := do
  if !isFirst then
    if (← next?) = some .comma then advance else failure

/-- Whether a token ends what could have been a node between brackets. -/
def endsFlowNode (close : Token) (t : Option Token) : Bool :=
  t = some .comma || t = some close

/-- The key of a single pair. One that is left out takes the token that shows this with it. -/
def pairKey (node : NodeReader Node) : NodeReader Node := do
  let t ← next?
  if t = some .value || endsFlowNode .closeBracket t then
    advance
    return .empty
  else node

/-- The items between brackets, up to the closing one. A single pair is a mapping. -/
def flowItems (node : NodeReader Node) : Nat → List Node → NodeReader (List Node)
  | 0, _ => failure
  | n + 1, found => do
    if (← next?) = some .closeBracket then
      advance
      return found.reverse
    separator found.isEmpty
    match ← next? with
    | some .closeBracket =>
      advance
      return found.reverse
    | some .key =>
      advance
      let k ← pairKey node
      let v ← valueOr (endsFlowNode .closeBracket) node
      flowItems node n (.mapping {} [(k, v)] :: found)
    | _ =>
      let item ← node
      flowItems node n (item :: found)

/-- The entries between braces, up to the closing one. A key without a question mark in front of it and
without a colon on its line has no value. -/
def flowEntries (node : NodeReader Node) : Nat → List (Node × Node) →
    NodeReader (List (Node × Node))
  | 0, _ => failure
  | n + 1, found => do
    if (← next?) = some .closeBrace then
      advance
      return found.reverse
    separator found.isEmpty
    match ← next? with
    | some .closeBrace =>
      advance
      return found.reverse
    | some .key =>
      advance
      let k ← orEmpty (fun t => t = some .value || endsFlowNode .closeBrace t) node
      let v ← valueOr (endsFlowNode .closeBrace) node
      flowEntries node n ((k, v) :: found)
    | _ =>
      let k ← node
      flowEntries node n ((k, .empty) :: found)

/-- Reads a node with at most so many nodes around each other in it, and at most `bound` members in each
of them. Block collections are read only where `block` holds, and such as have their dashes at the column
of a key only where `aligned` holds. -/
def node (shorthands : List Shorthand) (bound : Nat) : Nat → Bool → Bool → NodeReader Node
  | 0, _, _ => failure
  | depth + 1, block, aligned => do
    let inner := node shorthands bound depth
    match ← next? with
    | some (.alias name) =>
      advance
      aliasOf name
    | _ =>
      let p ← properties shorthands
      match ← next? with
      | some (.scalar quoted text) =>
        advance
        return .scalar p quoted text
      | some .openBracket =>
        advance
        return .sequence p (← flowItems (inner false false) bound [])
      | some .openBrace =>
        advance
        return .mapping p (← flowEntries (inner false false) bound [])
      | t =>
        if t = some .dash ∧ aligned then
          return .sequence p (← alignedItems (inner true false) bound [])
        else if t = some .blockSequence ∧ block then
          advance
          return .sequence p (← blockItems (inner true false) bound [])
        else if t = some .blockMapping ∧ block then
          advance
          return .mapping p (← blockEntries (inner true true) bound [])
        else if p = {} then failure
        else return .scalar p false ""

end NodeReader

/-- The handles that directives define, and the tokens after them. The version must be known, and nothing
may be said twice. -/
def readDirectives (versioned : Bool) (found : List Shorthand) :
    List Token → Option (List Shorthand × List Token)
  | .version major minor :: ts =>
    if versioned ∨ major ≠ 1 ∨ (minor ≠ 1 ∧ minor ≠ 2) then none
    else readDirectives true found ts
  | .shorthand s :: ts =>
    if found.any (·.handle = s.handle) then none else readDirectives versioned (s :: found) ts
  | ts => some (found, ts)

/-- Whether a token begins the head of a document. -/
def Token.isHead : Token → Bool
  | .version _ _ => true
  | .shorthand _ => true
  | .documentStart => true
  | _ => false

/-- Nodes may lie this deep in one another; those of a text that goes deeper are not looked at. -/
def depthLimit : Nat := 128

/-- The node of a document, and the tokens after it. With a mark at its start a document may be empty. -/
def readDocument (ts : List Token) : Option (Node × List Token) := do
  let marked := ts.head?.any (·.isHead)
  let (found, ts) ← if marked then readDirectives false [] ts else some ([], ts)
  let ts ← if !marked then some ts
    else if ts.head? = some .documentStart then some ts.tail
    else none
  if marked && ts.head?.all (fun t => t.isHead || t = .documentEnd) then return (.empty, ts)
  let bound := ts.length + 1
  let (n, s) ← NodeReader.node (found ++ Shorthand.standard) bound (depthLimit + 1) true false |>.run
    { tokens := ts }
  return (n, s.tokens)

/-- The node of the tokens of one document or none: nothing if they are malformed, no node if there is no
document. -/
def Node.ofTokens? : List Token → Option (Option Node)
  | [] => some none
  | ts => do
    let (n, rest) ← readDocument ts
    if rest.all (· = .documentEnd) then return some n else none

end Hostcall.Yaml
