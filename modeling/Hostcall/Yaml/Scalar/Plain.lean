import Hostcall.Yaml.Scalar.Fold

/-!
# Unquoted scalars

Where a scalar without quotes begins and ends. It ends before a colon that stands alone, before a comment,
before a mark between documents, and before a line that is not indented far enough; between brackets also
before a mark of the collection.
-/

namespace Hostcall.Yaml

/-- The characters that begin something else than an unquoted scalar. -/
def isIndicator (c : Char) : Bool :=
  isFlowMark c || c = '#' || c = '&' || c = '*' || c = '!' || c = '|' || c = '>' || c = '\'' ||
    c = '"' || c = '%' || c = '@' || c = '\x60'

/-- Whether an unquoted scalar can begin here. A dash, a question mark or a colon needs more right behind
it, and between brackets only the dash will do. -/
def startsPlain (flow : Bool) : List Char → Bool
  | [] => false
  | c :: cs =>
    if c = '-' then !atGap cs
    else if c = '?' ∨ c = ':' then !flow && !atGap cs
    else !atGap [c] && !isIndicator c

/-- Whether a scalar ends before a character although no white space is there. -/
def endsPlain (flow : Bool) (c : Char) (cs : List Char) : Bool :=
  (c = ':' && atGap cs) || (flow && isFlowMark c)

/-- Whether a scalar does not go on with a character behind white space. -/
def endsPlainGap (flow : Bool) (least column : Nat) (c : Char) (cs : List Char) : Bool :=
  (!flow && column < least) || atDivision column (c :: cs) || c = '#'

/-- Whether a colon stands before a mark of a collection, which is refused between brackets. -/
def isBadColon (flow : Bool) (c : Char) (cs : List Char) : Bool :=
  flow && c = ':' && cs.head?.any fun d => isFlowMark d || d = '?'

/-- Reads a scalar whose later lines are indented at least so far; a tab in place of the indentation is
refused. -/
def readPlain (flow : Bool) (least : Nat) (chars : List Char) (fold : Fold) (p : Place) :
    List Char → Option ScalarEnd
  | [] => some ⟨chars, fold.broken, [], p⟩
  | c :: cs =>
    if isBlank c then
      if fold.broken && c = '\t' && p.column < least then none
      else readPlain flow least chars (fold.blank c) (p.after c) cs
    else if isBreak c then readPlain flow least chars (fold.lineBreak c) (p.after c) cs
    else if fold.isSome && endsPlainGap flow least p.column c cs then
      some ⟨chars, fold.broken, c :: cs, p⟩
    else if isBadColon flow c cs then none
    else if endsPlain flow c cs then some ⟨chars, fold.broken, c :: cs, p⟩
    else readPlain flow least (c :: fold.settle chars) {} (p.after c) cs

/-- Reads a scalar that begins here. -/
def Cursor.plain? (k : Cursor) (flow : Bool) (least : Nat) : Option ScalarEnd :=
  readPlain flow least [] {} k.place k.rest

end Hostcall.Yaml
