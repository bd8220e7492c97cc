import Hostcall.Yaml.Tag

/-!
# Tokens

The words of a document. The beginning and the end of a block collection, which only indentation shows,
are tokens too, and so is the beginning of a key.
-/

namespace Hostcall.Yaml

inductive Token where
  /-- A directive that names the version of the format. -/
  | version (major minor : Nat)
  /-- A directive that gives a handle its meaning. -/
  | shorthand (s : Shorthand)
  | documentStart
  | documentEnd
  | blockSequence
  | blockMapping
  | blockEnd
  | openBracket
  | closeBracket
  | openBrace
  | closeBrace
  | comma
  /-- The dash before an item. -/
  | dash
  | key
  | value
  | alias (name : String)
  | anchor (name : String)
  | tag (t : TagText)
  | scalar (quoted : Bool) (text : String)
  deriving Repr, DecidableEq

end Hostcall.Yaml
