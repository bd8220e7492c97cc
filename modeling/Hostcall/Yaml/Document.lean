import Hostcall.Yaml.Node.Grammar
import Hostcall.Yaml.Node.Meaning
import Hostcall.Yaml.Token.Lexer

/-!
# YAML documents

The data of a text whose one document is a sequence. A text without content has no items; one that is
malformed or holds something else is refused.
-/

namespace Hostcall.Yaml

/-- The items of a text. -/
def items? (text : String) : Option (List Datum) := do
  match ← Node.ofTokens? (← Token.ofText? text) with
  | none => return []
  | some n => n.items? depthLimit

end Hostcall.Yaml
