/-!
# Blank characters

The characters with the Unicode property `White_Space`, and cutting them off the ends of a text.
-/

namespace Hostcall.Text

/-- Whether a character has the property `White_Space`. -/
def isBlank (c : Char) : Bool :=
  let n := c.toNat
  (9 ≤ n && n ≤ 13) || n = 0x20 || n = 0x85 || n = 0xA0 || n = 0x1680 ||
    (0x2000 ≤ n && n ≤ 0x200A) || n = 0x2028 || n = 0x2029 || n = 0x202F || n = 0x205F || n = 0x3000

/-- Drops the characters of a class from both ends. -/
def trimWhere (p : Char → Bool) (cs : List Char) : List Char :=
  ((cs.dropWhile p).reverse.dropWhile p).reverse

/-- Drops the blank characters from both ends. -/
def trim (text : String) : String :=
  String.ofList (trimWhere isBlank text.toList)

end Hostcall.Text
