/-!
# Blank texts

A text is blank if it holds nothing but white space: the spaces, tabulators and line ends of every
script.
-/

namespace SealedChat.Text

/-- Whether a character is white space. -/
def isBlankChar (c : Char) : Bool :=
  let n := c.toNat
  (9 ≤ n && n ≤ 13) || n == 0x20 || n == 0x85 || n == 0xA0 || n == 0x1680 ||
  (0x2000 ≤ n && n ≤ 0x200A) || n == 0x2028 || n == 0x2029 || n == 0x202F || n == 0x205F || n == 0x3000

/-- Whether a text is blank. -/
def isBlank (text : String) : Bool := text.toList.all isBlankChar

end SealedChat.Text
