/-! Blank characters. A name or a path that consists of blanks alone counts as
missing, and "blank" means the Unicode property `White_Space`, not the ASCII
blanks alone. -/
namespace StepGraph.Text

/-- The characters with the Unicode property `White_Space`. -/
def isBlank (c : Char) : Bool :=
  let code := c.toNat
  (0x09 ≤ code && code ≤ 0x0D) || code == 0x20 || code == 0x85 || code == 0xA0 ||
    code == 0x1680 || (0x2000 ≤ code && code ≤ 0x200A) || code == 0x2028 || code == 0x2029 ||
    code == 0x202F || code == 0x205F || code == 0x3000

/-- A text is blank when it holds blank characters only; the empty text is. -/
def isBlankText (text : String) : Bool := text.toList.all isBlank

end StepGraph.Text
