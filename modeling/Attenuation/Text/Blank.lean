import Attenuation.Text.Range

/-!
# White space

The twenty-five code points of Unicode with the property White_Space. A model name made of them
alone counts as empty, and they are cut from the end of a listing.
-/

namespace Attenuation.Text

/-- The ranges of white space. -/
def blankRanges : Array CodeRange := #[
  (0x9, 0xD), (0x20, 0x20), (0x85, 0x85), (0xA0, 0xA0), (0x1680, 0x1680), (0x2000, 0x200A),
  (0x2028, 0x2029), (0x202F, 0x202F), (0x205F, 0x205F), (0x3000, 0x3000)]

/-- Whether a character is white space. -/
def isBlank (c : Char) : Bool := inRanges blankRanges c.toNat

/-- Whether a text has no character but white space. -/
def isBlankText (text : String) : Bool := text.toList.all isBlank

/-- A text without the white space at its end. -/
def dropTrailingBlanks (text : String) : String :=
  String.ofList (text.toList.reverse.dropWhile isBlank).reverse

end Attenuation.Text
