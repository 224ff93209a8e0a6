/-
Module: Handoff.Text.Unicode.Blank
Purpose: The White_Space property of the Unicode character database (version 15.0):
  the characters that trimming removes and that separate words.
Main exports: Unicode.whiteSpace
-/
import Handoff.Text.Unicode.Table

namespace Handoff.Unicode

/-- Code points with the White_Space property. -/
def whiteSpace : RangeSet := ⟨#[
  (0x9, 0xD),
  (0x20, 0x20),
  (0x85, 0x85),
  (0xA0, 0xA0),
  (0x1680, 0x1680),
  (0x2000, 0x200A),
  (0x2028, 0x2029),
  (0x202F, 0x202F),
  (0x205F, 0x205F),
  (0x3000, 0x3000)
]⟩

end Handoff.Unicode
