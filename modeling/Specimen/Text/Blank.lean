set_option autoImplicit false

/-!
# Blank characters and trimming

Which characters count as blank is the Unicode property White_Space. The zero width space and the
byte order mark do not have it.

## Main definitions

* `Specimen.Text.isBlank` — the property White_Space.
* `Specimen.Text.trim` — a text without the blanks at its two ends.
-/

namespace Specimen.Text

/-- The Unicode property White_Space. -/
def isBlank (c : Char) : Bool :=
  let n := c.toNat
  (0x9 ≤ n && n ≤ 0xD) || n == 0x20 || n == 0x85 || n == 0xA0 || n == 0x1680 ||
    (0x2000 ≤ n && n ≤ 0x200A) || n == 0x2028 || n == 0x2029 || n == 0x202F || n == 0x205F ||
    n == 0x3000

/-- The text without blanks at its start. -/
def trimStart (text : List Char) : List Char := text.dropWhile isBlank

/-- The text without blanks at its end. -/
def trimEnd (text : List Char) : List Char := (text.reverse.dropWhile isBlank).reverse

/-- The text without blanks at either end. -/
def trim (text : List Char) : List Char := trimEnd (trimStart text)

end Specimen.Text
