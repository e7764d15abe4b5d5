/-!
# Blank characters and trimming

Owners, identities, handles and settings are written by people, so blanks at both ends of such a
text do not count.  The blank characters are the white space and line ends of Unicode, together
with the byte order mark.

## Main definitions

* `Text.isBlank` — the characters that trimming removes
* `Text.trimList`, `Text.trim` — a text without the blanks at its two ends
-/

namespace InodeGateway.Text

/-- Tab to carriage return, the space, and the wider spaces and separators of Unicode.  The next
line control, the zero width space and the Mongolian separator are not blank. -/
def isBlank (c : Char) : Bool :=
  let n := c.toNat
  (0x09 ≤ n && n ≤ 0x0D) || n == 0x20 || n == 0xA0 || n == 0x1680 ||
    (0x2000 ≤ n && n ≤ 0x200A) || n == 0x2028 || n == 0x2029 || n == 0x202F ||
    n == 0x205F || n == 0x3000 || n == 0xFEFF

/-- The characters between the first and the last that is not blank. -/
def trimList (cs : List Char) : List Char :=
  ((cs.dropWhile isBlank).reverse.dropWhile isBlank).reverse

/-- A text without the blanks at its two ends. -/
def trim (s : String) : String :=
  String.ofList (trimList s.toList)

@[simp] theorem trimList_nil : trimList [] = [] := rfl

@[simp] theorem toList_trim (s : String) : (trim s).toList = trimList s.toList := by
  simp [trim]

end InodeGateway.Text
