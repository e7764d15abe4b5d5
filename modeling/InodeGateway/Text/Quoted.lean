import InodeGateway.Json.Printer
import InodeGateway.Text.Cut

/-!
# Texts as messages show them

A message that complains about a text shows it between quotation marks: single ones, or others if
the text holds those.  Characters that cannot be seen are escaped, and of what comes out only the
beginning is shown.

## Main definitions

* `Text.Quoted.markOf` — the mark that a text is shown between
* `Text.Quoted.cut` — the beginning of what is shown
* `Text.quoted` — a text as messages show it
-/

namespace InodeGateway.Text

namespace Quoted

/-- The mark around a text: the first of three that it does not hold.  The last one is not taken
where a dollar sign and a brace would make it mean something else. -/
def markOf (ps : List Piece) : Char :=
  if .char '\'' ∉ ps then '\''
  else if .char '"' ∉ ps then '"'
  else if .char '\x60' ∉ ps ∧ ¬ occurs [.char '$', .char '\x7b'] ps then '\x60'
  else '\''

/-- The escape of a character by the two digits of its number. -/
def escapeCode (n : Nat) : List Char :=
  ['\\', 'x', (Json.hexDigit (n / 16)).toUpper, (Json.hexDigit (n % 16)).toUpper]

/-- Whether a character cannot be seen. -/
def isHidden (n : Nat) : Bool := n < 0x20 || (0x7F ≤ n && n < 0xA0)

def escapeChar (mark c : Char) : List Char :=
  if c = '\\' ∨ (c = '\'' ∧ mark = '\'') then ['\\', c]
  else if c = '\n' then ['\\', 'n']
  else if c = '\r' then ['\\', 'r']
  else if c = '\t' then ['\\', 't']
  else if c = '\x08' then ['\\', 'b']
  else if c = '\x0c' then ['\\', 'f']
  else if isHidden c.toNat then escapeCode c.toNat
  else [c]

def escape (mark : Char) : Piece → List Piece
  | .half unit => (Json.escapeUnit unit).map .char
  | .char c => (escapeChar mark c).map .char

/-- How many units of sixteen bits are shown. -/
def limit : Nat := 128

/-- The pieces at the front that take at most so many units; a pair can be cut in the middle.
Points stand for the others. -/
def cut (room : Nat) : List Piece → List Piece
  | [] => []
  | p :: rest =>
    if p.units ≤ room then p :: cut (room - p.units) rest
    else (if room = 1 then p.firstHalf?.toList else []) ++ ['.', '.', '.'].map .char

end Quoted

/-- A text as messages show it. -/
def quoted (s : String) : String :=
  let ps := pieces s.toList
  let mark := Quoted.markOf ps
  let shown := [.char mark] ++ ps.flatMap (Quoted.escape mark) ++ [.char mark]
  String.ofList (spell (Quoted.cut Quoted.limit shown))

end InodeGateway.Text
