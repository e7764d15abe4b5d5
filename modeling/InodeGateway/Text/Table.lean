import InodeGateway.Num.Reading

/-!
# Tables of characters

Data about many characters is kept in tables.  A table is written in words with blanks between them.
A word names the characters of one run by their numbers in base 16: the first one, the last one
after a hyphen if there are several, and the distance of neighbours after a slash if it is not one.
What the table tells about them follows after a greater-than sign, as numbers with plus signs
between them.

## Main definitions

* `Text.Run` — characters at equal distances, and what is told about them
* `Text.Table` — runs of characters
* `Text.Table.ofLines` — the table that is written in lines
* `Text.Table.contains`, `Text.Table.find?` — whether a character is in a table, and in which run
-/

namespace InodeGateway.Text

/-- Characters at equal distances, and what is told about them. -/
structure Run where
  first : Nat
  last : Nat
  step : Nat
  /-- What is told about the first character. -/
  values : List Nat
  deriving DecidableEq, Repr

namespace Run

/-- The number that characters spell in base 16. -/
def number (cs : List Char) : Nat := (Num.baseValue? 16 cs).getD 0

def ofWord (word : List Char) : Run :=
  let (told, values) :=
    match word.splitOn '>' with
    | [told, values] => (told, (values.splitOn '+').map number)
    | _ => (word, [])
  let (ends, step) :=
    match told.splitOn '/' with
    | [ends, step] => (ends, number step)
    | _ => (told, 1)
  match ends.splitOn '-' with
  | [first, last] => ⟨number first, number last, step, values⟩
  | _ => ⟨number ends, number ends, step, values⟩

/-- Whether a character is one of the run. -/
def contains (r : Run) (n : Nat) : Bool := r.first ≤ n && n ≤ r.last && (n - r.first) % r.step == 0

/-- What is told about a character of the run: as much more as it lies after the first one. -/
def shifted (r : Run) (n : Nat) : List Nat := r.values.map (· + (n - r.first))

end Run

abbrev Table := Array Run

namespace Table

def ofLines (lines : List String) : Table :=
  (lines.flatMap fun line => (line.toList.splitOn ' ').map Run.ofWord).toArray

def find? (t : Table) (n : Nat) : Option Run := Array.find? (·.contains n) t

def contains (t : Table) (n : Nat) : Bool := Array.any t (·.contains n)

end Table

end InodeGateway.Text
