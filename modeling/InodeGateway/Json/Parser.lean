import InodeGateway.Json
import InodeGateway.Num.Reading
import InodeGateway.Text.Half

/-!
# Reading documents

The strict grammar of the format: blanks are the space, the tab and the two line ends, numbers have
one spelling of each part, and nothing but blanks may follow the document.  Every step takes at
least one character, so the length of the text bounds the recursion.

## Main definitions

* `Json.parse?` — the document that a text spells
-/

namespace InodeGateway.Json

/-- The rest of a text after the blanks at its front. -/
def skipBlanks (cs : List Char) : List Char :=
  cs.dropWhile fun c => c = ' ' || c = '\t' || c = '\n' || c = '\r'

/-- The value of four hexadecimal digits at the front of a text, and the rest. -/
def takeUnit? (cs : List Char) : Option (Nat × List Char) :=
  match cs with
  | a :: b :: c :: d :: rest => (Num.baseValue? 16 [a, b, c, d]).map fun n => (n, rest)
  | _ => none

/-- The piece of an escaped unit, joined with a second escaped unit if the two are a pair. -/
def takePair (unit : Nat) (rest : List Char) : Text.Piece × List Char :=
  if 0xD800 ≤ unit ∧ unit ≤ 0xDBFF then
    match rest with
    | '\\' :: 'u' :: more =>
      match takeUnit? more with
      | some (low, tail) =>
        if 0xDC00 ≤ low ∧ low ≤ 0xDFFF then
          (.char (Char.ofNat (0x10000 + (unit - 0xD800) * 0x400 + (low - 0xDC00))), tail)
        else (.ofUnit unit, rest)
      | none => (.ofUnit unit, rest)
    | _ => (.ofUnit unit, rest)
  else (.ofUnit unit, rest)

/-- The character that a letter after the backslash stands for. -/
def unescape? (c : Char) : Option Char :=
  if c = '"' ∨ c = '\\' ∨ c = '/' then some c
  else if c = 'b' then some '\x08'
  else if c = 'f' then some '\x0c'
  else if c = 'n' then some '\n'
  else if c = 'r' then some '\r'
  else if c = 't' then some '\t'
  else none

/-- The rest of a quoted text after its opening mark: the characters, last one first, until the
closing mark. -/
def takeQuoted : (fuel : Nat) → (read : List Char) → List Char → Option (String × List Char)
  | 0, _, _ => none
  | _ + 1, _, [] => none
  | fuel + 1, read, c :: rest =>
    if c = '"' then some (String.ofList read.reverse, rest)
    else if c = '\\' then
      match rest with
      | 'u' :: more =>
        match takeUnit? more with
        | some (unit, tail) =>
          let (joined, tail) := takePair unit tail
          takeQuoted fuel (joined.chars.reverse ++ read) tail
        | none => none
      | letter :: tail =>
        match unescape? letter with
        | some meant => takeQuoted fuel (meant :: read) tail
        | none => none
      | [] => none
    else if c.toNat < 0x20 then none
    else takeQuoted fuel (c :: read) rest

/-- A fraction at the front of a text: a point and at least one digit, or nothing. -/
def takeFraction? (cs : List Char) : Option (List Char × List Char) :=
  match cs with
  | '.' :: rest =>
    match Num.takeDigits rest with
    | ([], _) => none
    | (digits, tail) => some (digits, tail)
  | _ => some ([], cs)

/-- A number at the front of a text: no plus sign, no leading zeros, digits on both sides of a
point, digits after the letter of an exponent. -/
def takeNumber? (cs : List Char) : Option (Num × List Char) := do
  let (negative, cs) :=
    match cs with
    | '-' :: rest => (true, rest)
    | cs => (false, cs)
  let (whole, rest) ←
    match cs with
    | '0' :: rest => some (['0'], rest)
    | cs =>
      match Num.takeDigits cs with
      | ([], _) => none
      | parts => some parts
  let (fraction, rest) ← takeFraction? rest
  let (e, tail) := Num.takeExponent rest
  match tail with
  | 'e' :: _ => none
  | 'E' :: _ => none
  | _ =>
    some (Num.ofDecimal negative (Num.digitsValue (whole ++ fraction)) (e - fraction.length), tail)

/-- A word at the front of a text. -/
def takeWord? (word : String) (value : Json) (cs : List Char) : Option (Json × List Char) :=
  let w := word.toList
  if w.isPrefixOf cs then some (value, cs.drop w.length) else none

mutual

/-- A document at the front of a text that starts with no blank, and the rest. -/
def takeValue? : (fuel : Nat) → List Char → Option (Json × List Char)
  | 0, _ => none
  | fuel + 1, cs =>
    match cs with
    | '"' :: rest => (takeQuoted (rest.length + 1) [] rest).map fun (s, tail) => (.str s, tail)
    | '[' :: rest =>
      match skipBlanks rest with
      | ']' :: tail => some (.arr [], tail)
      | rest => (takeItems? fuel rest).map fun (items, tail) => (.arr items, tail)
    | '\x7b' :: rest =>
      match skipBlanks rest with
      | '\x7d' :: tail => some (.obj [], tail)
      | rest => (takeMembers? fuel rest).map fun (members, tail) => (ofMembers members, tail)
    | 't' :: _ => takeWord? "true" (.bool true) cs
    | 'f' :: _ => takeWord? "false" (.bool false) cs
    | 'n' :: _ => takeWord? "null" .null cs
    | _ => (takeNumber? cs).map fun (x, tail) => (.num x, tail)

/-- The items of an array up to its closing bracket. -/
def takeItems? : (fuel : Nat) → List Char → Option (List Json × List Char)
  | 0, _ => none
  | fuel + 1, cs =>
    match takeValue? fuel cs with
    | none => none
    | some (item, rest) =>
      match skipBlanks rest with
      | ',' :: rest =>
        (takeItems? fuel (skipBlanks rest)).map fun (items, tail) => (item :: items, tail)
      | ']' :: tail => some ([item], tail)
      | _ => none

/-- The members of an object up to its closing brace. -/
def takeMembers? : (fuel : Nat) → List Char → Option (List (String × Json) × List Char)
  | 0, _ => none
  | fuel + 1, cs =>
    match cs with
    | '"' :: rest =>
      match takeQuoted (rest.length + 1) [] rest with
      | none => none
      | some (name, rest) =>
        match skipBlanks rest with
        | ':' :: rest =>
          match takeValue? fuel (skipBlanks rest) with
          | none => none
          | some (value, rest) =>
            match skipBlanks rest with
            | ',' :: rest =>
              (takeMembers? fuel (skipBlanks rest)).map fun (members, tail) =>
                ((name, value) :: members, tail)
            | '\x7d' :: tail => some ([(name, value)], tail)
            | _ => none
        | _ => none
    | _ => none

end

/-- The document that a text spells, if nothing but blanks surrounds it. -/
def parse? (s : String) : Option Json :=
  let cs := s.toList
  match takeValue? (2 * cs.length + 2) (skipBlanks cs) with
  | some (value, rest) => if (skipBlanks rest).isEmpty then some value else none
  | none => none

end InodeGateway.Json
