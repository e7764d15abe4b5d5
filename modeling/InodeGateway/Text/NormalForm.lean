import InodeGateway.Text.CompositionTable

/-!
# The composed form of texts

A letter with marks can be written as one character or as several.  In the composed form the marks
on a letter stand in the order of their classes, and a letter and a mark are one character wherever
there is one.  Characters are given by their numbers.

## Main definitions

* `Text.NormalForm.decompose` — a character as letters and marks
* `Text.NormalForm.reorder` — marks in the order of their classes
* `Text.NormalForm.compose` — letters and marks joined
* `Text.normalForm` — the composed form
-/

namespace InodeGateway.Text

namespace NormalForm

/-! ### Syllables -/

/-- The first of the syllables that are composed by rule, and of the letters that they consist of:
initial, medial and final ones. -/
def syllableBase : Nat := 0xAC00

@[inherit_doc syllableBase]
def initialBase : Nat := 0x1100

@[inherit_doc syllableBase]
def medialBase : Nat := 0x1161

@[inherit_doc syllableBase]
def finalBase : Nat := 0x11A7

/-- How many initial, medial and final letters there are; no final letter counts as one. -/
def initialCount : Nat := 19

@[inherit_doc initialCount]
def medialCount : Nat := 21

@[inherit_doc initialCount]
def finalCount : Nat := 28

def syllableCount : Nat := initialCount * medialCount * finalCount

/-- Whether a number is that of one of so many characters from a first one on. -/
def isAmong (base count n : Nat) : Bool := base ≤ n && n < base + count

def letters (syllable : Nat) : List Nat :=
  let index := syllable - syllableBase
  let final := index % finalCount
  [initialBase + index / (medialCount * finalCount),
    medialBase + index / finalCount % medialCount] ++
    if final = 0 then [] else [finalBase + final]

/-- The syllable of an initial and a medial letter, or of a syllable without a final letter and
one. -/
def joinSyllable? (a b : Nat) : Option Nat :=
  if isAmong initialBase initialCount a && isAmong medialBase medialCount b then
    some (syllableBase + ((a - initialBase) * medialCount + (b - medialBase)) * finalCount)
  else if isAmong syllableBase syllableCount a && (a - syllableBase) % finalCount == 0 &&
      isAmong (finalBase + 1) (finalCount - 1) b then
    some (a + (b - finalBase))
  else none

/-! ### The composed form -/

/-- The class of a mark; letters have class zero. -/
def markClass (n : Nat) : Nat :=
  match markClasses.find? n with
  | some ⟨_, _, _, [k]⟩ => k
  | _ => 0

/-- How many marks a composed letter has at most. -/
def depth : Nat := 4

/-- A character as letters and marks, of which the first one is decomposed in turn. -/
def decomposeFrom : (fuel : Nat) → Nat → List Nat
  | 0, n => [n]
  | fuel + 1, n =>
    if isAmong syllableBase syllableCount n then letters n
    else
      match (compositions.find? n).map Run.values with
      | some [a, b] => decomposeFrom fuel a ++ [b]
      | _ => [n]

/-- A character as letters and marks. -/
def decompose (n : Nat) : List Nat := decomposeFrom depth n

/-- Puts a mark after those whose class is not greater; the last mark stands first. -/
def insertMark (n : Nat) : List Nat → List Nat
  | [] => [n]
  | m :: rest =>
    if markClass n < markClass m && markClass n ≠ 0 then m :: insertMark n rest else n :: m :: rest

/-- Marks in the order of their classes, from letter to letter. -/
def reorder (ns : List Nat) : List Nat := (ns.foldl (fun read n => insertMark n read) []).reverse

/-- The character that two are together. -/
def join? (a b : Nat) : Option Nat :=
  match joinSyllable? a b with
  | some n => some n
  | none => (Array.find? (fun r => r.values == [a, b]) compositions).map Run.first

/-- A text of which the end is still being composed. -/
structure Composing where
  /-- What comes before the last letter, last character first. -/
  done : List Nat
  letter : Option Nat
  /-- The marks on it that are not joined with it, last one first. -/
  marks : List Nat

namespace Composing

/-- All characters, last one first. -/
def all (s : Composing) : List Nat := s.marks ++ s.letter.toList ++ s.done

/-- Whether a character cannot reach the last letter past the marks between them. -/
def blocks (s : Composing) (n : Nat) : Bool :=
  match s.marks with
  | [] => false
  | m :: _ => markClass n ≤ markClass m

/-- The text with one more character. -/
def push (s : Composing) (n : Nat) : Composing :=
  match if s.blocks n then none else s.letter.bind (join? · n) with
  | some joined => { s with letter := some joined }
  | none =>
    if markClass n = 0 then ⟨s.all, some n, []⟩
    else { s with marks := n :: s.marks }

end Composing

/-- Letters and marks joined. -/
def compose (ns : List Nat) : List Nat := (ns.foldl Composing.push ⟨[], none, []⟩).all.reverse

end NormalForm

def normalForm (ns : List Nat) : List Nat :=
  NormalForm.compose (NormalForm.reorder (ns.flatMap NormalForm.decompose))

end InodeGateway.Text
