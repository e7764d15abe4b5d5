/-!
# Halves of pairs

Where texts are written in units of sixteen bits, a character beyond the basic plane is a pair of
units.  The escapes of a document can spell half of a pair alone, which is no character.  So a text
here is a sequence of pieces, each a character or such a half: the last code point is a mark, after
which a private character tells a half, and a second mark the last code point itself.  Every other
character stands for itself.  A system that takes only characters gets the replacement character in
the place of a half.

## Main definitions

* `Text.Piece` — a character or half of a pair
* `Text.pieces`, `Text.spell` — the pieces that characters spell, and back
* `Text.ofPlain`, `Text.toPlain` — between texts and sequences of characters alone
* `Text.wellFormed`, `Text.byteSize` — a text with its halves replaced, and its length in bytes
-/

namespace InodeGateway.Text

inductive Piece where
  | char (c : Char)
  /-- Half of a pair, as a unit of sixteen bits. -/
  | half (unit : Nat)
  deriving DecidableEq, Repr

def mark : Char := Char.ofNat 0x10FFFF

/-- How far the character that tells a half lies above it. -/
def halfOffset : Nat := 0x100000

def isHalfUnit (unit : Nat) : Bool := 0xD800 ≤ unit && unit ≤ 0xDFFF

def replacement : Char := '\ufffd'

namespace Piece

/-- The piece that a unit is when it stands alone. -/
def ofUnit (unit : Nat) : Piece := if isHalfUnit unit then .half unit else .char (Char.ofNat unit)

def chars : Piece → List Char
  | .char c => if c = mark then [mark, mark] else [c]
  | .half unit => [mark, Char.ofNat (unit + halfOffset)]

/-- The character that a piece is, or that replaces it. -/
def character : Piece → Char
  | .char c => c
  | .half _ => replacement

/-- How many units of sixteen bits a piece takes. -/
def units : Piece → Nat
  | .char c => if c.toNat < 0x10000 then 1 else 2
  | .half _ => 1

/-- The first half of the pair that a character is beyond the basic plane. -/
def firstHalf? : Piece → Option Piece
  | .char c => if c.toNat < 0x10000 then none else some (.half (0xD7C0 + c.toNat / 0x400))
  | .half _ => none

/-- The second half of the pair that a character is beyond the basic plane. -/
def secondHalf? : Piece → Option Piece
  | .char c => if c.toNat < 0x10000 then none else some (.half (0xDC00 + c.toNat % 0x400))
  | .half _ => none

/-- What a mark and the character after it spell. -/
def ofMarked (c : Char) : Piece := if c = mark then .char mark else .half (c.toNat - halfOffset)

end Piece

/-- The pieces that characters spell after those in `read`, of which the last stands first. -/
def piecesAfter (read : List Piece) : List Char → List Piece
  | [] => read.reverse
  | [c] => (.char c :: read).reverse
  | c :: d :: rest =>
    if c = mark then piecesAfter (.ofMarked d :: read) rest
    else piecesAfter (.char c :: read) (d :: rest)

def pieces (cs : List Char) : List Piece := piecesAfter [] cs

def spell (ps : List Piece) : List Char := ps.flatMap Piece.chars

def ofPlain (s : String) : String := String.ofList (spell (s.toList.map .char))

/-- The characters of a text, with its halves replaced. -/
def toPlain (s : String) : String := String.ofList ((pieces s.toList).map Piece.character)

/-- A text with its halves replaced. -/
def wellFormed (s : String) : String := ofPlain (toPlain s)

/-- The length of a text in bytes. -/
def byteSize (s : String) : Nat := (toPlain s).utf8ByteSize

/-- How many units of sixteen bits characters take. -/
def units16 (cs : List Char) : Nat := (pieces cs).foldl (fun n p => n + p.units) 0

theorem piecesAfter_spell_char (read : List Piece) (cs : List Char) :
    piecesAfter read (spell (cs.map .char)) = read.reverse ++ cs.map .char := by
  induction cs generalizing read with
  | nil => simp [spell, piecesAfter]
  | cons c cs ih =>
    have next : spell ((c :: cs).map .char) = Piece.chars (.char c) ++ spell (cs.map .char) := by
      simp [spell]
    rw [next]
    by_cases hc : c = mark
    · simp [Piece.chars, hc, piecesAfter, Piece.ofMarked, ih]
    · cases hs : spell (cs.map .char) with
      | nil =>
        have := ih (.char c :: read)
        simp [Piece.chars, hc, piecesAfter, hs] at this ⊢
        exact this
      | cons d rest =>
        have := ih (.char c :: read)
        simp [Piece.chars, hc, piecesAfter, hs] at this ⊢
        exact this

/-- Characters alone are kept as they are. -/
@[simp] theorem toPlain_ofPlain (s : String) : toPlain (ofPlain s) = s := by
  simp [toPlain, ofPlain, pieces, piecesAfter_spell_char, Function.comp_def, Piece.character]

end InodeGateway.Text
