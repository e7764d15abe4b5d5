import InodeGateway.Text.CaseTable

/-!
# Lower case

Words in settings are compared without regard to case, and an unknown word is reported in lower
case.  A capital sigma becomes the final form at the end of a word; the capital dotted I becomes a
small i and a combining dot.

## Main definitions

* `Text.lowerList`, `Text.lower` — a text in lower case
-/

namespace InodeGateway.Text

/-- Whether a code point lies in one of the runs. -/
def inRanges (ranges : List (Nat × Nat)) (n : Nat) : Bool :=
  ranges.any fun r => r.1 ≤ n && n ≤ r.2

/-- Whether a character is cased and not ignorable. -/
def isCased (c : Char) : Bool := inRanges casedRanges c.toNat

/-- Whether a character is ignored when a letter looks for its neighbour. -/
def isIgnorable (c : Char) : Bool := inRanges ignorableRanges c.toNat

/-- The lower case of one character, without regard to its neighbours. -/
def lowerChar (c : Char) : Char :=
  let n := c.toNat
  match lowerRanges.find? fun r => r.1 ≤ n && n ≤ r.2.1 && (n - r.1) % r.2.2.1 == 0 with
  | some r => Char.ofNat ((n : Int) + r.2.2.2).toNat
  | none => c

/-- Whether the nearest character that is not ignorable is cased. -/
def nextIsCased (cs : List Char) : Bool :=
  match cs.dropWhile isIgnorable with
  | [] => false
  | c :: _ => isCased c

/-- Lower case of the characters after `before`, whose nearest character stands first. -/
def lowerFrom (before : List Char) : List Char → List Char
  | [] => []
  | c :: rest =>
    let lowered :=
      if c = 'Σ' then [if nextIsCased before && !nextIsCased rest then 'ς' else 'σ']
      else if c = 'İ' then ['i', '\u0307']
      else [lowerChar c]
    lowered ++ lowerFrom (c :: before) rest

def lowerList (cs : List Char) : List Char := lowerFrom [] cs

def lower (s : String) : String := String.ofList (lowerList s.toList)

end InodeGateway.Text
