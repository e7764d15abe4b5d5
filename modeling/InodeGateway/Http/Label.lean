import InodeGateway.Http.Label.ClassTable
import InodeGateway.Http.Label.FoldingTable
import InodeGateway.Http.Label.LetterTable
import InodeGateway.Text.NormalForm
import InodeGateway.Text.Punycode

/-!
# Labels of names

The name of a site consists of labels with points between them.  A name is first brought into its
one form, in which letters are small, plain where they can be, and composed.  A label in plain
letters may be anything, unless it stands for other letters; a label in other letters has
to keep the rules of their scripts.

## Main definitions

* `Label.fold?` — the one form of a name
* `Label.keepsRules` — the rules for labels in other letters
* `Label.isValid` — the rule for a label of a folded name
-/

namespace InodeGateway.Http.Label

open Text

/-! ### Folding -/

def isPlain (n : Nat) : Bool := n < 0x80

/-- What a character becomes; nothing if no name holds it. -/
def foldChar? (n : Nat) : Option (List Nat) :=
  if isPlain n then some [(Char.ofNat n).toLower.toNat]
  else if letters.contains n then some [n]
  else if ignored.contains n then some []
  else (foldings.find? n).map fun r => r.shifted n

/-- What characters become; nothing if no name holds one of them. -/
def foldAll? (ns : List Nat) : Option (List Nat) := (ns.mapM foldChar?).map List.flatten

/-- The one form of a name; nothing if it holds what no name holds. -/
def fold? (ns : List Nat) : Option (List Nat) := (foldAll? ns).map normalForm

/-! ### Joiners -/

/-- The sign that keeps letters apart, and the one that joins them. -/
def separator : Nat := 0x200C

@[inherit_doc separator]
def joiner : Nat := 0x200D

/-- Whether a label says where letters join only where they can: after a virama, or apart between
letters of which the former join with the next one and the latter with the one before.  Only the
first of the signs is looked at; nothing if there is none. -/
def joinsWell? (before : List Nat) : List Nat → Option Bool
  | [] => none
  | n :: rest =>
    if n = separator ∨ n = joiner then
      some (before.head?.any viramas.contains ||
        (n = separator && before.any joiningAfter.contains && rest.any joiningBefore.contains))
    else joinsWell? (n :: before) rest

/-! ### Directions -/

/-- The directions in which characters are written. -/
inductive Direction where
  | leftToRight
  | rightToLeft
  | europeanDigit
  | arabicDigit
  | neutral
  /-- That of the character before. -/
  | attached
  /-- None that is known. -/
  | unknown
  deriving DecidableEq, Repr

def direction (n : Nat) : Direction :=
  if rightToLeft.contains n then .rightToLeft
  else if arabicDigits.contains n then .arabicDigit
  else if europeanDigits.contains n then .europeanDigit
  else if attached.contains n then .attached
  else if neutrals.contains n then .neutral
  else if undirected.contains n then .unknown
  else .leftToRight

/-- Whether a label holds letters or digits that ask for its directions to be looked at. -/
def turns (ds : List Direction) : Bool := ds.any fun d => d = .rightToLeft || d = .arabicDigit

/-- Whether directions go together before the last one of a label that begins from left to right. -/
def goLeftToRight (ds : List Direction) : Bool :=
  ds.dropLast.all fun d => d ∉ [.rightToLeft, .arabicDigit, .unknown]

/-- Whether directions go together in any other label: none goes from left to right, digits are all
of one kind, and at the end stands a letter or a digit. -/
def goRightToLeft (ds : List Direction) : Bool :=
  ds.all (fun d => d ∉ [.leftToRight, .unknown]) &&
    !(ds.contains .europeanDigit && ds.contains .arabicDigit) && ds.getLast? ≠ some .neutral

/-- Whether directions go together in a label.  Those that are attached do not count at its end. -/
def goTogether (ds : List Direction) : Bool :=
  let counting := (ds.reverse.dropWhile (· = .attached)).reverse
  !turns ds ||
    if ds.head? = some .leftToRight then goLeftToRight counting else goRightToLeft counting

/-! ### Labels -/

def keepsRules (label : List Nat) : Bool :=
  match label with
  | [] => false
  | first :: _ =>
    !marks.contains first && (joinsWell? [] label).getD (goTogether (label.map direction))

/-- Whether characters are in the one form of names. -/
def isFolded (ns : List Nat) : Bool := foldAll? ns = some ns && normalForm ns = ns

/-- What a label in plain letters begins with that stands for other letters. -/
def encodedStart : List Nat := "xn--".toList.map Char.toNat

/-- Whether a label of a folded name is valid.  One that stands for other letters consists of plain
ones, and those that it stands for are in the one form and keep the rules. -/
def isValid (label : List Nat) : Bool :=
  if encodedStart.isPrefixOf label then
    label.all isPlain &&
      match Punycode.decode? ((label.drop encodedStart.length).map Char.ofNat) with
      | some ns => isFolded ns && keepsRules ns
      | none => false
  else label.all isPlain || keepsRules label

end InodeGateway.Http.Label
