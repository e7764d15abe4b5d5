import InodeGateway.Refusal

/-!
# Names

A name is one component of a path: it has at least one character, is neither of the two references
to directories, and holds neither a separator nor a NUL character.  Names are kept character for
character; blanks at their ends and backslashes belong to them.

## Main definitions

* `Name` — a text that can be a component
* `Name.objection?` — what speaks against a text as a name
* `Name.ofText` — a name, or the objection
-/

namespace InodeGateway

/-- What speaks against characters as a name; the first fault counts. -/
def Name.objection? (text : String) : Option Refusal :=
  let cs := text.toList
  if cs = [] then some .emptyName
  else if cs = ['.'] ∨ cs = ['.', '.'] then some (.dotName text)
  else if '/' ∈ cs ∨ '\x00' ∈ cs then some (.separatorInName text)
  else none

structure Name where
  text : String
  /-- Nothing speaks against them. -/
  valid : Name.objection? text = none
  deriving DecidableEq

namespace Name

instance : Repr Name := ⟨fun n => reprPrec n.text⟩

def ofText (text : String) : Except Refusal Name :=
  match h : objection? text with
  | none => .ok ⟨text, h⟩
  | some refusal => .error refusal

/-- The name that characters are, if they are one. -/
def ofChars? (cs : List Char) : Option Name := (ofText (String.ofList cs)).toOption

theorem ext_text {a b : Name} (h : a.text = b.text) : a = b := by
  cases a; cases b; simp_all

@[simp] theorem ofText_text (n : Name) : ofText n.text = .ok n := by
  obtain ⟨text, valid⟩ := n
  unfold ofText
  split
  · rfl
  · next h => simp [valid] at h

theorem text_of_ofText {text : String} {n : Name} (h : ofText text = .ok n) : n.text = text := by
  unfold ofText at h
  split at h
  · cases h; rfl
  · cases h

end Name

end InodeGateway
