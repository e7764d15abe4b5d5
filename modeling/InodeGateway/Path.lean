import InodeGateway.Path.Name

/-!
# Paths

A path is the list of names from the root down.  A text is read as a path by cutting it at the
separators and leaving out the components that mean nothing; so two spellings of one place are one
path, and each path has one written form.

## Main definitions

* `Path` — the names from the root down
* `Path.ofText` — the path that a text spells, or the refusal
* `Path.toText` — the written form of a path
* `Path.parent?`, `Path.child`, `Path.lastName` — the neighbours of a path
* `Path.contains` — whether a path lies at or below another
-/

namespace InodeGateway

/-- The names from the root down. -/
structure Path where
  names : List Name
  deriving DecidableEq, Repr

namespace Path

/-- The path without names. -/
def root : Path := ⟨[]⟩

instance : Inhabited Path := ⟨root⟩

/-- The components of a text that mean something. -/
def segments (cs : List Char) : List (List Char) :=
  (cs.splitOn '/').filter fun segment => segment ≠ [] ∧ segment ≠ ['.']

/-- The path that a text spells.  It begins with a separator, holds no NUL character, and each of
its components is empty, a reference to the directory itself, or a name. -/
def ofText (text : String) : Except Refusal Path :=
  let cs := text.toList
  if cs = [] then .error .emptyPath
  else if cs.head? ≠ some '/' then .error (.relativePath text)
  else if '\x00' ∈ cs then .error (.nulInPath text)
  else
    match (segments cs).mapM Name.ofChars? with
    | some names => .ok ⟨names⟩
    | none => .error (.parentReference text)

/-- The characters of the written form. -/
def chars (p : Path) : List Char :=
  '/' :: ['/'].intercalate (p.names.map fun n => n.text.toList)

/-- The written form of a path: a separator before each name, and one alone for the root. -/
def toText (p : Path) : String := String.ofList p.chars

/-- The path one name shorter; the root has none. -/
def parent? (p : Path) : Option Path :=
  if p.names = [] then none else some ⟨p.names.dropLast⟩

def child (p : Path) (n : Name) : Path := ⟨p.names ++ [n]⟩

/-- The text of the last name, empty for the root. -/
def lastName (p : Path) : String :=
  match p.names.getLast? with
  | some n => n.text
  | none => ""

/-- Whether `target` is the path itself or lies below it. -/
def contains (p target : Path) : Bool := p.names.isPrefixOf target.names

def depth (p : Path) : Nat := p.names.length

@[simp] theorem parent?_child (p : Path) (n : Name) : (p.child n).parent? = some p := by
  simp [child, parent?]

@[simp] theorem lastName_child (p : Path) (n : Name) : (p.child n).lastName = n.text := by
  simp [child, lastName]

/-- A parent has one name less. -/
theorem depth_of_parent? {p q : Path} (h : p.parent? = some q) : p.depth = q.depth + 1 := by
  unfold parent? at h
  split at h
  · cases h
  · next hne =>
    cases h
    have : 0 < p.names.length := List.length_pos_iff.mpr hne
    simp [depth]
    omega

end Path

end InodeGateway
