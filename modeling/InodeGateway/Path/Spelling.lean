import InodeGateway.Path

/-!
# Paths as they are spelled

The same questions about paths asked of texts, for callers that hold no `Path`.

## Main definitions

* `Spelling.normalize` — the written form of the path that a text spells
* `Spelling.parent`, `Spelling.name`, `Spelling.join` — parent, last name and child of a spelling
* `Spelling.isWithin` — the ancestor test on written forms
-/

namespace InodeGateway.Spelling

def normalize (text : String) : Except Refusal String := do
  return (← Path.ofText text).toText

/-- The written form of the parent; the root has none. -/
def parent (text : String) : Except Refusal (Option String) := do
  return (← Path.ofText text).parent?.map Path.toText

/-- The last name, empty for the root. -/
def name (text : String) : Except Refusal String := do
  return (← Path.ofText text).lastName

/-- The written form of the child under a name.  The name is looked at before the parent. -/
def join (parent name : String) : Except Refusal String := do
  let name ← Name.ofText name
  return ((← Path.ofText parent).child name).toText

/-- Whether `target` is `root` or begins with it and a separator.  Neither is normalized. -/
def isWithin (root target : String) : Bool :=
  root == "/" || target == root || (root.toList ++ ['/']).isPrefixOf target.toList

end InodeGateway.Spelling
