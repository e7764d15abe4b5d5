/-!
# Finding a part of a text

Owners are written `name#zone` and identity entries `owner=id`; in both the last separator counts,
so that the left part may hold the separator itself.

## Main definitions

* `Text.cutLast` — the parts before and after the last separator
* `Text.occurs` — whether a text holds another one
-/

namespace InodeGateway.Text

/-- The parts before and after the last `sep`, if there is one. -/
def cutLast (sep : Char) : List Char → Option (List Char × List Char)
  | [] => none
  | c :: cs =>
    match cutLast sep cs with
    | some (left, right) => some (c :: left, right)
    | none => if c = sep then some ([], cs) else none

/-- No cut means that the separator does not occur. -/
theorem cutLast_eq_none_iff {sep : Char} {cs : List Char} :
    cutLast sep cs = none ↔ sep ∉ cs := by
  induction cs with
  | nil => simp [cutLast]
  | cons c cs ih =>
    cases h : cutLast sep cs with
    | none =>
      have hs : sep ∉ cs := ih.mp h
      by_cases hc : c = sep
      · simp [cutLast, h, hc]
      · simp [cutLast, h, hc, hs, Ne.symm hc]
    | some lr =>
      have hs : sep ∈ cs := by
        rcases Classical.em (sep ∈ cs) with hm | hm
        · exact hm
        · simp [ih.mpr hm] at h
      simp [cutLast, h, hs]

/-- The parts of a cut and the separator between them are the text, and the right part is free of
the separator. -/
theorem eq_of_cutLast {sep : Char} {cs left right : List Char}
    (h : cutLast sep cs = some (left, right)) : cs = left ++ sep :: right ∧ sep ∉ right := by
  induction cs generalizing left right with
  | nil => simp [cutLast] at h
  | cons c cs ih =>
    cases hr : cutLast sep cs with
    | none =>
      by_cases hc : c = sep
      · simp [cutLast, hr, hc] at h
        obtain ⟨rfl, rfl⟩ := h
        exact ⟨by simp [hc], cutLast_eq_none_iff.mp hr⟩
      · simp [cutLast, hr, hc] at h
    | some lr =>
      obtain ⟨l, r⟩ := lr
      simp [cutLast, hr] at h
      obtain ⟨rfl, rfl⟩ := h
      obtain ⟨he, hn⟩ := ih hr
      exact ⟨by simp [← he], hn⟩

/-- If no separator follows it, a separator is the last one. -/
theorem cutLast_append {sep : Char} {left right : List Char} (h : sep ∉ right) :
    cutLast sep (left ++ sep :: right) = some (left, right) := by
  induction left with
  | nil => simp [cutLast, cutLast_eq_none_iff.mpr h]
  | cons c left ih => simp [cutLast, ih]

/-- Whether a piece occurs somewhere in a list, in one run. -/
def occurs {α : Type} [DecidableEq α] (piece : List α) : List α → Bool
  | [] => piece.isEmpty
  | a :: rest => piece.isPrefixOf (a :: rest) || occurs piece rest

end InodeGateway.Text
