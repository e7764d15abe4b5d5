import InodeGateway.Text.Blank
import Mathlib.Data.List.TakeWhile

/-!
# Margins

Trimming takes the blanks off both ends of a text and nothing else: the text is what trimming leaves
with two margins of blanks around it.  What is divided by a character that is no blank is trimmed
part by part.

## Main definitions

* `Text.AllBlank` — a row of blanks

## Main statements

* `Text.exists_margins` — what trimming takes off
* `Text.trimList_margins` — margins do not count
* `Text.trimList_divided` — trimming a text that a firm character divides
-/

namespace InodeGateway.Text

variable {cs before mid after left right : List Char} {c : Char}

/-- A row of blanks. -/
def AllBlank (cs : List Char) : Prop := ∀ c ∈ cs, isBlank c

instance (cs : List Char) : Decidable (AllBlank cs) :=
  List.decidableBAll (fun c => isBlank c) cs

theorem AllBlank.append (h : AllBlank before) (h' : AllBlank after) : AllBlank (before ++ after) :=
  List.forall_mem_append.mpr ⟨h, h'⟩

theorem AllBlank.reverse (h : AllBlank cs) : AllBlank cs.reverse :=
  fun c hc => h c (List.mem_reverse.mp hc)

theorem AllBlank.not_mem (h : AllBlank cs) (firm : isBlank c = false) : c ∉ cs :=
  fun hc => by simp [h c hc] at firm

theorem allBlank_takeWhile (cs : List Char) : AllBlank (cs.takeWhile isBlank) :=
  fun _ hc => List.mem_takeWhile_imp hc

theorem exists_margins (cs : List Char) :
    ∃ before after, AllBlank before ∧ AllBlank after ∧ cs = before ++ trimList cs ++ after := by
  refine ⟨cs.takeWhile isBlank, ((cs.dropWhile isBlank).reverse.takeWhile isBlank).reverse,
    allBlank_takeWhile cs, (allBlank_takeWhile _).reverse, ?_⟩
  rw [trimList, List.append_assoc, ← List.reverse_append, List.takeWhile_append_dropWhile,
    List.reverse_reverse, List.takeWhile_append_dropWhile]

theorem trimList_sublist (cs : List Char) : (trimList cs).Sublist cs := by
  obtain ⟨before, after, -, -, hcs⟩ := exists_margins cs
  exact List.IsInfix.sublist ⟨before, after, hcs.symm⟩

theorem trimList_append_left (blank : AllBlank before) (cs : List Char) :
    trimList (before ++ cs) = trimList cs := by
  rw [trimList, List.dropWhile_append_of_pos blank, trimList]

theorem trimList_append_right (cs : List Char) (blank : AllBlank after) :
    trimList (cs ++ after) = trimList cs := by
  rw [trimList, trimList, List.dropWhile_append]
  split
  · next nothing =>
    rw [List.isEmpty_iff.mp nothing, List.dropWhile_eq_nil_iff.mpr blank]
  · rw [List.reverse_append, List.dropWhile_append_of_pos blank.reverse]

/-- Margins of blanks do not count. -/
theorem trimList_margins (blank : AllBlank before) (blank' : AllBlank after) (mid : List Char) :
    trimList (before ++ mid ++ after) = trimList mid := by
  rw [trimList_append_right _ blank', trimList_append_left blank]

theorem trimList_trimList (cs : List Char) : trimList (trimList cs) = trimList cs := by
  obtain ⟨before, after, blank, blank', hcs⟩ := exists_margins cs
  have whole := trimList_margins blank blank' (trimList cs)
  rwa [← hcs, eq_comm] at whole

theorem trimList_eq_nil_iff : trimList cs = [] ↔ AllBlank cs := by
  constructor
  · intro nothing
    obtain ⟨before, after, blank, blank', hcs⟩ := exists_margins cs
    rw [hcs, nothing, List.append_nil]
    exact blank.append blank'
  · intro blank
    simpa using trimList_append_left blank []

/-- Trimming leaves alone what has no blanks. -/
theorem trimList_of_firm (firm : ∀ c ∈ cs, isBlank c = false) : trimList cs = cs := by
  obtain ⟨before, after, blank, blank', hcs⟩ := exists_margins cs
  have bare : ∀ {margin : List Char}, AllBlank margin → margin ⊆ cs → margin = [] := by
    intro margin hblank hsub
    refine List.eq_nil_iff_forall_not_mem.mpr fun c hc => ?_
    exact hblank.not_mem (firm c (hsub hc)) hc
  have first : before = [] := bare blank fun c hc => by rw [hcs]; simp [hc]
  have last : after = [] := bare blank' fun c hc => by rw [hcs]; simp [hc]
  rw [first, last] at hcs
  simpa using hcs.symm

/-- A firm character ends the blanks in front of it. -/
theorem dropWhile_firm (firm : isBlank c = false) (cs rest : List Char) :
    (cs ++ c :: rest).dropWhile isBlank = cs.dropWhile isBlank ++ c :: rest := by
  rw [List.dropWhile_append]
  split
  · next nothing => simp [List.isEmpty_iff.mp nothing, firm]
  · rfl

/-- Where a firm character divides a text, trimming the whole trims the far ends of the two parts;
trimming what is left of them comes to the same as trimming the parts. -/
theorem trimList_divided (firm : isBlank c = false) (left right : List Char) :
    ∃ left' right', trimList (left ++ c :: right) = left' ++ c :: right' ∧
      trimList left' = trimList left ∧ trimList right' = trimList right ∧ right' ⊆ right := by
  refine ⟨left.dropWhile isBlank, (right.reverse.dropWhile isBlank).reverse, ?_, ?_, ?_, ?_⟩
  · have back := dropWhile_firm firm right.reverse (left.dropWhile isBlank).reverse
    rw [trimList, dropWhile_firm firm, List.reverse_append, List.reverse_cons, List.append_assoc,
      List.singleton_append, back, List.reverse_append, List.reverse_cons, List.reverse_reverse,
      List.append_assoc, List.singleton_append]
  · have front := trimList_append_left (allBlank_takeWhile left) (left.dropWhile isBlank)
    rwa [List.takeWhile_append_dropWhile, eq_comm] at front
  · have back := trimList_append_right (right.reverse.dropWhile isBlank).reverse
      (allBlank_takeWhile right.reverse).reverse
    rwa [← List.reverse_append, List.takeWhile_append_dropWhile, List.reverse_reverse,
      eq_comm] at back
  · intro c hc
    exact List.mem_reverse.mp ((List.dropWhile_sublist _).subset (List.mem_reverse.mp hc))

end InodeGateway.Text
