import InodeGateway.Proofs.Arguments
import InodeGateway.Proofs.Path.WrittenForm

/-!
# Texts that spell paths

A text spells a path if it begins with a separator, holds no NUL character and nowhere refers to the
directory above.

## Main statements

* `Path.ofText_eq_ok_iff` — which texts spell paths
* `Path.ofText_of_above` — a text that refers to the directory above is refused for that
-/

namespace InodeGateway

/-- The pieces of a text hold its characters, but for the separator. -/
theorem mem_of_mem_splitOn {sep c : Char} {cs piece : List Char} (h : piece ∈ cs.splitOn sep)
    (hc : c ∈ piece) : c ∈ cs ∧ c ≠ sep := by
  induction cs generalizing piece with
  | nil =>
    rw [List.splitOn_nil, List.mem_singleton] at h
    subst h
    cases hc
  | cons d cs ih =>
    rw [List.splitOn_cons_eq_if_modifyHead] at h
    split at h
    · rcases List.mem_cons.mp h with rfl | h
      · cases hc
      · exact ⟨List.mem_cons_of_mem _ (ih h hc).1, (ih h hc).2⟩
    · next hd =>
      -- The character went to the front of the first piece.
      cases hpieces : cs.splitOn sep with
      | nil => exact absurd hpieces (List.splitOn_ne_nil _ _)
      | cons first rest =>
        rw [hpieces] at h ih
        rw [List.modifyHead_cons] at h
        rcases List.mem_cons.mp h with rfl | h
        · rcases List.mem_cons.mp hc with rfl | hc
          · exact ⟨List.mem_cons_self, by simpa using hd⟩
          · have inside := ih List.mem_cons_self hc
            exact ⟨List.mem_cons_of_mem _ inside.1, inside.2⟩
        · have inside := ih (List.mem_cons_of_mem _ h) hc
          exact ⟨List.mem_cons_of_mem _ inside.1, inside.2⟩

namespace Path

/-- A component that means something is a name unless it refers to the directory above. -/
theorem ofChars?_segment {cs segment : List Char} (nul : '\x00' ∉ cs) (h : segment ∈ segments cs) :
    Name.ofChars? segment = none ↔ segment = ['.', '.'] := by
  obtain ⟨hmem, hmeans⟩ := List.mem_filter.mp h
  obtain ⟨hempty, hdot⟩ : segment ≠ [] ∧ segment ≠ ['.'] := by simpa using hmeans
  have sep : '/' ∉ segment := fun hc => (mem_of_mem_splitOn hmem hc).2 rfl
  have nul' : '\x00' ∉ segment := fun hc => nul (mem_of_mem_splitOn hmem hc).1
  have acceptable : Name.IsAcceptable (String.ofList segment) ↔ segment ≠ ['.', '.'] := by
    have same : ∀ text : String, String.ofList segment = text ↔ segment = text.toList := by
      intro text
      rw [← String.toList_inj, String.toList_ofList]
    simp [Name.IsAcceptable, same, hempty, hdot, sep, nul']
  rw [← Name.ofText_eq_ok_iff] at acceptable
  unfold Name.ofChars?
  cases hname : Name.ofText (String.ofList segment) with
  | error r =>
    simp only [hname, reduceCtorEq, exists_false, false_iff, Classical.not_not] at acceptable
    simp [Except.toOption, acceptable]
  | ok n =>
    simp only [hname, Except.ok.injEq, exists_eq', true_iff] at acceptable
    simp [Except.toOption, acceptable]

theorem mapM_ofChars?_eq_none_iff {pieces : List (List Char)} :
    pieces.mapM Name.ofChars? = none ↔ ∃ piece ∈ pieces, Name.ofChars? piece = none := by
  induction pieces with
  | nil => simp
  | cons piece pieces ih =>
    cases hpiece : Name.ofChars? piece with
    | none => simp [hpiece]
    | some n =>
      cases hrest : pieces.mapM Name.ofChars? <;> simp_all

/-- A text refers to the directory above if one of its components says so. -/
def NamesAbove (text : String) : Prop := ['.', '.'] ∈ text.toList.splitOn '/'

instance (text : String) : Decidable (NamesAbove text) := by
  unfold NamesAbove
  infer_instance

theorem mapM_segments_eq_none_iff {text : String} (nul : '\x00' ∉ text.toList) :
    (segments text.toList).mapM Name.ofChars? = none ↔ NamesAbove text := by
  rw [mapM_ofChars?_eq_none_iff]
  constructor
  · rintro ⟨segment, h, hnone⟩
    obtain rfl := (ofChars?_segment nul h).mp hnone
    exact (List.mem_filter.mp h).1
  · intro h
    have means : ['.', '.'] ∈ segments text.toList := List.mem_filter.mpr ⟨h, by decide⟩
    exact ⟨['.', '.'], means, (ofChars?_segment nul means).mpr rfl⟩

/-- A text that refers to the directory above, and has no other fault, is refused for that. -/
theorem ofText_of_above {text : String} (begins : text.toList.head? = some '/')
    (nul : '\x00' ∉ text.toList) (above : NamesAbove text) :
    ofText text = .error (.parentReference text) := by
  have nonempty : text.toList ≠ [] := by
    intro h
    simp [h] at begins
  simp only [ofText, nonempty, begins, nul, (mapM_segments_eq_none_iff nul).mpr above, if_false,
    ne_eq, not_true_eq_false]

/-- A text spells a path if it begins with a separator, holds no NUL character and nowhere refers to
the directory above. -/
theorem ofText_eq_ok_iff {text : String} :
    (∃ p, ofText text = .ok p) ↔
      text.toList.head? = some '/' ∧ '\x00' ∉ text.toList ∧ ¬ NamesAbove text := by
  constructor
  · rintro ⟨p, hp⟩
    obtain ⟨begins, nul, hnames⟩ := ofText_eq_ok.mp hp
    refine ⟨begins, nul, fun above => ?_⟩
    rw [← mapM_ofChars?_eq_some_iff, (mapM_segments_eq_none_iff nul).mpr above] at hnames
    cases hnames
  · rintro ⟨begins, nul, plain⟩
    cases hnames : (segments text.toList).mapM Name.ofChars? with
    | none => exact absurd ((mapM_segments_eq_none_iff nul).mp hnames) plain
    | some names =>
      exact ⟨⟨names⟩, ofText_eq_ok.mpr ⟨begins, nul, mapM_ofChars?_eq_some_iff.mp hnames⟩⟩

end Path

end InodeGateway
