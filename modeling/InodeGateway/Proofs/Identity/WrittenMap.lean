import InodeGateway.Identity
import InodeGateway.Proofs.Json
import InodeGateway.Proofs.Path.Acceptance
import InodeGateway.Proofs.Text.Margins
import Mathlib.Data.List.Basic

/-!
# Written identity maps

A written identity map is divided at its commas, and blanks around a piece do not count.  A piece of
which something is left is a pair: its last equals sign stands between the owner and the identity,
neither of them empty.  The first piece that is no pair is reported; otherwise the last pair of an
owner counts.  Whatever map can be written so is read back, however it is laid out.

## Main definitions

* `Identity.pieces` — the pieces of a written map that count
* `Identity.Broken`, `Identity.PairOf` — the pieces that are no pair, and the pair that one is
* `Identity.LastPair` — the value of a key, by the pieces
* `Identity.Fits` — the maps that can be written
* `Identity.Writes` — the texts that write a map

## Main statements

* `Identity.readMap_cases` — the pairs of all pieces, or the first piece that is none
* `Identity.readMap_of_writes` — a map that is written is read back
* `Identity.readMap_exact` — which texts are read, what is read from them, and which texts write a
  map
-/

namespace InodeGateway.Identity

open OrderedMap (ofList find)

variable {text k v k' v' : String} {piece : List Char} {ps : List (List Char)}
  {pairs : List (String × String)} {m : OrderedMap String String}

section Pair

/-- A piece that is no pair: no equals sign stands behind its first character, or one at its end. -/
def Broken (piece : List Char) : Prop := '=' ∉ piece.tail ∨ piece.getLast? = some '='

/-- The pair of a piece: the last equals sign divides it, and both sides are trimmed. -/
def PairOf (piece : List Char) (k v : String) : Prop :=
  ∃ left right, piece = left ++ '=' :: right ∧ '=' ∉ right ∧
    k.toList = Text.trimList left ∧ v.toList = Text.trimList right

instance (piece : List Char) : Decidable (Broken piece) :=
  inferInstanceAs (Decidable (_ ∨ _))

theorem broken_divided {left right : List Char} (last : '=' ∉ right) :
    Broken (left ++ '=' :: right) ↔ left = [] ∨ right = [] := by
  have ending : (left ++ '=' :: right).getLast? = some '=' ↔ right = [] := by
    rw [List.getLast?_append_cons]
    cases right with
    | nil => simp
    | cons d right =>
      rw [List.getLast?_cons_cons]
      exact ⟨fun h => absurd (List.mem_of_getLast? h) last, nofun⟩
  have behind : '=' ∉ (left ++ '=' :: right).tail ↔ left = [] := by
    cases left with
    | nil => simp [last]
    | cons c left => simp
  rw [Broken, behind, ending]

theorem readEntry?_divided {left right : List Char} (last : '=' ∉ right) :
    readEntry? (left ++ '=' :: right) =
      if left = [] ∨ right = [] then none
      else some (String.ofList (Text.trimList left), String.ofList (Text.trimList right)) := by
  rw [ readEntry?, Text.cutLast_append last]

/-- A piece without an equals sign, or one that its last equals sign divides. -/
theorem divided_cases (piece : List Char) :
    '=' ∉ piece ∨ ∃ left right, piece = left ++ '=' :: right ∧ '=' ∉ right := by
  cases hcut : Text.cutLast '=' piece with
  | none => exact .inl (Text.cutLast_eq_none_iff.mp hcut)
  | some parts => exact .inr ⟨parts.1, parts.2, Text.eq_of_cutLast hcut⟩

theorem readEntry?_eq_none_iff : readEntry? piece = none ↔ Broken piece := by
  rcases divided_cases piece with none | ⟨left, right, rfl, last⟩
  · have broken : Broken piece := .inl fun h => none (List.mem_of_mem_tail h)
    simp [ readEntry?, Text.cutLast_eq_none_iff.mpr none, broken]
  · rw [readEntry?_divided last, broken_divided last, ite_eq_left_iff]
    simp only [reduceCtorEq, imp_false, not_not]

theorem PairOf.unique (h : PairOf piece k v) (h' : PairOf piece k' v') : k = k' ∧ v = v' := by
  obtain ⟨left, right, rfl, last, hk, hv⟩ := h
  obtain ⟨left', right', same, last', hk', hv'⟩ := h'
  have cut : Text.cutLast '=' (left ++ '=' :: right) = _ := Text.cutLast_append last
  rw [same, Text.cutLast_append last'] at cut
  cases cut
  exact ⟨String.toList_injective (hk.trans hk'.symm), String.toList_injective (hv.trans hv'.symm)⟩

theorem readEntry?_eq_some_iff :
    readEntry? piece = some (k, v) ↔ ¬ Broken piece ∧ PairOf piece k v := by
  rcases divided_cases piece with none | ⟨left, right, rfl, last⟩
  · have nothing := readEntry?_eq_none_iff.mpr
      (.inl fun h => none (List.mem_of_mem_tail h) : Broken piece)
    simp [nothing, readEntry?_eq_none_iff.mp nothing]
  · rw [readEntry?_divided last, broken_divided last]
    split
    · next empty => simp [empty]
    · next full =>
      have own : PairOf (left ++ '=' :: right) (String.ofList (Text.trimList left))
          (String.ofList (Text.trimList right)) := ⟨left, right, rfl, last, by simp, by simp⟩
      simp only [Option.some.injEq, Prod.mk.injEq, full, not_false_eq_true, true_and]
      constructor
      · rintro ⟨rfl, rfl⟩
        exact own
      · exact own.unique

end Pair

section Plain

/-- A text that can stand on one side of a pair. -/
structure Plain (t : String) : Prop where
  nonempty : t ≠ ""
  trimmed : Text.trim t = t
  undivided : ',' ∉ t.toList

/-- Of the two parts of a trimmed text neither is blank, unless it is empty. -/
theorem trimList_parts_ne_nil {left right : List Char} {c : Char}
    (trimmed : Text.trimList (left ++ c :: right) = left ++ c :: right) :
    (left ≠ [] → Text.trimList left ≠ []) ∧ (right ≠ [] → Text.trimList right ≠ []) := by
  constructor
  · intro hleft blank
    rw [Text.trimList_append_left (Text.trimList_eq_nil_iff.mp blank)] at trimmed
    have shorter := (Text.trimList_sublist (c :: right)).length_le
    rw [trimmed, List.length_append] at shorter
    exact hleft (List.length_eq_zero_iff.mp (by omega))
  · intro hright blank
    have parted : left ++ c :: right = (left ++ [c]) ++ right := by simp
    rw [parted, Text.trimList_append_right _ (Text.trimList_eq_nil_iff.mp blank)] at trimmed
    have shorter := (Text.trimList_sublist (left ++ [c])).length_le
    rw [trimmed, List.length_append] at shorter
    exact hright (List.length_eq_zero_iff.mp (by omega))

theorem plain_of_toList {t : String} {cs : List Char} (ht : t.toList = Text.trimList cs)
    (hne : Text.trimList cs ≠ []) (undivided : ',' ∉ cs) : Plain t where
  nonempty := by
    rintro rfl
    exact hne ht.symm
  trimmed := String.toList_injective (by rw [Text.toList_trim, ht, Text.trimList_trimList])
  undivided := fun h => undivided ((Text.trimList_sublist cs).subset (ht ▸ h))

theorem PairOf.plain (h : PairOf piece k v) (whole : ¬ Broken piece)
    (trimmed : Text.trimList piece = piece) (undivided : ',' ∉ piece) :
    Plain k ∧ Plain v ∧ '=' ∉ v.toList := by
  obtain ⟨left, right, rfl, last, hk, hv⟩ := h
  rw [broken_divided last, not_or] at whole
  have parts := trimList_parts_ne_nil trimmed
  refine ⟨plain_of_toList hk (parts.1 whole.1) fun h => undivided (by simp [h]),
    plain_of_toList hv (parts.2 whole.2) fun h => undivided (by simp [h]), fun h => last ?_⟩
  exact (Text.trimList_sublist right).subset (hv ▸ h)

end Plain

section Pieces

/-- The pieces of a written map that count: what stands between the commas, trimmed, unless nothing
is left of it. -/
def pieces (text : String) : List (List Char) :=
  ((text.toList.splitOn ',').map Text.trimList).filter fun piece => piece ≠ []

theorem mem_pieces (h : piece ∈ pieces text) : Text.trimList piece = piece ∧ ',' ∉ piece := by
  obtain ⟨raw, hraw, rfl⟩ := List.mem_map.mp (List.mem_filter.mp h).1
  refine ⟨Text.trimList_trimList raw, fun hc => ?_⟩
  exact (mem_of_mem_splitOn hraw ((Text.trimList_sublist raw).subset hc)).2 rfl

/-- The first of the pieces that is no pair. -/
def FirstBroken (ps : List (List Char)) (piece : List Char) : Prop :=
  ∃ before after, ps = before ++ piece :: after ∧ Broken piece ∧
    ∀ earlier ∈ before, ¬ Broken earlier

/-- The last of the pieces with the key `k` has the value `v`. -/
def LastPair (ps : List (List Char)) (k v : String) : Prop :=
  ∃ before piece after, ps = before ++ piece :: after ∧ PairOf piece k v ∧
    ∀ later ∈ after, ∀ v', ¬ PairOf later k v'

/-- The pairs of all pieces are added, or the first piece that is no pair is reported. -/
theorem readPieces_cases (m : OrderedMap String String) (ps : List (List Char)) :
    (∃ pairs : List (String × String),
      (ps.filter fun piece => piece ≠ []).map readEntry? = pairs.map some ∧
      readPieces m ps = .ok ((pairs.filter fun e => e.1 ≠ lostName).foldl
        (fun m e => m.insert e.1 e.2) m)) ∨
    ∃ piece, FirstBroken (ps.filter fun piece => piece ≠ []) piece ∧
      readPieces m ps = .error (invalidEntry piece) := by
  induction ps generalizing m with
  | nil => exact .inl ⟨[], rfl, rfl⟩
  | cons piece ps ih =>
    by_cases blank : piece = []
    · simpa [readPieces, blank] using ih m
    · rw [List.filter_cons_of_pos (by simpa using blank), readPieces, if_neg blank]
      cases hread : readEntry? piece with
      | none => exact .inr ⟨piece, ⟨[], _, rfl, readEntry?_eq_none_iff.mp hread, by simp⟩, rfl⟩
      | some e =>
        obtain ⟨name, id⟩ := e
        rcases ih (if name = lostName then m else m.insert name id) with
          ⟨pairs, hpairs, told⟩ | ⟨broken, ⟨before, after, hps, hbroken, sound⟩, told⟩
        · refine .inl ⟨(name, id) :: pairs, by rw [List.map_cons, hread, hpairs, List.map_cons],
            told.trans ?_⟩
          by_cases lost : name = lostName <;> simp [lost]
        · have sound' : ¬ Broken piece := fun h => by
            rw [readEntry?_eq_none_iff.mpr h] at hread
            cases hread
          exact .inr ⟨broken, ⟨piece :: before, after, by rw [hps, List.cons_append], hbroken,
            List.forall_mem_cons.mpr ⟨sound', sound⟩⟩, told⟩

/-- What is read: the pairs of all pieces written one after another, or the failure for the first
piece that is no pair. -/
theorem readMap_cases (text : String) :
    (∃ pairs : List (String × String), (pieces text).map readEntry? = pairs.map some ∧
      readMap text = .ok (ofList (pairs.filter fun e => e.1 ≠ lostName))) ∨
    ∃ piece, FirstBroken (pieces text) piece ∧ readMap text = .error (invalidEntry piece) :=
  readPieces_cases {} _

theorem FirstBroken.exists_broken (h : FirstBroken ps piece) : ∃ piece ∈ ps, Broken piece := by
  obtain ⟨before, after, rfl, broken, -⟩ := h
  exact ⟨piece, by simp, broken⟩

/-- Where every piece is a pair, none is broken. -/
theorem not_broken_of_pairs (hpairs : ps.map readEntry? = pairs.map some) (h : piece ∈ ps) :
    ¬ Broken piece := by
  intro broken
  have hmem : readEntry? piece ∈ pairs.map some := hpairs ▸ List.mem_map_of_mem h
  rw [readEntry?_eq_none_iff.mpr broken] at hmem
  simp at hmem

/-- A written map is not read exactly if one of its pieces is no pair. -/
theorem readMap_fails_iff :
    (∃ f, readMap text = .error f) ↔ ∃ piece ∈ pieces text, Broken piece := by
  rcases readMap_cases text with ⟨pairs, hpairs, told⟩ | ⟨piece, first, told⟩
  · rw [told]
    constructor
    · rintro ⟨f, ⟨⟩⟩
    · rintro ⟨piece, hmem, broken⟩
      exact absurd broken (not_broken_of_pairs hpairs hmem)
  · exact ⟨fun _ => first.exists_broken, fun _ => ⟨_, told⟩⟩

/-- The pairs of all pieces, if a written map is read. -/
theorem pairs_of_readMap (h : readMap text = .ok m) :
    ∃ pairs : List (String × String), (pieces text).map readEntry? = pairs.map some ∧
      m = ofList (pairs.filter fun e => e.1 ≠ lostName) := by
  rcases readMap_cases text with ⟨pairs, hpairs, told⟩ | ⟨piece, -, told⟩
  · exact ⟨pairs, hpairs, Except.ok.inj (h.symm.trans told)⟩
  · exact absurd (h.symm.trans told) nofun

/-- The value that is found last among the pairs is the one of the last piece with its key. -/
theorem find_reverse_iff (hpairs : ps.map readEntry? = pairs.map some) :
    find k pairs.reverse = some v ↔ LastPair ps k v := by
  rw [OrderedMap.find_eq_some_iff]
  constructor
  · rintro ⟨after, before, hsplit, fresh⟩
    have hpairs' : ps.map readEntry? =
        before.reverse.map some ++ some (k, v) :: after.reverse.map some := by
      rw [hpairs, ← List.reverse_reverse pairs, hsplit]
      simp
    obtain ⟨ps₁, ps₂, rfl, -, h₂⟩ := List.map_eq_append_iff.mp hpairs'
    obtain ⟨piece, ps₂, rfl, hread, hafter⟩ := List.map_eq_cons_iff.mp h₂
    refine ⟨ps₁, piece, ps₂, rfl, (readEntry?_eq_some_iff.mp hread).2,
      fun later hlater v' own => ?_⟩
    have hmem : readEntry? later ∈ after.reverse.map some := hafter ▸ List.mem_map_of_mem hlater
    obtain ⟨e, he, hlater⟩ := List.mem_map.mp hmem
    obtain ⟨rfl, -⟩ := own.unique (readEntry?_eq_some_iff.mp hlater.symm).2
    exact fresh (List.mem_map_of_mem (List.mem_reverse.mp he))
  · rintro ⟨before, piece, after, rfl, own, none⟩
    have hread : readEntry? piece = some (k, v) :=
      readEntry?_eq_some_iff.mpr ⟨not_broken_of_pairs hpairs (by simp), own⟩
    rw [List.map_append, List.map_cons, hread, eq_comm] at hpairs
    obtain ⟨pairs₁, pairs₂, rfl, -, h₂⟩ := List.map_eq_append_iff.mp hpairs
    obtain ⟨_, pairs₂, rfl, ⟨⟩, hafter⟩ := List.map_eq_cons_iff.mp h₂
    refine ⟨pairs₂.reverse, pairs₁.reverse, by simp, fun hmem => ?_⟩
    obtain ⟨e, he, rfl⟩ := List.mem_map.mp hmem
    have hsome : some e ∈ after.map readEntry? :=
      hafter ▸ List.mem_map_of_mem (List.mem_reverse.mp he)
    obtain ⟨later, hlater, hread⟩ := List.mem_map.mp hsome
    exact none later hlater e.2 (readEntry?_eq_some_iff.mp hread).2

theorem get?_of_readMap (h : readMap text = .ok m) :
    (∀ k, k ≠ lostName → ∀ v, m.get? k = some v ↔ LastPair (pieces text) k v) ∧
      m.get? lostName = none := by
  obtain ⟨pairs, hpairs, rfl⟩ := pairs_of_readMap h
  have kept : ∀ k, (ofList (pairs.filter fun e => e.1 ≠ lostName)).get? k =
      if lostName = k then none else find k pairs.reverse := by
    intro k
    rw [OrderedMap.get?_ofList, ← List.filter_reverse, OrderedMap.find_filter_ne]
  refine ⟨fun k hk v => ?_, by rw [kept, if_pos rfl]⟩
  rw [kept, if_neg hk.symm, find_reverse_iff hpairs]

/-- Every pair that was read is the pair of a piece. -/
theorem pairOf_of_readMap (h : readMap text = .ok m) {e : String × String} (he : e ∈ m.entries) :
    e.1 ≠ lostName ∧ ∃ piece ∈ pieces text, ¬ Broken piece ∧ PairOf piece e.1 e.2 := by
  obtain ⟨k, v⟩ := e
  have found : m.get? k = some v := by
    refine OrderedMap.get?_of_mem ?_ he
    obtain ⟨pairs, -, rfl⟩ := pairs_of_readMap h
    exact OrderedMap.nodup_keys_ofList _
  have hk : k ≠ lostName := by
    rintro rfl
    rw [(get?_of_readMap h).2] at found
    cases found
  obtain ⟨before, piece, after, hps, own, -⟩ := ((get?_of_readMap h).1 k hk v).mp found
  have hmem : piece ∈ pieces text := by simp [hps]
  obtain ⟨pairs, hpairs, -⟩ := pairs_of_readMap h
  exact ⟨hk, piece, hmem, not_broken_of_pairs hpairs hmem, own⟩

/-- What is read consists of trimmed texts without commas, the identities without equals signs. -/
theorem plain_of_readMap (h : readMap text = .ok m) {e : String × String} (he : e ∈ m.entries) :
    Plain e.1 ∧ Plain e.2 ∧ '=' ∉ e.2.toList := by
  obtain ⟨-, piece, hmem, whole, own⟩ := pairOf_of_readMap h he
  exact own.plain whole (mem_pieces hmem).1 (mem_pieces hmem).2

end Pieces

section Writing

/-- The maps that can be written. -/
structure Fits (m : OrderedMap String String) : Prop where
  keys : m.keys.Nodup
  owner : ∀ e ∈ m.entries, Plain e.1 ∧ e.1 ≠ lostName
  identity : ∀ e ∈ m.entries, Plain e.2 ∧ '=' ∉ e.2.toList

/-- Pieces that write pairs, one for each: blanks may stand around both of its texts.  Pieces of
nothing but blanks may stand in between. -/
inductive Layout : List (String × String) → List (List Char) → Prop
  | nil : Layout [] []
  | gap {pairs : List (String × String)} {raws : List (List Char)} {b : List Char}
      (blank : Text.AllBlank b) (rest : Layout pairs raws) : Layout pairs (b :: raws)
  | pair {pairs : List (String × String)} {raws : List (List Char)} {a b c d : List Char}
      (ha : Text.AllBlank a) (hb : Text.AllBlank b) (hc : Text.AllBlank c) (hd : Text.AllBlank d)
      (k v : String) (rest : Layout pairs raws) :
      Layout ((k, v) :: pairs) ((a ++ k.toList ++ b ++ '=' :: (c ++ v.toList ++ d)) :: raws)

/-- A text writes a map: its pairs in any order, laid out in pieces with commas in between. -/
def Writes (text : String) (m : OrderedMap String String) : Prop :=
  ∃ pairs raws, pairs.Perm m.entries ∧ Layout pairs raws ∧ text.toList = [','].intercalate raws

/-- Reading finds the two texts of a pair, whatever blanks stand around them. -/
theorem readEntry?_laidOut {a b c d : List Char} (ha : Text.AllBlank a) (hb : Text.AllBlank b)
    (hc : Text.AllBlank c) (hd : Text.AllBlank d) (hk : Plain k) (hv : Plain v)
    (last : '=' ∉ v.toList) :
    readEntry? (Text.trimList (a ++ k.toList ++ b ++ '=' :: (c ++ v.toList ++ d))) =
      some (k, v) := by
  have firm : Text.isBlank '=' = false := by decide
  obtain ⟨left, right, divided, hleft, hright, hsub⟩ :=
    Text.trimList_divided firm (a ++ k.toList ++ b) (c ++ v.toList ++ d)
  have free : '=' ∉ right := by
    intro h
    rcases List.mem_append.mp (hsub h) with h | h
    · rcases List.mem_append.mp h with h | h
      · exact hc.not_mem firm h
      · exact last h
    · exact hd.not_mem firm h
  rw [Text.trimList_margins ha hb, ← Text.toList_trim, hk.trimmed] at hleft
  rw [Text.trimList_margins hc hd, ← Text.toList_trim, hv.trimmed] at hright
  have full : ¬ (left = [] ∨ right = []) := by
    rintro (rfl | rfl)
    · exact hk.nonempty (String.toList_injective hleft.symm)
    · exact hv.nonempty (String.toList_injective hright.symm)
  rw [divided, readEntry?_divided free, if_neg full, hleft, hright, String.ofList_toList,
    String.ofList_toList]

theorem Layout.pairs_read {raws : List (List Char)} (h : Layout pairs raws)
    (plain : ∀ e ∈ pairs, Plain e.1 ∧ Plain e.2 ∧ '=' ∉ e.2.toList) :
    ((raws.map Text.trimList).filter fun piece => piece ≠ []).map readEntry? = pairs.map some := by
  induction h with
  | nil => rfl
  | gap blank rest ih =>
    rw [List.map_cons, Text.trimList_eq_nil_iff.mpr blank, List.filter_cons_of_neg (by simp)]
    exact ih plain
  | pair ha hb hc hd k v rest ih =>
    obtain ⟨⟨hk, hv, last⟩, others⟩ := List.forall_mem_cons.mp plain
    have read := readEntry?_laidOut ha hb hc hd hk hv last
    have full : Text.trimList _ ≠ [] := fun h => by
      rw [h] at read
      cases read
    rw [List.map_cons, List.filter_cons_of_pos (by simpa using full), List.map_cons, read,
      ih others, List.map_cons]

theorem Layout.undivided {raws : List (List Char)} (h : Layout pairs raws)
    (plain : ∀ e ∈ pairs, ',' ∉ e.1.toList ∧ ',' ∉ e.2.toList) : ∀ raw ∈ raws, ',' ∉ raw := by
  have firm : Text.isBlank ',' = false := by decide
  induction h with
  | nil => simp
  | gap blank rest ih => exact List.forall_mem_cons.mpr ⟨blank.not_mem firm, ih plain⟩
  | pair ha hb hc hd k v rest ih =>
    obtain ⟨⟨hk, hv⟩, others⟩ := List.forall_mem_cons.mp plain
    refine List.forall_mem_cons.mpr ⟨?_, ih others⟩
    simp [ha.not_mem firm, hb.not_mem firm, hc.not_mem firm, hd.not_mem firm, hk, hv]

/-- The pairs of a text that writes a map, in the order in which they stand in it. -/
theorem readMap_of_layout {raws : List (List Char)} (h : Layout pairs raws)
    (fits : Fits ⟨pairs⟩) (htext : text.toList = [','].intercalate raws) :
    readMap text = .ok ⟨pairs⟩ := by
  have plain : ∀ e ∈ pairs, Plain e.1 ∧ Plain e.2 ∧ '=' ∉ e.2.toList :=
    fun e he => ⟨(fits.owner e he).1, fits.identity e he⟩
  have undivided := h.undivided fun e he => ⟨(plain e he).1.undivided, (plain e he).2.1.undivided⟩
  have hpieces : pieces text = (raws.map Text.trimList).filter fun piece => piece ≠ [] := by
    rw [pieces, htext]
    cases raws with
    | nil => rfl
    | cons raw raws => rw [List.splitOn_intercalate ',' undivided (List.cons_ne_nil _ _)]
  have hpairs : (pieces text).map readEntry? = pairs.map some := by rw [hpieces, h.pairs_read plain]
  rcases readMap_cases text with ⟨pairs', hpairs', told⟩ | ⟨piece, first, -⟩
  · obtain rfl : pairs' = pairs :=
      (List.map_inj_right fun _ _ => Option.some.inj).mp (hpairs'.symm.trans hpairs)
    have kept : pairs'.filter (fun e => e.1 ≠ lostName) = pairs' :=
      List.filter_eq_self.mpr fun e he => by simpa using (fits.owner e he).2
    rw [told, kept]
    exact congrArg Except.ok (congrArg OrderedMap.mk (OrderedMap.entries_ofList fits.keys))
  · obtain ⟨piece, hmem, broken⟩ := first.exists_broken
    exact absurd broken (not_broken_of_pairs hpairs hmem)

/-- A map that fits is read back from every text that writes it. -/
theorem readMap_of_writes (fits : Fits m) (h : Writes text m) :
    ∃ m', readMap text = .ok m' ∧ ∀ k, m'.get? k = m.get? k := by
  obtain ⟨pairs, raws, perm, layout, htext⟩ := h
  have fits' : Fits ⟨pairs⟩ :=
    { keys := (perm.map Prod.fst).nodup_iff.mpr fits.keys
      owner := fun e he => fits.owner e (perm.subset he)
      identity := fun e he => fits.identity e (perm.subset he) }
  exact ⟨_, readMap_of_layout layout fits' htext, fun k => OrderedMap.find_of_perm perm fits.keys⟩

theorem fits_of_readMap (h : readMap text = .ok m) : Fits m where
  keys := by
    obtain ⟨pairs, -, rfl⟩ := pairs_of_readMap h
    exact OrderedMap.nodup_keys_ofList _
  owner := fun _ he => ⟨(plain_of_readMap h he).1, (pairOf_of_readMap h he).1⟩
  identity := fun _ he => (plain_of_readMap h he).2

end Writing

/-- What a written map is.  It is not read exactly if one of its pieces has no equals sign behind
its first character or one at its end.  Otherwise a key has the value of the last piece with that
key (but for the lost name), and all keys and values are trimmed texts without commas, the values
without equals signs.  A map of such texts is read back from every text that writes it: its pairs in
any order, with any blanks around keys, values and pieces, and with any blank pieces in between. -/
theorem readMap_exact :
    (∀ text, (∃ f, readMap text = .error f) ↔ ∃ piece ∈ pieces text, Broken piece) ∧
    (∀ text m, readMap text = .ok m →
      (∀ k, k ≠ lostName → ∀ v, m.get? k = some v ↔ LastPair (pieces text) k v) ∧
      m.get? lostName = none ∧
      ∀ e ∈ m.entries, Plain e.1 ∧ Plain e.2 ∧ '=' ∉ e.2.toList) ∧
    ∀ m, Fits m → ∀ text, Writes text m →
      ∃ m', readMap text = .ok m' ∧ ∀ k, m'.get? k = m.get? k := by
  refine ⟨fun text => readMap_fails_iff, fun text m h => ?_, fun m fits text h =>
    readMap_of_writes fits h⟩
  obtain ⟨last, lost⟩ := get?_of_readMap h
  exact ⟨last, lost, fun e he => plain_of_readMap h he⟩

/-- A piece without an identity; an owner that is written twice; a map in another order, with blanks
and with a blank piece. -/
theorem readMap_sheets :
    (∃ f, readMap "rods#grid=1,eve" = .error f) ∧
    (readMap "a=b=7,eve=1,, eve = 2" = .ok ⟨[("a=b", "7"), ("eve", "2")]⟩ ∧
      LastPair (pieces "a=b=7,eve=1,, eve = 2") "eve" "2") ∧
    ∃ m, readMap " eve= 2 ,\t,a=b=7" = .ok m ∧ m.get? "a=b" = some "7" := by
  have read : readMap "a=b=7,eve=1,, eve = 2" = .ok ⟨[("a=b", "7"), ("eve", "2")]⟩ := by
    rfl
  have fits : Fits ⟨[("a=b", "7"), ("eve", "2")]⟩ := fits_of_readMap read
  have writes : Writes " eve= 2 ,\t,a=b=7" ⟨[("a=b", "7"), ("eve", "2")]⟩ := by
    refine ⟨[("eve", "2"), ("a=b", "7")], _, .swap _ _ _,
      .pair (a := [' ']) (b := []) (c := [' ']) (d := [' ']) ?_ ?_ ?_ ?_ "eve" "2"
        (.gap (b := ['\t']) ?_
          (.pair (a := []) (b := []) (c := []) (d := []) ?_ ?_ ?_ ?_ "a=b" "7" .nil)), ?_⟩
    all_goals decide
  refine ⟨(readMap_exact.1 _).mpr ⟨"eve".toList, by decide +kernel, by decide⟩, ⟨read, ?_⟩, ?_⟩
  · exact ((readMap_exact.2.1 _ _ read).1 _ (by decide) _).mp rfl
  · obtain ⟨m, told, same⟩ := readMap_exact.2.2 _ fits _ writes
    exact ⟨m, told, (same _).trans rfl⟩

end InodeGateway.Identity
