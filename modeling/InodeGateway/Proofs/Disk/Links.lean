import InodeGateway.Proofs.Disk.Ways

/-!
# Ways through links

A link takes a way to wherever it leads, and the rest of the way goes on from there.  So a way that
has come into a directory stays below it if the links that stand there lead to places below it.

## Main definitions

* `Disk.Way` — the steps of a way, from the place where it begins to the place where it ends
* `Disk.Encloses` — the links below a place lead to places below it

## Main statements

* `Disk.place_eq_ok_iff` — the place that is found is the one that a way leads to
* `Disk.Way.split` — a way is a way to somewhere in between and another one from there
* `Disk.Way.within` — along names, a way does not leave a place that encloses its links
-/

namespace InodeGateway

/-! ### Names as they are kept -/

namespace Text

/-- What was read already stands first. -/
theorem prefix_piecesAfter (read : List Piece) (cs : List Char) :
    read.reverse <+: piecesAfter read cs := by
  fun_induction piecesAfter read cs with
  | case1 read => exact List.prefix_rfl
  | case2 read c => simp
  | case3 read d rest ih => exact List.IsPrefix.trans (by simp) ih
  | case4 read c d rest hc ih => exact List.IsPrefix.trans (by simp) ih

/-- A piece that was just read is the first of those that are left. -/
theorem first_of_piecesAfter {piece : Piece} {read : List Piece} {cs ps : List Char}
    (h : piecesAfter (piece :: read) cs = read.reverse ++ ps.map .char) :
    ∃ c rest, ps = c :: rest ∧ piece = .char c := by
  have begins : [piece] <+: ps.map .char := by
    have := h ▸ prefix_piecesAfter (piece :: read) cs
    rwa [List.reverse_cons, List.prefix_append_right_inj] at this
  cases ps with
  | nil => simp at begins
  | cons c rest => exact ⟨c, rest, rfl, by simpa using begins⟩

/-- If all that is read after the pieces in `read` is characters, and no mark is among them, it was
these characters. -/
theorem eq_of_piecesAfter {read : List Piece} {cs ps : List Char} (hmark : mark ∉ ps)
    (h : piecesAfter read cs = read.reverse ++ ps.map .char) : cs = ps := by
  fun_induction piecesAfter read cs generalizing ps with
  | case1 read => simpa [eq_comm] using h
  | case2 read c =>
    cases ps with
    | nil => simp at h
    | cons p rest => simpa [eq_comm] using h
  | case3 read d rest ih =>
    obtain ⟨c, more, rfl, hpiece⟩ := first_of_piecesAfter h
    unfold Piece.ofMarked at hpiece
    split at hpiece
    · cases hpiece
      simp at hmark
    · cases hpiece
  | case4 read c d rest hc ih =>
    obtain ⟨c', more, rfl, hpiece⟩ := first_of_piecesAfter h
    cases hpiece
    rw [ih (List.not_mem_of_not_mem_cons hmark) (by simpa using h)]

/-- A text whose characters, with halves replaced, are plain ones is made of them. -/
theorem eq_of_toPlain {s t : String} (hmark : mark ∉ t.toList) (hreplaced : replacement ∉ t.toList)
    (h : toPlain s = t) : s = t := by
  have told : (pieces s.toList).map Piece.character = t.toList := by
    rw [← h, toPlain, String.toList_ofList]
  have whole : ∀ piece ∈ pieces s.toList, .char piece.character = piece := by
    intro piece hpiece
    cases piece with
    | char c => rfl
    | half unit =>
      have hmem := List.mem_map_of_mem (f := Piece.character) hpiece
      rw [told] at hmem
      exact absurd hmem hreplaced
  have spelled : pieces s.toList = t.toList.map .char := by
    rw [← told, List.map_map]
    exact (List.map_id' _).symm.trans
      (List.map_congr_left fun piece hpiece => (whole piece hpiece).symm)
  apply String.toList_injective
  exact eq_of_piecesAfter hmark (spelled.trans (List.nil_append _).symm)

end Text

namespace Disk

/-- A component that is the name of an object, and no reference to a directory. -/
def IsName (name : String) : Prop := name ≠ "" ∧ name ≠ "." ∧ name ≠ ".."

/-- What is kept as no name was none. -/
theorem eq_of_wellFormed {name t : String} (ht : t ∈ ["", ".", ".."])
    (h : Text.wellFormed name = t) : name = t := by
  have plain : ∀ t ∈ ["", ".", ".."],
      Text.toPlain t = t ∧ Text.mark ∉ t.toList ∧ Text.replacement ∉ t.toList := by decide
  obtain ⟨same, hmark, hreplaced⟩ := plain t ht
  apply Text.eq_of_toPlain hmark hreplaced
  rw [← same, ← h, Text.wellFormed, Text.toPlain_ofPlain]

theorem IsName.wellFormed {name : String} (h : IsName name) : IsName (Text.wellFormed name) :=
  ⟨fun heq => h.1 (eq_of_wellFormed (by simp) heq),
    fun heq => h.2.1 (eq_of_wellFormed (by simp) heq),
    fun heq => h.2.2 (eq_of_wellFormed (by simp) heq)⟩

/-! ### Ways -/

/-- A name may be looked up in a directory, with these components after it. -/
structure Looks (d : Disk) (goal : Goal) (here : Place) (name : String) (rest : List String) :
    Prop where
  passable : d.Passable here
  isName : IsName name
  size : Text.byteSize name ≤ nameLimit
  file : ¬ (goal = .file ∧ isSlashes rest = true)

/-- The name before these components is that of the new object. -/
abbrev IsSlot (goal : Goal) (rest : List String) : Prop := goal = .slot ∧ rest.all (· = "") = true

/-- The way of components from one place to another, with one rule for each kind of step. -/
inductive Way (d : Disk) (goal : Goal) : Nat → Place → List String → Place → Prop
  | done {budget : Nat} {here : Place} : Way d goal budget here [] here
  | slash {budget : Nat} {here q : Place} {rest : List String}
      (hdir : (d.entry? here).map Entry.content = some .directory)
      (next : Way d goal budget here rest q) : Way d goal budget here ("" :: rest) q
  | stay {budget : Nat} {here q : Place} {rest : List String} (pass : d.Passable here)
      (next : Way d goal budget here rest q) : Way d goal budget here ("." :: rest) q
  | up {budget : Nat} {here q : Place} {rest : List String} (pass : d.Passable here)
      (next : Way d goal budget here.dropLast rest q) : Way d goal budget here (".." :: rest) q
  | slot {budget : Nat} {here : Place} {name : String} {rest : List String}
      (look : d.Looks goal here name rest) (hslot : IsSlot goal rest) :
      Way d goal budget here (name :: rest) (here ++ [name])
  | missing {budget : Nat} {here : Place} {name : String} (look : d.Looks goal here name [])
      (hslot : ¬ IsSlot goal []) (hentry : d.entry? (here ++ [name]) = none) :
      Way d goal budget here [name] (here ++ [name])
  | itself {budget : Nat} {here : Place} {name : String} {e : Entry} {target : String}
      (look : d.Looks goal here name []) (hentry : d.entry? (here ++ [name]) = some e)
      (hlink : e.content = .link target) (hgoal : goal = .itself) :
      Way d goal budget here [name] (here ++ [name])
  | follow {budget : Nat} {here q : Place} {name : String} {rest : List String} {e : Entry}
      {target : String} (look : d.Looks goal here name rest) (hslot : ¬ IsSlot goal rest)
      (hentry : d.entry? (here ++ [name]) = some e) (hlink : e.content = .link target)
      (hgoal : ¬ (rest = [] ∧ goal = .itself))
      (next : Way d goal budget (if isAbsolute target then [] else here)
        (components target ++ rest) q) : Way d goal (budget + 1) here (name :: rest) q
  | enter {budget : Nat} {here q : Place} {name : String} {rest : List String} {e : Entry}
      (look : d.Looks goal here name rest) (hslot : ¬ IsSlot goal rest)
      (hentry : d.entry? (here ++ [name]) = some e) (hlink : ∀ target, e.content ≠ .link target)
      (next : Way d goal budget (here ++ [name]) rest q) : Way d goal budget here (name :: rest) q

variable {d : Disk} {goal : Goal} {budget : Nat} {here q R : Place} {name : String}
  {rest xs ys : List String}

theorem passable_iff : d.Passable here ↔
    (d.entry? here).map Entry.content = some .directory ∧ d.allowsAt .execute here = true := by
  unfold Passable allowsAt
  cases d.entry? here with
  | none => simp
  | some e => simp

/-- A name that may be looked up decides about the next step. -/
theorem Looks.place_eq (look : d.Looks goal here name rest) :
    d.place goal budget here (name :: rest) =
      if goal = .slot ∧ rest.all (· = "") then .ok (here ++ [name])
      else match (d.entry? (here ++ [name])).map Entry.content, budget with
      | none, _ => if rest = [] then .ok (here ++ [name]) else .error .noEntry
      | some (.link _), 0 =>
        if rest = [] ∧ goal = .itself then .ok (here ++ [name]) else .error .tooManyLinks
      | some (.link target), budget + 1 =>
        if rest = [] ∧ goal = .itself then .ok (here ++ [name])
        else d.place goal budget (if isAbsolute target then [] else here)
          (components target ++ rest)
      | some _, budget => d.place goal budget (here ++ [name]) rest := by
  obtain ⟨hdir, hpass⟩ := passable_iff.mp look.passable
  obtain ⟨h₁, h₂, h₃⟩ := look.isName
  rw [place]
  simp only [hdir, h₁, h₂, h₃, hpass, look.file, Nat.not_lt.mpr look.size, ne_eq,
    not_true_eq_false, if_false, Bool.true_eq_false]
  split
  · rfl
  · rcases (d.entry? (here ++ [name])).map Entry.content with _ | _ | _ | target
    · rfl
    · rfl
    · rfl
    · cases budget <;> rfl

theorem Looks.of_checks (hdir : ¬ (d.entry? here).map Entry.content ≠ some .directory)
    (hpass : ¬ d.allowsAt .execute here = false) (hempty : ¬ name = "") (hdot : ¬ name = ".")
    (hup : ¬ name = "..") (hfile : ¬ (goal = .file ∧ isSlashes rest = true))
    (hsize : ¬ nameLimit < Text.byteSize name) : d.Looks goal here name rest where
  passable := passable_iff.mpr ⟨Decidable.not_not.mp hdir, Bool.not_eq_false _ ▸ hpass⟩
  isName := ⟨hempty, hdot, hup⟩
  size := Nat.not_lt.mp hsize
  file := hfile

/-- A place that is found is one that a way leads to. -/
theorem way_of_place (h : d.place goal budget here xs = .ok q) : d.Way goal budget here xs q := by
  fun_induction d.place goal budget here xs with
  | case1 budget here =>
    cases h
    exact .done
  | case3 budget here rest hdir ih => exact .slash (Decidable.not_not.mp hdir) (ih h)
  | case5 budget here rest hdir hpass _ ih =>
    exact .stay (passable_iff.mpr ⟨by simpa using hdir, by simpa using hpass⟩) (ih h)
  | case6 budget here rest hdir hpass _ _ ih =>
    exact .up (passable_iff.mpr ⟨by simpa using hdir, by simpa using hpass⟩) (ih h)
  | case9 budget here name rest hdir hempty hpass hdot hup hfile hsize next hslot =>
    obtain rfl : next = q := Except.ok.inj h
    exact .slot (.of_checks hdir hpass hempty hdot hup hfile hsize) hslot
  | case10 budget here name hdir hempty hpass hdot hup hsize next hthere hfile hslot =>
    obtain rfl : next = q := Except.ok.inj h
    exact .missing (.of_checks hdir hpass hempty hdot hup hfile hsize) hslot
      (Option.map_eq_none_iff.mp hthere)
  | case12 budget here name rest hdir hempty hpass hdot hup hfile hsize next hslot target hthere
      hends =>
    obtain rfl : next = q := Except.ok.inj h
    obtain ⟨rfl, hgoal⟩ := hends
    obtain ⟨e, hentry, hlink⟩ := Option.map_eq_some_iff.mp hthere
    exact .itself (.of_checks hdir hpass hempty hdot hup hfile hsize) hentry hlink hgoal
  | case14 here name rest hdir hempty hpass hdot hup hfile hsize next hslot target hthere hends
      budget ih =>
    obtain ⟨e, hentry, hlink⟩ := Option.map_eq_some_iff.mp hthere
    exact .follow (.of_checks hdir hpass hempty hdot hup hfile hsize) hslot hentry hlink hends
      (ih h)
  | case15 budget here name rest hdir hempty hpass hdot hup hfile hsize next hslot content hlink
      hthere ih =>
    obtain ⟨e, hentry, rfl⟩ := Option.map_eq_some_iff.mp hthere
    exact .enter (.of_checks hdir hpass hempty hdot hup hfile hsize) hslot hentry hlink (ih h)
  -- In the other cases there is no such place.
  | _ => cases h

/-- The place that a way leads to is found. -/
theorem Way.place_eq (h : d.Way goal budget here xs q) : d.place goal budget here xs = .ok q := by
  induction h with
  | done => rw [place]
  | slash hdir _ ih =>
    rw [place]
    simpa [hdir] using ih
  | stay pass _ ih =>
    obtain ⟨hdir, hpass⟩ := passable_iff.mp pass
    rw [place]
    simpa [hdir, hpass] using ih
  | up pass _ ih =>
    obtain ⟨hdir, hpass⟩ := passable_iff.mp pass
    rw [place]
    simpa [hdir, hpass] using ih
  | slot look hslot => rw [look.place_eq, if_pos hslot]
  | missing look hslot hentry =>
    rw [look.place_eq, if_neg hslot, hentry]
    rfl
  | @itself budget here name e target look hentry hlink hgoal =>
    rw [look.place_eq, hentry, Option.map_some, hlink, hgoal]
    cases budget <;> rfl
  | follow look hslot hentry hlink hgoal _ ih =>
    rw [look.place_eq, if_neg hslot, hentry, Option.map_some, hlink]
    simpa only [if_neg hgoal] using ih
  | @enter budget here q name rest e look hslot hentry hlink _ ih =>
    rw [look.place_eq, if_neg hslot, hentry, Option.map_some]
    cases hcontent : e.content with
    | link target => exact absurd hcontent (hlink target)
    | directory => exact ih
    | file size => exact ih

/-- The place that is found is the one that a way leads to. -/
theorem place_eq_ok_iff : d.place goal budget here xs = .ok q ↔ d.Way goal budget here xs q :=
  ⟨way_of_place, Way.place_eq⟩

theorem Way.unique (h : d.Way goal budget here xs q) {q' : Place}
    (h' : d.Way goal budget here xs q') : q = q' :=
  Except.ok.inj (h.place_eq.symm.trans h'.place_eq)

theorem not_isSlot_target : ¬ IsSlot .target rest := nofun

/-- On the way to an object, it does not matter what follows a name. -/
theorem Looks.target (look : d.Looks goal here name ys) : d.Looks .target here name rest :=
  ⟨look.passable, look.isName, look.size, nofun⟩

/-- A way is a way to somewhere in between, and another one from there. -/
theorem Way.split (h : d.Way goal budget here (xs ++ ys) q) (hys : ∃ y ∈ ys, y ≠ "") :
    ∃ mid, d.Way .target budget here xs mid ∧
      ∃ budget' ≤ budget, d.Way goal budget' mid ys q := by
  have hne : ys ≠ [] := by
    rintro rfl
    simp at hys
  generalize hzs : xs ++ ys = zs at h
  induction h generalizing xs with
  | done => exact absurd (List.append_eq_nil_iff.mp hzs).2 hne
  | slash hdir next ih =>
    obtain ⟨rfl, rfl⟩ | ⟨xs, rfl, rfl⟩ := List.append_eq_cons_iff.mp hzs
    · exact ⟨_, .done, _, Nat.le_refl _, .slash hdir next⟩
    · obtain ⟨mid, first, second⟩ := ih rfl
      exact ⟨mid, .slash hdir first, second⟩
  | stay pass next ih =>
    obtain ⟨rfl, rfl⟩ | ⟨xs, rfl, rfl⟩ := List.append_eq_cons_iff.mp hzs
    · exact ⟨_, .done, _, Nat.le_refl _, .stay pass next⟩
    · obtain ⟨mid, first, second⟩ := ih rfl
      exact ⟨mid, .stay pass first, second⟩
  | up pass next ih =>
    obtain ⟨rfl, rfl⟩ | ⟨xs, rfl, rfl⟩ := List.append_eq_cons_iff.mp hzs
    · exact ⟨_, .done, _, Nat.le_refl _, .up pass next⟩
    · obtain ⟨mid, first, second⟩ := ih rfl
      exact ⟨mid, .up pass first, second⟩
  | slot look hslot =>
    obtain ⟨rfl, rfl⟩ | ⟨xs, rfl, rfl⟩ := List.append_eq_cons_iff.mp hzs
    · exact ⟨_, .done, _, Nat.le_refl _, .slot look hslot⟩
    · obtain ⟨y, hy, hne⟩ := hys
      exact absurd (by simpa using List.all_eq_true.mp hslot.2 y (List.mem_append_right _ hy)) hne
  | missing look hslot hentry =>
    obtain ⟨rfl, rfl⟩ | ⟨xs, rfl, hxs⟩ := List.append_eq_cons_iff.mp hzs
    · exact ⟨_, .done, _, Nat.le_refl _, .missing look hslot hentry⟩
    · exact absurd (List.append_eq_nil_iff.mp hxs.symm).2 hne
  | itself look hentry hlink hgoal =>
    obtain ⟨rfl, rfl⟩ | ⟨xs, rfl, hxs⟩ := List.append_eq_cons_iff.mp hzs
    · exact ⟨_, .done, _, Nat.le_refl _, .itself look hentry hlink hgoal⟩
    · exact absurd (List.append_eq_nil_iff.mp hxs.symm).2 hne
  | follow look hslot hentry hlink hgoal next ih =>
    obtain ⟨rfl, rfl⟩ | ⟨xs, rfl, rfl⟩ := List.append_eq_cons_iff.mp hzs
    · exact ⟨_, .done, _, Nat.le_refl _, .follow look hslot hentry hlink hgoal next⟩
    · obtain ⟨mid, first, budget', hle, second⟩ := ih (List.append_assoc _ _ _)
      exact ⟨mid, .follow look.target not_isSlot_target hentry hlink nofun first, budget',
        Nat.le_succ_of_le hle, second⟩
  | enter look hslot hentry hlink next ih =>
    obtain ⟨rfl, rfl⟩ | ⟨xs, rfl, rfl⟩ := List.append_eq_cons_iff.mp hzs
    · exact ⟨_, .done, _, Nat.le_refl _, .enter look hslot hentry hlink next⟩
    · obtain ⟨mid, first, second⟩ := ih rfl
      exact ⟨mid, .enter look.target not_isSlot_target hentry hlink first, second⟩

/-- The links below a place lead to places below it, however many other links they lead through. -/
def Encloses (d : Disk) (R : Place) : Prop :=
  ∀ here name e target, R <+: here → d.entry? (here ++ [name]) = some e →
    e.content = .link target → ∀ budget q,
      d.place .target budget (if isAbsolute target then [] else here) (components target) = .ok q →
        R <+: q

/-- Along names, a way does not leave a place that encloses its links. -/
theorem Way.within (encloses : d.Encloses R) (hgoal : goal = .target ∨ goal = .slot)
    {names : List String} (hnames : ∀ name ∈ names, IsName name)
    (h : d.Way goal budget here names q) (hhere : R <+: here) : R <+: q := by
  induction names generalizing budget here with
  | nil =>
    cases h
    exact hhere
  | cons name rest ih =>
    obtain ⟨isName, hrest⟩ := List.forall_mem_cons.mp hnames
    have below : R <+: here ++ [name] := hhere.trans (List.prefix_append _ _)
    cases h with
    | slash => exact absurd rfl isName.1
    | stay => exact absurd rfl isName.2.1
    | up => exact absurd rfl isName.2.2
    | slot => exact below
    | missing => exact below
    | itself => exact below
    | enter look hslot hentry hlink next => exact ih hrest next below
    | @follow budget _ _ _ _ e target look hslot hentry hlink _ next =>
      have leads := encloses here name e target hhere hentry hlink
      cases rest with
      | nil =>
        have hgoal : goal = .target := hgoal.resolve_right fun hg => hslot ⟨hg, rfl⟩
        rw [List.append_nil, hgoal] at next
        exact leads _ q next.place_eq
      | cons other rest =>
        -- The link takes the way to somewhere below, and from there the names lead on.
        have isName := hrest other List.mem_cons_self
        obtain ⟨mid, first, budget', -, second⟩ := next.split ⟨other, List.mem_cons_self, isName.1⟩
        exact ih hrest second (leads _ mid first.place_eq)

/-- Where nothing stands, the place of a new object is the one that the path leads to. -/
theorem Way.of_slot (h : d.Way .slot budget here xs q) (hxs : xs.getLast? ≠ some "")
    (hq : d.entry? q = none) : d.Way .target budget here xs q := by
  have later : ∀ {x : String} {rest : List String}, (x :: rest).getLast? ≠ some "" →
      rest.getLast? ≠ some "" := by
    intro x rest hlast
    cases rest with
    | nil => simp
    | cons y rest => rwa [List.getLast?_cons_cons] at hlast
  induction h with
  | done => exact .done
  | slash hdir _ ih => exact .slash hdir (ih (later hxs) hq)
  | stay pass _ ih => exact .stay pass (ih (later hxs) hq)
  | up pass _ ih => exact .up pass (ih (later hxs) hq)
  | @slot budget here name rest look hslot =>
    cases rest with
    | nil => exact .missing look.target not_isSlot_target hq
    | cons y rest =>
      -- The name is not the last component, and that is a slash.
      have last := List.getLast_mem (List.cons_ne_nil y rest)
      have hempty := List.all_eq_true.mp hslot.2 _ last
      rw [List.getLast?_cons_cons, List.getLast?_eq_some_getLast (List.cons_ne_nil y rest)] at hxs
      exact absurd (congrArg some (by simpa using hempty)) hxs
  | missing look hslot => exact absurd ⟨rfl, rfl⟩ hslot
  | itself look hentry hlink hgoal => cases hgoal
  | @follow budget here q name rest e target look hslot hentry hlink _ _ ih =>
    have hrest : rest ≠ [] := by
      rintro rfl
      exact hslot ⟨rfl, rfl⟩
    refine .follow look.target not_isSlot_target hentry hlink nofun (ih ?_ hq)
    have last := List.getLast?_eq_some_getLast hrest
    rw [List.getLast?_append, last, Option.some_or, ← last]
    exact later hxs
  | enter look hslot hentry hlink _ ih =>
    exact .enter look.target not_isSlot_target hentry hlink (ih (later hxs) hq)

/-- The place of a path is found from its names as they are kept. -/
theorem place_of_find {path : Place} (h : d.find goal path = .ok q) :
    d.place goal linkLimit [] (path.map Text.wellFormed) = .ok q := by
  rw [find] at h
  split at h
  · cases h
  · exact h

/-- A path that leads along names from a place that encloses its links leads to a place below it, or
else to the place itself. -/
theorem find_within {root names : Place} (encloses : d.Encloses R)
    (hroot : d.find .target root = .ok R) (hempty : "" ∉ root)
    (hnames : ∀ name ∈ names, IsName name) (h : d.find goal (root ++ names) = .ok q)
    (hgoal : goal = .target ∨ goal = .slot ∧ d.entry? q = none) : R <+: q := by
  have begins := way_of_place (place_of_find hroot)
  have way := way_of_place (place_of_find h)
  rw [List.map_append] at way
  cases names with
  | nil =>
    rw [List.map_nil, List.append_nil] at way
    have same : d.Way .target linkLimit [] (root.map Text.wellFormed) q := by
      obtain rfl | ⟨rfl, hq⟩ := hgoal
      · exact way
      · refine way.of_slot (fun hlast => hempty ?_) hq
        obtain ⟨name, hname, heq⟩ := List.mem_map.mp (List.mem_of_getLast? hlast)
        exact eq_of_wellFormed (by simp) heq ▸ hname
    exact begins.unique same ▸ List.prefix_rfl
  | cons name rest =>
    have kept : ∀ y ∈ (name :: rest).map Text.wellFormed, IsName y := by
      intro y hy
      obtain ⟨name, hname, rfl⟩ := List.mem_map.mp hy
      exact (hnames name hname).wellFormed
    have first := kept _ List.mem_cons_self
    obtain ⟨mid, root', budget', -, second⟩ := way.split ⟨_, List.mem_cons_self, first.1⟩
    rw [← begins.unique root'] at second
    exact second.within encloses (hgoal.imp_right And.left) kept List.prefix_rfl

end Disk

end InodeGateway
