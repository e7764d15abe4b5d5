import InodeGateway.Backend.Local
import InodeGateway.Proofs.Disk.Links
import InodeGateway.Proofs.Path.Canonical

/-!
# Places of paths

A directory that is named in writing is a place made of names, whatever spelling names it.  A path
of the backend leads to the place of its names below that directory, which is also the place that
the path names when it is written behind the directory.  The guard on written forms lets every such
place pass, except where the served directory is the root of the disk: there it lets the root pass
alone.

## Main definitions

* `Disk.Place.Named` — a place made of names
* `Local.escapes` — the refusal of the guard

## Main statements

* `Local.named_absolute`, `Local.absolute_toText` — what is named in writing is a place of names,
  and such places are read back from their written forms
* `Local.resolve_of_ofText` — the place of a path, or the refusal
* `Local.resolve_faithful` — every accepted path resolves to the place of its components, and
  different normal forms to different places
* `Local.resolve_escapes_root` — no path but the root resolves where the root of the disk is served
-/

namespace InodeGateway

namespace Disk.Place

/-- A place made of names, none of which has a separator in it. -/
def Named (place : Place) : Prop := ∀ name ∈ place, IsName name ∧ '/' ∉ name.toList

theorem named_place (p : Path) : Named p.place := by
  intro name hname
  obtain ⟨n, -, rfl⟩ := List.mem_map.mp hname
  exact ⟨name_ne n, n.separator_not_mem⟩

theorem toList_toText (place : Place) : place.toText.toList = place.chars := String.toList_ofList

theorem chars_place (p : Path) : chars p.place = p.chars := by
  rw [← toList_toText, Path.toText_place, Path.toList_toText]

/-- Below another place, a path is written behind it. -/
theorem chars_append_place {root : Place} (hroot : root ≠ []) (p : Path) :
    chars (root ++ p.place) = chars root ++ if p = .root then [] else p.chars := by
  split
  · next hp =>
    subst hp
    simp [Path.place, Path.root]
  · next hp =>
    have hplace : p.place.map String.toList = p.names.map fun n => n.text.toList := List.map_map
    have hnames : p.names ≠ [] := fun h => hp (Path.names_eq_nil_iff.mp h)
    rw [chars, List.map_append, hplace,
      Path.intercalate_append (by simpa using hroot) (by simpa using hnames)]
    rfl

theorem toText_append_place_inj {root : Place} (hroot : root ≠ []) {p q : Path} :
    toText (root ++ p.place) = toText (root ++ q.place) ↔ p = q := by
  constructor
  · intro h
    have hchars := String.ofList_injective h
    rw [chars_append_place hroot, chars_append_place hroot] at hchars
    have below := List.append_cancel_left hchars
    by_cases hp : p = .root <;> by_cases hq : q = .root
    · rw [hp, hq]
    · rw [if_pos hp, if_neg hq] at below
      cases below
    · rw [if_neg hp, if_pos hq] at below
      cases below
    · rw [if_neg hp, if_neg hq] at below
      rw [← Path.toText_inj, Path.toText, Path.toText, below]
  · rintro rfl
    rfl

end Disk.Place

namespace Local

variable {root place : Disk.Place} {text : String} {p : Path}

/-! ### Places that are named in writing -/

theorem named_step (h : place.Named) {component : String} (hsep : '/' ∉ component.toList) :
    Disk.Place.Named (step place component) := by
  unfold step
  split
  · exact h
  · next hne =>
    rw [not_or] at hne
    split
    · exact fun name hname => h name (List.dropLast_subset _ hname)
    · next hup =>
      intro name hname
      rcases List.mem_append.mp hname with hname | hname
      · exact h name hname
      · obtain rfl := List.mem_singleton.mp hname
        exact ⟨⟨hne.1, hne.2, hup⟩, hsep⟩

theorem named_foldl {components : List String} (h : place.Named)
    (hsep : ∀ component ∈ components, '/' ∉ component.toList) :
    Disk.Place.Named (components.foldl step place) := by
  induction components generalizing place with
  | nil => exact h
  | cons component rest ih =>
    have hfirst := hsep component List.mem_cons_self
    exact ih (named_step h hfirst) fun c hc => hsep c (List.mem_cons_of_mem _ hc)

/-- What is named in writing is a place of names. -/
theorem named_absolute (working : Path) (directory : String) :
    Disk.Place.Named (absolute working.place directory) := by
  apply named_foldl
  · split
    · exact fun name hname => absurd hname List.not_mem_nil
    · exact Disk.Place.named_place working
  · intro component hcomponent hsep
    obtain ⟨piece, hpiece, rfl⟩ := List.mem_map.mp hcomponent
    rw [String.toList_ofList] at hsep
    exact (mem_of_mem_splitOn hpiece hsep).2 rfl

/-- Names lead down, one after another. -/
theorem foldl_step_names {names : List String} (h : ∀ name ∈ names, Disk.IsName name) :
    names.foldl step place = place ++ names := by
  induction names generalizing place with
  | nil => simp
  | cons name names ih =>
    obtain ⟨hne, hdot, hup⟩ := h name List.mem_cons_self
    rw [List.foldl_cons, ih fun other hother => h other (List.mem_cons_of_mem _ hother)]
    simp [step, hne, hdot, hup]

theorem components_append (a b : String) :
    Disk.components (a ++ "/" ++ b) = Disk.components a ++ Disk.components b := by
  have cut : (a ++ "/" ++ b).toList = a.toList ++ '/' :: b.toList := by simp
  rw [Disk.components, cut, List.splitOn_append_cons_self, List.map_append]
  rfl

/-- The names of a place, written one after another without the separator in front. -/
def relativeText (place : Disk.Place) : String :=
  String.ofList (['/'].intercalate (place.map String.toList))

theorem toText_eq_relativeText (place : Disk.Place) :
    place.toText = "" ++ "/" ++ relativeText place := by
  rw [← String.toList_inj]
  simp [Disk.Place.toText, Disk.Place.chars, relativeText]

/-- Names that are read where one stands lead down from there. -/
theorem foldl_relativeText (h : place.Named) (here : Disk.Place) :
    (Disk.components (relativeText place)).foldl step here = here ++ place := by
  by_cases hplace : place = []
  · subst hplace
    simp [Disk.components, relativeText, step]
  · have cut : Disk.components (relativeText place) = place := by
      rw [Disk.components, relativeText, String.toList_ofList,
        List.splitOn_intercalate '/' _ (by simpa using hplace), List.map_map]
      · simp
      · intro piece hpiece
        obtain ⟨name, hname, rfl⟩ := List.mem_map.mp hpiece
        exact (h name hname).2
    rw [cut]
    exact foldl_step_names fun name hname => (h name hname).1

/-- A place of names is read back from its written form. -/
theorem absolute_toText (h : place.Named) (working : Disk.Place) :
    absolute working place.toText = place := by
  have begins : Disk.isAbsolute place.toText = true := by
    simp [Disk.isAbsolute, Disk.Place.toText, Disk.Place.chars]
  rw [absolute, begins, if_pos rfl, toText_eq_relativeText, components_append, List.foldl_append,
    foldl_relativeText h]
  rfl

/-- What is written behind a place is read from there. -/
theorem absolute_behind (h : root.Named) (working : Disk.Place) (text : String) :
    absolute working (root.toText ++ "/" ++ text) = (Disk.components text).foldl step root := by
  have begins : Disk.isAbsolute (root.toText ++ "/" ++ text) = Disk.isAbsolute root.toText := by
    simp [Disk.isAbsolute, Disk.Place.toText, Disk.Place.chars]
  rw [absolute, components_append, List.foldl_append, begins]
  show (Disk.components text).foldl step (absolute working root.toText) = _
  rw [absolute_toText h]

/-- The written form of a path, behind a place and a reference to that place itself, names the place
of the path below it. -/
theorem absolute_dotted (h : root.Named) (working : Disk.Place) (p : Path) :
    absolute working (root.toText ++ "/" ++ ("." ++ p.toText)) = root ++ p.place := by
  have dotted : "." ++ p.toText = "." ++ "/" ++ relativeText p.place := by
    rw [← Path.toText_place, toText_eq_relativeText, ← String.toList_inj]
    simp
  rw [absolute_behind h, dotted, components_append, List.foldl_append,
    foldl_relativeText (Disk.Place.named_place p)]
  rfl

/-! ### The guard -/

/-- The refusal of the guard. -/
def escapes (text : String) : Failure :=
  .backend .permissionDenied "Resolved path escapes backend root" (some text)

/-- No written form begins with two separators. -/
theorem not_prefix_chars (p : Path) : ¬ ['/', '/'] <+: p.chars := by
  rintro ⟨rest, hrest⟩
  have cut := p.splitOn_chars
  rw [← hrest, show ['/', '/'] ++ rest = [] ++ '/' :: ([] ++ '/' :: rest) from rfl,
    List.splitOn_append_cons_self, List.splitOn_append_cons_self] at cut
  by_cases hp : p.names = []
  · rw [if_pos hp] at cut
    have lengths := congrArg List.length cut
    have hpieces := List.length_pos_iff.mpr (List.splitOn_ne_nil '/' rest)
    simp at lengths
  · rw [if_neg hp] at cut
    have hmem : [] ∈ p.names.map fun n => n.text.toList := by
      rw [← (List.cons.inj cut).2]
      simp
    obtain ⟨n, -, hn⟩ := List.mem_map.mp hmem
    exact n.toList_ne_nil hn

/-- The guard objects to nothing below a directory, unless that is the root of the disk: there it
expects a second separator, which no path has. -/
theorem guard_iff (root : Disk.Place) (p : Path) :
    (placeText root p ≠ root.toText ∧
      ¬ (root.toText ++ "/").toList.isPrefixOf (placeText root p).toList) ↔
      root = [] ∧ p ≠ .root := by
  have written : placeText root p = Disk.Place.toText (root ++ p.place) := rfl
  rw [written, List.isPrefixOf_iff_prefix, String.toList_append, Ne, ← String.toList_inj,
    Disk.Place.toList_toText, Disk.Place.toList_toText]
  by_cases hroot : root = []
  · subst hroot
    rw [List.nil_append, Disk.Place.chars_place]
    constructor
    · rintro ⟨hne, -⟩
      exact ⟨rfl, fun hp => hne (by rw [hp]; rfl)⟩
    · rintro ⟨-, hp⟩
      refine ⟨fun heq => hp (Path.toText_eq_separator_iff.mp ?_), not_prefix_chars p⟩
      rw [Path.toText, heq]
      rfl
  · rw [Disk.Place.chars_append_place hroot]
    constructor
    · rintro ⟨hne, hguard⟩
      by_cases hp : p = .root
      · exact absurd (by rw [if_pos hp, List.append_nil]) hne
      · rw [if_neg hp] at hguard
        exact absurd ((List.prefix_append_right_inj _).mpr ⟨_, rfl⟩) hguard
    · rintro ⟨h, -⟩
      exact absurd h hroot

/-- A path leads to the place of its names below the served directory, or the guard objects. -/
theorem resolve_of_ofText (root : Disk.Place) (h : Path.ofText text = .ok p) :
    resolve root text =
      if root = [] ∧ p ≠ .root then .error (escapes text) else .ok (root ++ p.place) := by
  have spelled : (Path.ofText text).mapError Refusal.failure = .ok p := by
    rw [h]
    rfl
  rw [resolve, spelled]
  simp only [bind, Except.bind, guard_iff]
  rfl

/-- Below a directory that is not the root of the disk, every accepted text resolves: to the
directory followed by the components of its normal form, which is where the normal form leads when
it is written behind the directory.  Texts resolve to one place if they have one normal form, and
only then. -/
theorem resolve_faithful {working : Path} {directory : String} {root : Disk.Place}
    (hroot : root = absolute working.place directory) (below : root ≠ []) :
    (∀ text form, Spelling.normalize text = .ok form →
      ∃ place, resolve root text = .ok place ∧
        place = root ++ (Path.segments form.toList).map String.ofList ∧
        place = absolute working.place (root.toText ++ "/" ++ ("." ++ form)) ∧
        place.toText = if form = "/" then root.toText else root.toText ++ form) ∧
    ∀ a b x y place place', Spelling.normalize a = .ok x → Spelling.normalize b = .ok y →
      resolve root a = .ok place → resolve root b = .ok place' →
      (place.toText = place'.toText ↔ x = y) := by
  have resolved : ∀ {text p}, Path.ofText text = .ok p →
      resolve root text = .ok (root ++ p.place) := by
    intro text p hp
    rw [resolve_of_ofText root hp, if_neg fun h => below h.1]
  refine ⟨fun text form h => ?_, fun a b x y place place' hx hy ha hb => ?_⟩
  · obtain ⟨p, hp, rfl⟩ := Spelling.ofText_of_normalize h
    refine ⟨root ++ p.place, resolved hp, ?_, ?_, ?_⟩
    · rw [Path.segments_toText, List.map_map, Path.place]
      simp
    · rw [absolute_dotted (hroot ▸ named_absolute working directory)]
    · rw [← String.toList_inj, Disk.Place.toList_toText, Disk.Place.chars_append_place below]
      by_cases hp : p = .root
      · simp [hp, Path.toText_eq_separator_iff, Disk.Place.toList_toText]
      · simp [hp, Path.toText_eq_separator_iff, Disk.Place.toList_toText, Path.toList_toText]
  · obtain ⟨p, hp, rfl⟩ := Spelling.ofText_of_normalize hx
    obtain ⟨q, hq, rfl⟩ := Spelling.ofText_of_normalize hy
    obtain rfl := Except.ok.inj ((resolved hp).symm.trans ha)
    obtain rfl := Except.ok.inj ((resolved hq).symm.trans hb)
    rw [Disk.Place.toText_append_place_inj below, Path.toText_inj]

/-- A directory that is named from the working directory, with a separator at its end. -/
theorem named_below_resolved :
    absolute (Path.place ⟨[⟨"home", by decide⟩]⟩) "srv/../data/" = ["home", "data"] ∧
      Spelling.normalize "/ a//./b\\c/" = .ok "/ a/b\\c" ∧
      resolve ["home", "data"] "/ a//./b\\c/" = .ok ["home", "data", " a", "b\\c"] := by
  have hroot : absolute (Path.place ⟨[⟨"home", by decide⟩]⟩) "srv/../data/" = ["home", "data"] := by
    decide +kernel
  have hform : Spelling.normalize "/ a//./b\\c/" = .ok "/ a/b\\c" := by rfl
  obtain ⟨place, hplace, hnames, -⟩ :=
    (resolve_faithful hroot.symm (List.cons_ne_nil _ _)).1 _ _ hform
  refine ⟨hroot, hform, ?_⟩
  rw [hplace, hnames]
  exact congrArg Except.ok (by decide +kernel)

/-- Where the root of the disk is served, the guard objects to a path below it. -/
theorem resolve_escapes_root :
    absolute Path.root.place "/" = [] ∧ Spelling.normalize "/absent" = .ok "/absent" ∧
      resolve (absolute Path.root.place "/") "/absent" = .error (escapes "/absent") := by
  have hroot : absolute Path.root.place "/" = [] := by decide +kernel
  have hpath : Path.ofText "/absent" = .ok ⟨[⟨"absent", by decide⟩]⟩ := by rfl
  refine ⟨hroot, by rfl, ?_⟩
  rw [hroot, resolve_of_ofText [] hpath]
  exact if_pos ⟨rfl, by decide⟩

end Local

end InodeGateway
