import InodeGateway.Proofs.Settings.Owners

/-!
# Identities that settings list

The rules for settings ask that an identity is written in decimal digits.  Such a text spells a
number, and an owner has that number as its user id unless the number is too great for one, which
the rules do not ask about.  Where a fixed map stands for the identities, nothing else can be wrong
with an owner that it lists.

## Main definitions

* `Identity.Refused` — why an owner has no user id where a fixed map stands for the identities

## Main statements

* `Settings.exists_spells` — what the rules let pass spells a number
* `Identity.refused_of_userIdOf` — an owner that is listed is refused for too great a number only
* `Settings.listedOwners_read` — the same of attributes and listings
* `Settings.accepts_tooGreat` — settings that load, with an identity that is too great
-/

namespace InodeGateway

namespace Identity

variable {entries : OrderedMap String String} {owner text : String} {n : Nat} {m : Metadata}
  {f : Failure}

/-- Why an owner has no user id where a fixed map stands for the identities: it is not listed, or
its number is too great. -/
inductive Refused (entries : OrderedMap String String) (owner : String) : Failure → Prop
  | unlisted (h : entries.get? owner = none) : Refused entries owner (Refusal.noIdentity owner)
  | tooGreat {text : String} {n : Nat} (h : entries.get? owner = some text)
      (spells : Text.Spells text n) (great : 2 ^ 53 - 1 < n) :
      Refused entries owner (Refusal.malformedIdentity owner text)

/-- Such a failure is one in terms of the gateway and is reported as it is. -/
theorem Refused.restate (h : Refused entries owner f) : Gateway.restate f = f := by
  cases h <;> rfl

/-- Where all that is listed spells numbers, an owner has no user id only if it is not listed or its
number is too great. -/
theorem refused_of_userIdOf (spelled : ∀ e ∈ entries.entries, ∃ n, Text.Spells e.2 n)
    (h : Attributes.userIdOf (static entries) m = .error f) :
    Refused entries (Identity.owner m.ownerName m.ownerZone) f := by
  have resolves : (static entries).resolve (Identity.owner m.ownerName m.ownerZone) =
    .ok (entries.get? (Identity.owner m.ownerName m.ownerZone)) := rfl
  cases listed : entries.get? (Identity.owner m.ownerName m.ownerZone) with
  | none =>
    rw [listed] at resolves
    rw [Attributes.userIdOf_of_none resolves] at h
    cases h
    exact .unlisted listed
  | some text =>
    obtain ⟨n, spells⟩ := spelled _ (OrderedMap.mem_of_get? listed)
    rw [listed] at resolves
    rw [Attributes.userIdOf_of_some resolves, userId_of_spells spells] at h
    split at h
    · cases h
    · next great =>
      cases h
      exact .tooGreat listed spells (Nat.lt_of_not_le great)

end Identity

namespace Gateway

variable {σ : Type} {g : Gateway σ} {entries : OrderedMap String String} {s : Session} {f : Failure}
  {m : Metadata}

/-- Every visit is one to a child, in some state. -/
theorem exists_visit {v : Visit} {texts : List String} {x : σ} (h : v ∈ (g.visits s texts x).1) :
    ∃ text y, v = (g.visit s text y).1 := by
  induction texts generalizing x with
  | nil => cases h
  | cons text rest ih =>
    cases hv : (g.visit s text x).1.failure? with
    | some f =>
      rw [visits_cons_of_some hv] at h
      exact ⟨text, x, List.mem_singleton.mp h⟩
    | none =>
      rw [visits_cons_of_none hv] at h
      rcases List.mem_cons.mp h with rfl | h
      · exact ⟨text, x, rfl⟩
      · exact ih h

/-- A child without a user id is one whose owner the directory has none for. -/
theorem userIdOf_of_unowned {directory : Identity.Directory}
    (names : g.identities = directory.registry) {texts : List String} {x : σ}
    (h : .unowned m f ∈ (g.visits s texts x).1) : Attributes.userIdOf directory m = .error f := by
  obtain ⟨text, y, hv⟩ := exists_visit h
  rw [visit, names] at hv
  rcases heq : (g.backend.stat s text).answer y with ⟨e | found, z⟩
  · simp only [heq] at hv
    split at hv <;> cases hv
  · simp only [heq, Attributes.answer_askUserId] at hv
    cases hid : Attributes.userIdOf directory found with
    | ok id =>
      rw [hid] at hv
      cases hv
    | error e =>
      rw [hid] at hv
      cases hv
      exact hid

variable {w : World σ} {h : Handle} {p : Path} {y x : σ}

/-- Over a fixed map in which all that is listed spells numbers, an object that the backend
describes is refused attributes for its owner only. -/
theorem getAttributes_refused (names : g.identities = (Identity.static entries).registry)
    (spelled : ∀ e ∈ entries.entries, ∃ n, Text.Spells e.2 n) (hp : pathFor w.inodes h = .ok p)
    (hopen : g.backend.openSession.answer w.backend = (.ok s, y))
    (hstat : ((g.backend.stat s p.toText).answer y).1 = .ok m)
    (hf : ((g.getAttributes h).answer w).1 = .error f) :
    Identity.Refused entries (Identity.owner m.ownerName m.ownerZone) f := by
  rw [getAttributes_eq names hp hopen hstat] at hf
  cases hid : Attributes.userIdOf (Identity.static entries) m with
  | ok id =>
    rw [hid] at hf
    cases hf
  | error e =>
    have refused := Identity.refused_of_userIdOf spelled hid
    rw [hid] at hf
    cases hf
    exact refused.restate.symm ▸ refused

/-- The last visit of a listing that fails: a child that the backend does not describe, or one whose
owner has no user id. -/
theorem list_refused (names : g.identities = (Identity.static entries).registry)
    (spelled : ∀ e ∈ entries.entries, ∃ n, Text.Spells e.2 n) {t : Inodes} {texts : List String}
    {paths : List Path} {outcome : Except Failure (List DirectoryEntry) × World σ}
    (lists : g.Lists t paths (g.visits s texts x).1 outcome) (hf : outcome.1 = .error f) :
    (∃ e, .unseen e ∈ (g.visits s texts x).1 ∧ f = restate e) ∨
      ∃ m, .unowned m f ∈ (g.visits s texts x).1 ∧
        Identity.Refused entries (Identity.owner m.ownerName m.ownerZone) f := by
  rcases lists.visited with ⟨succeed, -⟩ | ⟨e, ends⟩
  · obtain ⟨l, hl, -⟩ := lists.succeeds succeed
    rw [hl] at hf
    cases hf
  · have told := (lists.fails e ends).symm.trans hf
    obtain ⟨before, v, hvisits, -, hv⟩ := ends
    have hmem : v ∈ (g.visits s texts x).1 := by simp [hvisits]
    cases v with
    | vanished => cases hv
    | described m id => cases hv
    | unseen e' =>
      cases hv
      exact .inl ⟨e, hmem, (Except.error.inj told).symm⟩
    | unowned m e' =>
      cases hv
      have refused := Identity.refused_of_userIdOf spelled (userIdOf_of_unowned names hmem)
      rw [refused.restate] at told
      cases told
      exact .inr ⟨m, hmem, refused⟩

end Gateway

namespace Settings

variable {env : Environment} {s : Settings}

/-- What the rules let pass as an identity spells a number. -/
theorem exists_spells (lawful : s.Lawful) : ∀ e ∈ s.identities.entries, ∃ n, Text.Spells e.2 n := by
  intro e he
  obtain ⟨hne, digits⟩ := lawful.identities e he
  have bare : Text.AllBlank [] := by simp [Text.AllBlank]
  have numeral : Text.Numeral e.2.toList (Nat.ofDigitChars 10 e.2.toList 0) := by
    refine Text.numeral_iff.mpr ⟨⟨fun h => hne (String.toList_injective h), fun c hc => ?_⟩, rfl⟩
    simpa [Char.isDigit, Char.le_def] using digits c hc
  exact ⟨_, [], e.2.toList, [], by simp, bare, bare, numeral⟩

/-- The rules and the reading of identities agree but for the size of the numbers.  In settings that
load with a fixed map, every identity spells a number and is the user id of that number, unless that
is above 2 ^ 53 - 1.  So an object that a backend describes, any backend, is refused attributes only
if its owner is not listed or is listed with such a number; and the same is said of each child with
which a listing ends that fails. -/
theorem listedOwners_read (told : ofEnvironment env = .ok s) (fixed : s.identityMode = .static) :
    s.directory = .ok (Identity.static s.identities) ∧
    (∀ e ∈ s.identities.entries, ∃ n, Text.Spells e.2 n ∧
      (n ≤ 2 ^ 53 - 1 → Identity.userId e.1 e.2 = .ok n) ∧
      (2 ^ 53 - 1 < n → Identity.userId e.1 e.2 = .error (.malformedIdentity e.1 e.2))) ∧
    (∀ {σ : Type} {g : Gateway σ} {w : World σ} {h : Handle} {p : Path} {session : Session} {y : σ}
      {m : Metadata} {f : Failure}, g.identities = (Identity.static s.identities).registry →
      Gateway.pathFor w.inodes h = .ok p →
      g.backend.openSession.answer w.backend = (.ok session, y) →
      ((g.backend.stat session p.toText).answer y).1 = .ok m →
      ((g.getAttributes h).answer w).1 = .error f →
      Identity.Refused s.identities (Identity.owner m.ownerName m.ownerZone) f) ∧
    ∀ {σ : Type} {g : Gateway σ} {root : String} {w : World σ}, g.OpenedAt root w →
      g.identities = (Identity.static s.identities).registry →
      ∀ steps : List (Gateway.Step σ), (∀ step ∈ steps, ¬ step.Plants) →
      ∀ h p session y x texts paths f,
      (h, p) ∈ (g.afterSteps w steps).inodes.entries →
      g.backend.openSession.answer (g.afterSteps w steps).backend = (.ok session, y) →
      (g.backend.list session p.toText).answer y = (.ok texts, x) →
      List.Forall₂ (fun text p => Path.ofText text = .ok p) texts paths →
      ((g.list h).answer (g.afterSteps w steps)).1 = .error f →
      (∃ e, .unseen e ∈ (g.visits session texts x).1 ∧ f = Gateway.restate e) ∨
        ∃ m, .unowned m f ∈ (g.visits session texts x).1 ∧
          Identity.Refused s.identities (Identity.owner m.ownerName m.ownerZone) f := by
  have spelled := exists_spells (ok_of_ofEnvironment told).1
  refine ⟨by rw [directory, fixed], fun e he => ?_, fun names hp hopen hstat hf =>
    Gateway.getAttributes_refused names spelled hp hopen hstat hf, ?_⟩
  · obtain ⟨n, spells⟩ := spelled e he
    have read : Identity.userId e.1 e.2 = _ := Identity.userId_of_spells spells
    exact ⟨n, spells, fun fits => read.trans (if_pos fits),
      fun great => read.trans (if_neg (Nat.not_le_of_lt great))⟩
  · intro σ g root w opened names steps noPlants h p session y x texts paths f registered hopen
      hlist paths_spelled hf
    have dense := (opened.denseAt.afterSteps noPlants).dense
    have hp := (Gateway.pathFor_iff dense.coherent).mpr registered
    exact Gateway.list_refused names spelled
      (Gateway.answer_list dense hp hopen hlist paths_spelled).2 hf

/-- Two owners, one of them with a number that is too great. -/
theorem mixed_owners_read :
    ∃ s, ofEnvironment ⟨[("GRIDVFS_IDENTITY_MAP", "eve#grid=007,rods#grid=9007199254740992")]⟩ =
        .ok s ∧ s.identityMode = .static ∧ Identity.userId "eve#grid" "007" = .ok 7 ∧
      Identity.userId "rods#grid" "9007199254740992" =
        .error (.malformedIdentity "rods#grid" "9007199254740992") := by
  have told : ofEnvironment
      ⟨[("GRIDVFS_IDENTITY_MAP", "eve#grid=007,rods#grid=9007199254740992")]⟩ =
        .ok { usual with
          identities := ⟨[("eve#grid", "007"), ("rods#grid", "9007199254740992")]⟩ } :=
    ok_of_toOption (by decide +kernel)
  obtain ⟨-, read, -⟩ := listedOwners_read told rfl
  obtain ⟨n, spells, fits, -⟩ := read ("eve#grid", "007") (by simp)
  obtain ⟨n', spells', -, great⟩ := read ("rods#grid", "9007199254740992") (by simp)
  obtain rfl : n = 7 := spells.unique (Text.spells_iff_digits.mpr ⟨by decide, by decide⟩)
  obtain rfl : n' = 2 ^ 53 := spells'.unique (Text.spells_iff_digits.mpr ⟨by decide, by decide⟩)
  exact ⟨_, told, rfl, fits (by decide), great (by decide)⟩

/-- The usual settings, but for a number that is too great. -/
def tooGreat : Settings :=
  { usual with identities := ⟨[("rods#tempZone", "9007199254740992")]⟩ }

/-- Settings load that list an owner with a number that is too great.  They are served, and the
root, which is this owner's, has no attributes. -/
theorem accepts_tooGreat :
    ofEnvironment ⟨[("GRIDVFS_IDENTITY_MAP", "rods#tempZone=9007199254740992")]⟩ = .ok tooGreat ∧
      tooGreat.identityMode = .static ∧
      ("rods#tempZone", "9007199254740992") ∈ tooGreat.identities.entries ∧
      Identity.userId "rods#tempZone" "9007199254740992" =
        .error (.malformedIdentity "rods#tempZone" "9007199254740992") ∧
      ∃ storage g w f, tooGreat.storage bareMachine = .ok storage ∧
        (Gateway.establish (Storage.backend storage.kind) (Identity.static tooGreat.identities)
          .fixed tooGreat.rootPath).answer { backend := storage } = (.ok g, w) ∧
        ((g.getAttributes Handle.root).answer w).1 = .error f ∧
        f.message = "Owner identity is not a decimal number" := by
  have great : Text.Spells "9007199254740992" (2 ^ 53) :=
    Text.spells_iff_digits.mpr ⟨by decide, by decide⟩
  have unread : Identity.userId "rods#tempZone" "9007199254740992" = _ :=
    (Identity.userId_of_spells great).trans (if_neg (by decide))
  have asked : ((tooGreat.storage bareMachine).toOption.bind fun storage =>
      let opened := (Gateway.establish (Storage.backend storage.kind)
        (Identity.static tooGreat.identities) .fixed tooGreat.rootPath).answer
          { backend := storage }
      opened.1.toOption.bind fun g =>
        match ((g.getAttributes Handle.root).answer opened.2).1 with
        | .error f => some f.message
        | .ok _ => none) = some "Owner identity is not a decimal number" := by
    decide +kernel
  refine ⟨ok_of_toOption (by decide +kernel), rfl, List.mem_singleton_self _, unread, ?_⟩
  obtain ⟨storage, hstorage, asked⟩ := Option.bind_eq_some_iff.mp asked
  obtain ⟨g, hg, asked⟩ := Option.bind_eq_some_iff.mp asked
  split at asked
  · next f hf =>
    exact ⟨storage, g, _, f, ok_of_toOption hstorage, Prod.ext (ok_of_toOption hg) rfl, hf,
      Option.some.inj asked⟩
  · cases asked

end Settings

end InodeGateway
