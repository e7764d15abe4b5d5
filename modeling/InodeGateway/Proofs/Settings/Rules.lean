import InodeGateway.Proofs.Arguments
import InodeGateway.Settings.Environment

/-!
# What settings obey

The rules for settings, said without the checks that look for faults, and what the settings that an
environment tells are made of.

## Main definitions

* `Settings.Lawful` — the rules

## Main statements

* `Settings.issues_eq_nil_iff` — settings without issues are the lawful ones
* `Environment.nul_not_mem_held` — what a variable holds has no NUL character
* `Settings.ok_of_ofEnvironment` — settings that an environment tells are lawful, and where their
  members come from
-/

namespace InodeGateway

/-- Pieces spell the characters that they are cut from, the mark, and the replacement of halves. -/
theorem Text.mem_character_piecesAfter {c : Char} (read : List Piece) (cs : List Char)
    (h : c ∈ (piecesAfter read cs).map Piece.character) :
    c ∈ read.map Piece.character ∨ c ∈ cs ∨ c = mark ∨ c = replacement := by
  fun_induction piecesAfter read cs with
  | case1 read => exact .inl (by simpa using h)
  | case2 read d =>
    have hmem : c = d ∨ c ∈ read.map Piece.character := by simpa [Piece.character, or_comm] using h
    exact hmem.elim (fun heq => .inr (.inl (by simp [heq]))) .inl
  | case3 read d rest ih =>
    have marked : (Piece.ofMarked d).character = mark ∨ (Piece.ofMarked d).character = replacement := by
      unfold Piece.ofMarked
      split
      · exact .inl rfl
      · exact .inr rfl
    rcases ih h with hread | hrest | hmark
    · rcases List.mem_cons.mp hread with rfl | hread
      · exact .inr (.inr marked)
      · exact .inl hread
    · exact .inr (.inl (by simp [hrest]))
    · exact .inr (.inr hmark)
  | case4 read d e rest _ ih =>
    rcases ih h with hread | hrest | hmark
    · rcases List.mem_cons.mp hread with rfl | hread
      · exact .inr (.inl List.mem_cons_self)
      · exact .inl hread
    · exact .inr (.inl (List.mem_cons_of_mem _ hrest))
    · exact .inr (.inr hmark)

/-- What a variable holds has no NUL character. -/
theorem Environment.nul_not_mem_held (text : String) : '\x00' ∉ (held text).toList := by
  intro h
  unfold held Text.wellFormed Text.ofPlain Text.toPlain at h
  simp only [String.toList_ofList, Text.spell, List.mem_flatMap, List.mem_map] at h
  obtain ⟨_, ⟨c, hc, rfl⟩, hnul⟩ := h
  have hmark : ('\x00' : Char) ≠ Text.mark := by decide
  obtain rfl : c = '\x00' := by
    simp only [Text.Piece.chars] at hnul
    split at hnul
    · simp [hmark] at hnul
    · exact (List.mem_singleton.mp hnul).symm
  rcases Text.mem_character_piecesAfter [] _ (List.mem_map.mpr hc) with hread | hcs | heq | heq
  · cases hread
  · simpa using List.all_eq_true.mp List.all_takeWhile _ hcs
  · exact hmark heq
  · exact absurd heq (by decide)

theorem Environment.nul_not_mem_value {env : Environment} {name text : String}
    (h : env.value? name = some text) : '\x00' ∉ text.toList := by
  obtain ⟨value, -, rfl⟩ := Option.map_eq_some_iff.mp (Option.filter_eq_some_iff.mp h).1
  exact nul_not_mem_held value

theorem Environment.nul_not_mem_getD {env : Environment} {name default : String}
    (h : '\x00' ∉ default.toList) : '\x00' ∉ ((env.value? name).getD default).toList := by
  cases hvalue : env.value? name with
  | none => exact h
  | some text => exact nul_not_mem_value hvalue

namespace Settings

/-- The rules for settings. -/
structure Lawful (s : Settings) : Prop where
  host : s.host ≠ ""
  port : s.port.IsWhole
  directory : ∀ directory, s.backend = .local directory → directory ≠ ""
  root : ∃ rest, s.rootPath.toList = '/' :: rest
  zone : s.zone ≠ ""
  owner : s.defaultOwner ≠ ""
  identities : ∀ e ∈ s.identities.entries, e.2 ≠ "" ∧ ∀ c ∈ e.2.toList, '0' ≤ c ∧ c ≤ '9'

theorem emptyIssue_eq_nil_iff {path : List String} {text : String} :
    emptyIssue path text = [] ↔ text ≠ "" := by
  simp [emptyIssue]

theorem portIssues_eq_nil_iff {port : Num} : portIssues port = [] ↔ port.IsWhole := by
  rw [← Num.isNatural_iff]
  simp [portIssues, Num.isNatural]

theorem backendIssues_eq_nil_iff {choice : BackendChoice} :
    backendIssues choice = [] ↔ ∀ directory, choice = .local directory → directory ≠ "" := by
  cases choice with
  | memory => simp [backendIssues]
  | other written => simp [backendIssues]
  | «local» directory => simp [backendIssues, emptyIssue_eq_nil_iff]

theorem rootIssues_eq_nil_iff {root : String} :
    rootIssues root = [] ↔ ∃ rest, root.toList = '/' :: rest := by
  rw [← List.head?_eq_some_iff]
  by_cases hhead : root.toList.head? = some '/'
  · have nonempty : root ≠ "" := by
      rintro rfl
      simp at hhead
    simp [rootIssues, emptyIssue_eq_nil_iff.mpr nonempty, hhead]
  · simp [rootIssues, hhead]

theorem isDigits_iff {text : String} :
    isDigits text ↔ text ≠ "" ∧ ∀ c ∈ text.toList, '0' ≤ c ∧ c ≤ '9' := by
  simp [isDigits, Char.isDigit, Char.le_def]

theorem identityIssues_eq_nil_iff {entries : List (String × String)} :
    identityIssues entries = [] ↔ ∀ e ∈ entries, isDigits e.2 := by
  simp [identityIssues, List.filterMap_eq_nil_iff]

/-- Settings without issues are the lawful ones. -/
theorem issues_eq_nil_iff {s : Settings} : s.issues = [] ↔ s.Lawful := by
  simp only [issues, List.append_eq_nil_iff, emptyIssue_eq_nil_iff, portIssues_eq_nil_iff,
    backendIssues_eq_nil_iff, rootIssues_eq_nil_iff, identityIssues_eq_nil_iff, isDigits_iff]
  constructor
  · rintro ⟨⟨⟨⟨⟨⟨host, port⟩, directory⟩, root⟩, zone⟩, owner⟩, identities⟩
    exact ⟨host, port, directory, root, zone, owner, identities⟩
  · rintro ⟨host, port, directory, root, zone, owner, identities⟩
    exact ⟨⟨⟨⟨⟨⟨host, port⟩, directory⟩, root⟩, zone⟩, owner⟩, identities⟩

theorem ok_of_validate {s t : Settings} (h : s.validate = .ok t) : t = s ∧ s.Lawful := by
  rw [validate] at h
  split at h
  · next hissues => exact ⟨(Except.ok.inj h).symm, issues_eq_nil_iff.mp hissues⟩
  · cases h

open Environment in
theorem ok_of_ofEnvironment {env : Environment} {s : Settings} (h : ofEnvironment env = .ok s) :
    s.Lawful ∧ readBackend env = .ok s.backend ∧
      s.zone = (env.value? "GRIDVFS_ZONE").getD "tempZone" ∧
      s.defaultOwner = (env.value? "GRIDVFS_DEFAULT_OWNER").getD "rods" ∧
      s.rootPath = (env.value? "GRIDVFS_ROOT_PATH").getD
        (defaultRoot s.backend s.zone s.defaultOwner) ∧
      s.identityMode = readMode env s.backend ∧
      readIdentities env s.zone s.defaultOwner = .ok s.identities := by
  rw [ofEnvironment] at h
  obtain ⟨backend, hbackend, h⟩ := ok_of_bind h
  obtain ⟨identities, hidentities, h⟩ := ok_of_bind h
  obtain ⟨rfl, lawful⟩ := ok_of_validate h
  refine ⟨lawful, hbackend, ?_⟩
  simp only [true_and]
  exact hidentities

/-- The root that an environment tells has no NUL character. -/
theorem nul_not_mem_root {env : Environment} {s : Settings} (h : ofEnvironment env = .ok s) :
    '\x00' ∉ s.rootPath.toList := by
  obtain ⟨-, -, zone, owner, root, -, -⟩ := ok_of_ofEnvironment h
  rw [root]
  refine Environment.nul_not_mem_getD ?_
  unfold defaultRoot
  split
  · decide
  · have hzone : '\x00' ∉ s.zone.toList := zone ▸ Environment.nul_not_mem_getD (by decide)
    have howner : '\x00' ∉ s.defaultOwner.toList := owner ▸ Environment.nul_not_mem_getD (by decide)
    simp only [String.toList_append, List.mem_append, hzone, howner, or_false]
    decide

end Settings

end InodeGateway
