import InodeGateway.Proofs.World.Session

/-!
# What actions write into the journal

An action adds records to the journal and takes none away.  What all records of an action have in
common follows from what its parts write.

## Main definitions

* `Act.Writes` — an action adds records of a kind to the journal and tells the observer nothing

## Main statements

* `Act.Writes.bind`, `Act.Writes.withSession` — the rules for sequences and sessions
-/

namespace InodeGateway

open Journal

variable {σ α β : Type} {P : Record → Prop}

namespace Act

/-- The action adds records for which `P` holds to the journal and tells the observer nothing. -/
def Writes (P : Record → Prop) (a : Act σ α) : Prop := ∀ w : World σ,
  (∃ records, (a.answer w).2.journal = w.journal ++ records ∧ ∀ record ∈ records, P record) ∧
    (a.answer w).2.observed = w.observed

namespace Writes

/-- An action that leaves the journal and the observer alone. -/
theorem of_eq {a : Act σ α} (h : ∀ w : World σ, (a.answer w).2.journal = w.journal ∧
    (a.answer w).2.observed = w.observed) : Writes P a := by
  intro w
  obtain ⟨journal, observed⟩ := h w
  exact ⟨⟨[], by rw [journal, List.append_nil], nofun⟩, observed⟩

theorem pure (x : α) : Writes P (Pure.pure x : Act σ α) := of_eq fun _ => ⟨rfl, rfl⟩

theorem fail (f : Failure) : Writes P (Call.fail f : Act σ α) := of_eq fun _ => ⟨rfl, rfl⟩

theorem call (c : Call σ α) : Writes P (Act.call c) := of_eq fun _ => ⟨rfl, rfl⟩

theorem table (f : Inodes → Except Refusal α × Inodes) : Writes P (Act.table f : Act σ α) :=
  of_eq fun _ => ⟨rfl, rfl⟩

theorem look (f : Inodes → Except Refusal α) : Writes P (Act.look f : Act σ α) := table _

theorem check (r : Except Refusal α) : Writes P (Act.check r : Act σ α) :=
  of_eq fun _ => ⟨rfl, rfl⟩

theorem note {level : Level} {message : String} {fields : Fields}
    (h : P ⟨level, message, fields⟩) : Writes P (Act.note level message fields : Act σ Unit) :=
  fun _ => ⟨⟨[⟨level, message, fields⟩], rfl, List.forall_mem_singleton.mpr h⟩, rfl⟩

theorem bind {a : Act σ α} {k : α → Act σ β} (ha : Writes P a) (hk : ∀ x, Writes P (k x)) :
    Writes P (a >>= k) := by
  intro w
  obtain ⟨⟨first, hfirst, written⟩, observed⟩ := ha w
  rw [Call.answer_bind]
  rcases heq : a.answer w with ⟨f | x, after⟩ <;> rw [heq] at hfirst observed
  · exact ⟨⟨first, hfirst, written⟩, observed⟩
  · obtain ⟨⟨second, hsecond, written'⟩, observed'⟩ := hk x after
    refine ⟨⟨first ++ second, ?_, ?_⟩, observed'.trans observed⟩
    · simp only at hfirst ⊢
      rw [hsecond, hfirst, List.append_assoc]
    · exact List.forall_mem_append.mpr ⟨written, written'⟩

theorem map {f : α → β} {a : Act σ α} (ha : Writes P a) : Writes P (f <$> a) := by
  rw [map_eq_pure_bind]
  exact ha.bind fun x => pure (f x)

theorem explain {f : Failure → Failure} {a : Act σ α} (ha : Writes P a) :
    Writes P (a.explain f) := ha

theorem orMissing {default : α} {a : Act σ α} (ha : Writes P a) :
    Writes P (a.orMissing default) := by
  intro w
  have written := ha w
  rw [Act.orMissing, Call.answer_of]
  rcases heq : a.answer w with ⟨f | x, after⟩ <;> rw [heq] at written <;> exact written

/-- A session adds what its body writes, and a record if it could not be released. -/
theorem withSession {b : Backend σ} {body : Session → Act σ α} (hbody : ∀ s, Writes P (body s))
    (hrelease : ∀ f : Failure, P ⟨.warn, releaseMessage, [("err", f), ("backend", b.kind)]⟩) :
    Writes P (Act.withSession b body) := by
  intro w
  rw [answer_withSession, answer_call]
  rcases b.openSession.answer w.backend with ⟨f | s, opened⟩
  · exact ⟨⟨[], (List.append_nil _).symm, nofun⟩, rfl⟩
  · simp only
    obtain ⟨⟨records, hrecords, written⟩, observed⟩ := hbody s { w with backend := opened }
    generalize ((body s).answer { w with backend := opened }).2 = after at hrecords observed ⊢
    rw [World.journal_afterRelease, World.observed_afterRelease, hrecords, List.append_assoc]
    refine ⟨⟨_, rfl, List.forall_mem_append.mpr ⟨written, fun record hrecord => ?_⟩⟩, observed⟩
    obtain ⟨f, rfl⟩ := World.mem_releaseRecords hrecord
    exact hrelease f

end Writes

end Act

end InodeGateway
