import InodeGateway.Attributes
import InodeGateway.Proofs.World.Triple

/-!
# Attributes from descriptions

The user id of an owner depends on the state of the registry that is asked, and on nothing else.  A
directory of identities gives an owner the same answer every time, so that the attributes of an
object depend on its description alone.

## Main definitions

* `Attributes.shown` — the attributes of an object whose owner has a user id

## Main statements

* `Attributes.answer_ofMetadata` — the attributes, and what finding them leaves
* `Attributes.answer_askUserId` — asking a directory changes nothing
* `Attributes.userIdOf_of_resolve` — the user id of an owner for whom a text stands
* `Attributes.ofMetadata_triple` — the attributes are those shown for the owner's user id
-/

namespace InodeGateway.Attributes

variable {σ : Type}

/-- The attributes that are shown under a handle for a description and a user id. -/
def shown (permissions : PermissionModel) (h : Handle) (m : Metadata) (userId : Nat) :
    Attributes where
  inode := h
  kind := m.kind
  mode := permissions m
  userId := userId
  size := m.sizeBytes
  createdAt := m.createdAt
  modifiedAt := m.modifiedAt

/-- Asking for a user id changes the backend's state and nothing else, and depends on nothing
else. -/
theorem answer_askUserId_eq (identities : Identity.Registry σ) (m : Metadata) (w : World σ) :
    (askUserId identities m).answer w =
      (((askUserId identities m).answer { backend := w.backend }).1,
        { w with backend :=
          ((askUserId identities m).answer { backend := w.backend }).2.backend }) := by
  simp only [askUserId, Call.answer_bind, Act.answer_explain, Act.answer_call]
  rcases (identities.resolve (Identity.owner m.ownerName m.ownerZone)).answer w.backend with
    ⟨f | _ | text, y⟩
  · rfl
  · rfl
  · rfl

theorem answer_ofMetadata (identities : Identity.Registry σ) (permissions : PermissionModel)
    (h : Handle) (m : Metadata) (w : World σ) :
    (ofMetadata identities permissions h m).answer w =
      match (askUserId identities m).answer { backend := w.backend } with
      | (.ok id, u) => (.ok (shown permissions h m id),
          ({ w with backend := u.backend }).note .trace madeMessage
            [("path", m.path), ("handle", h.toText)])
      | (.error f, u) => (.error f, { w with backend := u.backend }) := by
  rw [ofMetadata, Call.answer_bind, answer_askUserId_eq]
  rcases (askUserId identities m).answer { backend := w.backend } with ⟨f | id, u⟩
  · rfl
  · rfl

/-- Whoever asks a directory in whatever world, the user id is the same. -/
theorem answer_askUserId (directory : Identity.Directory) (m : Metadata) (w : World σ) :
    (askUserId (directory : Identity.Registry σ) m).answer w = (userIdOf directory m, w) := by
  have asked : ∀ {τ : Type} (w : World τ),
      (askUserId (directory : Identity.Registry τ) m).answer w =
        (match directory.resolve (Identity.owner m.ownerName m.ownerZone) with
          | .error f => .error
              ((Refusal.identityLookup (Identity.owner m.ownerName m.ownerZone)).because f)
          | .ok none => .error (Refusal.noIdentity (Identity.owner m.ownerName m.ownerZone)).failure
          | .ok (some text) =>
            (Identity.userId (Identity.owner m.ownerName m.ownerZone) text).mapError
              Refusal.failure, w) := by
    intro τ w
    unfold askUserId Identity.Directory.registry
    simp only [Call.answer_bind, Act.answer_explain, Act.answer_call, Call.answer_read]
    cases directory.resolve (Identity.owner m.ownerName m.ownerZone) with
    | error f => rfl
    | ok text => cases text <;> rfl
  rw [userIdOf, asked, asked]

/-- Only what a directory says of the owner matters. -/
theorem userIdOf_congr {directory directory' : Identity.Directory} {m : Metadata}
    (same : directory.resolve (Identity.owner m.ownerName m.ownerZone) =
      directory'.resolve (Identity.owner m.ownerName m.ownerZone)) :
    userIdOf directory m = userIdOf directory' m := by
  simp only [userIdOf, askUserId, Call.answer_bind, Act.answer_explain, Act.answer_call,
    Identity.Directory.registry, Call.answer_read, same]

/-- If a text stands for the owner, it is read as the user id. -/
theorem userIdOf_of_some {directory : Identity.Directory} {m : Metadata} {text : String}
    (hresolve : directory.resolve (Identity.owner m.ownerName m.ownerZone) = .ok (some text)) :
    userIdOf directory m =
      (Identity.userId (Identity.owner m.ownerName m.ownerZone) text).mapError
        Refusal.failure := by
  rw [userIdOf, askUserId]
  simp only [Call.answer_bind, Act.answer_explain, Act.answer_call, Identity.Directory.registry,
    Call.answer_read, hresolve]
  rfl

theorem userIdOf_of_none {directory : Identity.Directory} {m : Metadata}
    (hresolve : directory.resolve (Identity.owner m.ownerName m.ownerZone) = .ok none) :
    userIdOf directory m =
      .error (Refusal.noIdentity (Identity.owner m.ownerName m.ownerZone)).failure := by
  rw [userIdOf, askUserId]
  simp only [Call.answer_bind, Act.answer_explain, Act.answer_call, Identity.Directory.registry,
    Call.answer_read, hresolve]
  rfl

/-- An owner for whom a text stands has the user id that the text spells. -/
theorem userIdOf_of_resolve {directory : Identity.Directory} {m : Metadata} {text : String}
    {id : Nat}
    (hresolve : directory.resolve (Identity.owner m.ownerName m.ownerZone) = .ok (some text))
    (hid : Identity.userId (Identity.owner m.ownerName m.ownerZone) text = .ok id) :
    userIdOf directory m = .ok id := by
  rw [userIdOf_of_some hresolve, hid]
  rfl

/-- The attributes are those shown for the user id of the owner; if there is none, that is the
failure. -/
theorem ofMetadata_triple {pre : Assertion σ} (directory : Identity.Directory)
    (permissions : PermissionModel) (h : Handle) (m : Metadata) :
    Act.Triple pre (ofMetadata (directory : Identity.Registry σ) permissions h m)
      (fun a b t => (userIdOf directory m = .ok a.userId ∧ a = shown permissions h m a.userId) ∧
        pre b t)
      (fun f b t => userIdOf directory m = .error f ∧ pre b t) := by
  unfold ofMetadata
  refine .bind (M := fun id b t => userIdOf directory m = .ok id ∧ pre b t) ?_ fun id => ?_
  · intro w hw
    rw [answer_askUserId]
    cases hid : userIdOf directory m with
    | error f => exact ⟨rfl, hw⟩
    | ok id => exact ⟨rfl, hw⟩
  · refine .bind (.note _ _ _) fun _ => .pure ?_
    rintro b t ⟨hid, hb⟩
    exact ⟨⟨hid, rfl⟩, hb⟩

end InodeGateway.Attributes
