import InodeGateway.Backend.Storage
import InodeGateway.Proofs.Gateway.Creation
import InodeGateway.Proofs.Gateway.Mirror

/-!
# A storage that holds a tree in memory

A storage in memory answers what the tree in it answers, and so does a gateway over it.

## Main definitions

* `Storage.Holds` — the worlds of a tree and of the storage that holds it
* `Gateway.overStorage` — a gateway over a storage

## Main statements

* `Gateway.mirrors_overStorage` — a gateway over a tree and one over the storage that holds it
-/

namespace InodeGateway

variable {ι α : Type}

/-- The second world is the first one, with the tree held in a storage. -/
def Storage.Holds (w : World (Site Memory ι)) (w' : World Storage) : Prop :=
  w' = ⟨.memory w.backend.storage, w.inodes, w.journal, w.observed⟩

namespace Storage

theorem dispatch_agree (c : Call Memory α) (c' : Call Local α) :
    Act.Agree (Holds (ι := ι)) (Act.call (Site.storing c)) (Act.call (dispatch c c')) := by
  rintro w _ rfl
  exact ⟨rfl, rfl⟩

theorem alongside_holds : Act.Alongside (Holds (ι := ι)) where
  inodes := by rintro w _ rfl; rfl
  setInodes := by rintro w _ rfl t; rfl
  note := by rintro w _ rfl level message fields; rfl
  observe := by rintro w _ rfl operation outcome; rfl

end Storage

namespace Gateway

def overStorage (directory : Identity.Directory) (permissions : PermissionModel)
    (rootPath : Path) : Gateway Storage :=
  ⟨Storage.backend Memory.backend.kind, directory, permissions, rootPath⟩

/-- A gateway over a tree in memory and one over the storage that holds it mirror each other. -/
theorem mirrors_overStorage (directory : Identity.Directory) (permissions : PermissionModel)
    (rootPath : Path) :
    (besideTree (directory : Identity.Registry ι) permissions rootPath).Mirrors
      (overStorage directory permissions rootPath) Storage.Holds where
  alongside := Storage.alongside_holds
  permissions := rfl
  rootPath := rfl
  openSession := Storage.dispatch_agree Memory.openSession Local.openSession
  stat s path := Storage.dispatch_agree _ _
  permits s right path := Storage.dispatch_agree _ _
  create s path kind := Storage.dispatch_agree _ _
  list s path := Storage.dispatch_agree _ _
  space s := Storage.dispatch_agree _ _
  release := by
    rintro s w _ rfl
    have told :
        (besideTree (directory : Identity.Registry ι) permissions rootPath).backend.release s =
      Site.storing (Memory.release s) := rfl
    have told' : (overStorage directory permissions rootPath).backend.release s =
      Storage.dispatch (Memory.release s) (Local.release s) := rfl
    rw [Storage.Holds, World.afterRelease, World.afterRelease, told, told']
    simp only [Act.answer_call, Site.storing, Call.answer_onPart, Storage.dispatch, Call.answer_of]
    rcases (Memory.release s).answer w.backend.storage with ⟨f | _, after⟩ <;> rfl
  identity owner := by
    rintro w _ rfl
    exact ⟨rfl, rfl⟩

end Gateway

end InodeGateway
