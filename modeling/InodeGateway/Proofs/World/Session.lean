import InodeGateway.World

/-!
# What a session leaves

A session is released after its body, whatever became of that.  The release may fail, and then it is
noted; it changes the backend and nothing else.

## Main definitions

* `World.afterRelease` — the world after a session was released
* `World.releaseRecords` — what is noted about the release

## Main statements

* `Act.answer_withSession` — the outcome of a session is that of its body
-/

namespace InodeGateway

variable {σ α : Type}

namespace World

/-- The world after a session was released; a failure to release it is noted. -/
def afterRelease (b : Backend σ) (s : Session) (w : World σ) : World σ :=
  match (Act.call (b.release s)).answer w with
  | (.ok (), released) => released
  | (.error failure, released) =>
    released.note .warn Act.releaseMessage [("err", failure), ("backend", b.kind)]

/-- What is noted about a session that could not be released. -/
def releaseRecords (b : Backend σ) (s : Session) (w : World σ) : List Journal.Record :=
  match ((b.release s).answer w.backend).1 with
  | .ok () => []
  | .error f => [⟨.warn, Act.releaseMessage, [("err", f), ("backend", b.kind)]⟩]

theorem mem_releaseRecords {b : Backend σ} {s : Session} {w : World σ} {record : Journal.Record}
    (h : record ∈ releaseRecords b s w) :
    ∃ f : Failure, record = ⟨.warn, Act.releaseMessage, [("err", f), ("backend", b.kind)]⟩ := by
  unfold releaseRecords at h
  split at h
  · cases h
  · exact ⟨_, List.mem_singleton.mp h⟩

variable (b : Backend σ) (s : Session) (w : World σ)

@[simp] theorem backend_afterRelease :
    (w.afterRelease b s).backend = ((b.release s).answer w.backend).2 := by
  unfold afterRelease
  rw [Act.answer_call]
  rcases (b.release s).answer w.backend with ⟨f | _, released⟩ <;> rfl

@[simp] theorem inodes_afterRelease : (w.afterRelease b s).inodes = w.inodes := by
  unfold afterRelease
  rw [Act.answer_call]
  rcases (b.release s).answer w.backend with ⟨f | _, released⟩ <;> rfl

@[simp] theorem observed_afterRelease : (w.afterRelease b s).observed = w.observed := by
  unfold afterRelease
  rw [Act.answer_call]
  rcases (b.release s).answer w.backend with ⟨f | _, released⟩ <;> rfl

@[simp] theorem journal_afterRelease :
    (w.afterRelease b s).journal = w.journal ++ w.releaseRecords b s := by
  unfold afterRelease releaseRecords
  rw [Act.answer_call]
  rcases (b.release s).answer w.backend with ⟨f | _, released⟩
  · rfl
  · exact (List.append_nil _).symm

end World

/-- If a session opens, its outcome is that of the body, and the session is released after it. -/
theorem Act.answer_withSession (b : Backend σ) (body : Session → Act σ α) (w : World σ) :
    (withSession b body).answer w =
      match (call b.openSession).answer w with
      | (.error failure, opened) => (.error failure, opened)
      | (.ok s, opened) =>
        (((body s).answer opened).1, World.afterRelease b s ((body s).answer opened).2) := by
  rw [withSession, Call.answer_of]
  rcases hs : (call b.openSession).answer w with ⟨f | s, opened⟩
  · rfl
  · simp only [World.afterRelease]
    rcases (call (b.release s)).answer ((body s).answer opened).2 with ⟨f | _, released⟩ <;> rfl

end InodeGateway
