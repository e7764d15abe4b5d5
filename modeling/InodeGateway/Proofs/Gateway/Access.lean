import InodeGateway.Proofs.Access
import InodeGateway.Proofs.Gateway.Making
import InodeGateway.Proofs.Memory.Rights

/-!
# Access by history

A gateway over a tree in memory is asked about access after any history: of requests, and of deeds
that were done with the tree past the gateway.  What it answers follows from the deeds that concern
the path; asking opens a session and changes nothing else.

## Main definitions

* `Gateway.History` — a gateway that was opened and used, with the deeds that were done meanwhile
* `Gateway.AnswersAccess` — what is answered about a path, and what that leaves

## Main statements

* `Gateway.checkAccess_granted`, `Gateway.checkAccess_refused` — one request, whether or not a
  failure is wanted
* `Gateway.History.answersAccess` — so it is after any history
-/

namespace InodeGateway

/-- One more session, which was opened and released again. -/
def Sessions.passed (p : Sessions) : Sessions := ⟨p.released ++ [true], p.active⟩

theorem Sessions.release_acquire (p : Sessions) : p.acquire.2.release p.acquire.1 = p.passed := by
  simp [acquire, release, passed, opened]

namespace Memory

variable {m : Memory} {p : Path} {s : Session}

/-- The same tree, while one more session is open. -/
def busy (m : Memory) : Memory := { m with sessions := m.sessions.acquire.2 }

/-- The same tree, after one more session. -/
def passed (m : Memory) : Memory := { m with sessions := m.sessions.passed }

theorem release_busy (m : Memory) :
    ((Memory.release m.sessions.acquire.1).answer m.busy).2 = m.passed := by
  rw [Memory.release, Call.answer_of,
    show m.busy.sessions.isReleased m.sessions.acquire.1 = false from m.sessions.isReleased_acquire,
    if_neg Bool.false_ne_true, passed, ← m.sessions.release_acquire]
  split <;> rfl

/-- Where a failure is wanted, an open session is not told the rights. -/
theorem answer_permits_failing {f : Failure} (wanted : m.checkFailure p = .error f)
    (hs : m.sessions.isReleased s = false) (right : Right) :
    (backend.permits s right p.toText).answer m = (.error f, m) := by
  refine (answer_within hs).trans ?_
  simp only [Path.ofText_toText, permissionsAt, wanted]
  rfl

end Memory

namespace Site

variable {ι α : Type} {B : Site Memory ι} {T : Inodes}

/-- The same backend, while one more session is open. -/
def busy (B : Site Memory ι) : Site Memory ι := { B with storage := B.storage.busy }

/-- The same backend, after one more session. -/
def passed (B : Site Memory ι) : Site Memory ι := { B with storage := B.storage.passed }

/-- This is the backend, and that is the table. -/
def Stands (B : Site Memory ι) (T : Inodes) : Assertion (Site Memory ι) := fun b t => b = B ∧ t = T

/-- What is found by a session that changes nothing is found in passing. -/
theorem session_passes {body : Session → Act (Site Memory ι) α} {Q : α → Prop} {F : Prop}
    (hbody : Act.Triple (B.busy.Stands T) (body B.storage.sessions.acquire.1)
      (fun x b t => B.busy.Stands T b t ∧ Q x) fun _ b t => B.busy.Stands T b t ∧ F) :
    Act.Triple (B.Stands T) (Act.withSession Memory.backend.beside body)
      (fun x b t => B.passed.Stands T b t ∧ Q x) fun _ b t => B.passed.Stands T b t ∧ F := by
  have opened : Act.Triple (B.Stands T) (Act.call (Memory.backend.beside : Backend _).openSession)
      (fun s b t => B.busy.Stands T b t ∧ s = B.storage.sessions.acquire.1) fun _ _ _ => False := by
    refine .call_ok ?_
    rintro _ _ ⟨rfl, rfl⟩
    exact ⟨_, _, rfl, ⟨rfl, rfl⟩, rfl⟩
  have released : ∀ {b t}, B.busy.Stands T b t → B.passed.Stands T
      (((Memory.backend.beside : Backend _).release B.storage.sessions.acquire.1).answer b).2
        t := by
    rintro _ _ ⟨rfl, rfl⟩
    exact ⟨congrArg (fun storage => { B with storage := storage }) B.storage.release_busy, rfl⟩
  have worked : ∀ s, Act.Triple (fun b t => B.busy.Stands T b t ∧ s = B.storage.sessions.acquire.1)
      (body s)
      (fun x b t => (B.busy.Stands T b t ∧ Q x) ∧ s = B.storage.sessions.acquire.1)
      fun _ b t => (B.busy.Stands T b t ∧ F) ∧ s = B.storage.sessions.acquire.1 := by
    refine fun s => .assuming ?_
    rintro rfl
    exact hbody.consequence (fun _ _ h => h) (fun _ _ _ h => ⟨h, rfl⟩) fun _ _ _ h => ⟨h, rfl⟩
  refine .withSession (opened.weaken_fails fun _ _ _ h => h.elim) worked ?_ ?_
  · rintro s x b t ⟨⟨hb, hx⟩, rfl⟩
    exact ⟨released hb, hx⟩
  · rintro s f b t ⟨⟨hb, hf⟩, rfl⟩
    exact ⟨released hb, hf⟩

end Site

namespace Gateway

variable {ι : Type} {identities : Identity.Registry ι} {permissions : PermissionModel}
  {rootPath p : Path} {h : Handle} {mask : Nat}

/-! ### One request -/

section Request

variable {B : Site Memory ι} {T : Inodes} (resolved : pathFor T h = .ok p)
  (acceptable : mask ≤ Mode.greatest)
include resolved acceptable

/-- What the backend says within a session decides; if it does not answer, the check has failed. -/
theorem checkAccess_triple {Q : Nat → Prop} {F : Prop}
    (probed : Act.Triple (B.busy.Stands T)
      (Access.probe Memory.backend.beside B.storage.sessions.acquire.1 p.toText
        (Num.ofNat ((Num.fin mask).low32 &&& Mode.user)))
      (fun bits b t => B.busy.Stands T b t ∧ Q bits) fun _ b t => B.busy.Stands T b t ∧ F) :
    Act.Triple (B.Stands T)
      ((besideTree identities permissions rootPath).checkAccess h (.fin mask))
      (fun bits b t => B.passed.Stands T b t ∧ Q bits)
      fun e b t => B.passed.Stands T b t ∧ F ∧ e.code? = some .ioFailure := by
  have restated : Act.Triple (B.Stands T)
      ((besideTree identities permissions rootPath).checkAccess h (.fin mask))
      (fun bits b t => B.passed.Stands T b t ∧ Q bits) fun e b t => ∃ f, e = restate f ∧
        B.passed.Stands T b t ∧ F ∧ ∃ x, f = (Refusal.accessCheck p.toText).because x := by
    refine run_restates (.check_bind ((Mode.check_eq_ok_iff .mask).mpr ⟨mask, acceptable, rfl⟩) ?_)
    refine .bind (M := fun q b t => B.Stands T b t ∧ q = p) (.look ?_) fun q => .assuming ?_
    · rintro b _ ⟨rfl, rfl⟩
      rw [resolved]
      exact ⟨fun q hq => ⟨⟨rfl, rfl⟩, (Except.ok.inj hq).symm⟩, nofun⟩
    rintro rfl
    refine .explain ((Site.session_passes probed).weaken_fails ?_)
    rintro x b t ⟨hb, hF⟩
    exact ⟨hb, hF, x, rfl⟩
  refine restated.weaken_fails ?_
  rintro e b t ⟨_, rfl, hb, hF, x, rfl⟩
  exact ⟨hb, hF, rfl⟩

/-- Where no failure is wanted, the rights decide. -/
theorem checkAccess_granted (calm : B.storage.failures.get? p = none) :
    Act.Triple (B.Stands T)
      ((besideTree identities permissions rootPath).checkAccess h (.fin mask))
      (fun bits b t => B.passed.Stands T b t ∧
        Access.Answers ((B.storage.overrides.get? p).getD {}).grants mask bits)
      fun _ _ _ => False := by
  have clear : B.storage.busy.checkFailure p = .ok () := by
    rw [Memory.checkFailure, show B.storage.busy.failures = B.storage.failures from rfl, calm]
  have told : ∀ right b t, B.busy.Stands T b t → ((Memory.backend.beside : Backend _).permits
      B.storage.sessions.acquire.1 right p.toText).answer b =
        (.ok (((B.storage.overrides.get? p).getD {}).grants right), b) := by
    rintro right _ _ ⟨rfl, -⟩
    exact congrArg (fun a : _ × Memory => (a.1, { B with storage := a.2 }))
      (Memory.answer_permits clear B.storage.sessions.isReleased_acquire right)
  have probed := Access.probe_granted told (Mode.asks_user acceptable)
  have checked : Act.Triple _ ((besideTree identities permissions rootPath).checkAccess h _) _ _ :=
    checkAccess_triple (F := False) resolved acceptable (probed.weaken_fails fun _ _ _ h => h.elim)
  exact checked.weaken_fails fun _ _ _ h => h.2.1

/-- Where a failure is wanted, only a mask that asks for no right is answered. -/
theorem checkAccess_refused (wanted : ∃ reason, B.storage.failures.get? p = some reason) :
    Act.Triple (B.Stands T)
      ((besideTree identities permissions rootPath).checkAccess h (.fin mask))
      (fun bits b t => B.passed.Stands T b t ∧ bits = 0 ∧ mask &&& Mode.user = 0)
      fun e b t => B.passed.Stands T b t ∧ mask &&& Mode.user ≠ 0 ∧
        e.code? = some .ioFailure := by
  obtain ⟨reason, hreason⟩ := wanted
  obtain ⟨f, fails⟩ : ∃ f, B.storage.busy.checkFailure p = .error f := by
    rw [Memory.checkFailure, show B.storage.busy.failures = B.storage.failures from rfl, hreason]
    exact ⟨_, rfl⟩
  have refused : ∀ right b t, B.busy.Stands T b t →
      ∃ f, ((Memory.backend.beside : Backend _).permits B.storage.sessions.acquire.1 right
        p.toText).answer b = (.error f, b) := by
    rintro right _ _ ⟨rfl, -⟩
    exact ⟨f, congrArg (fun a : _ × Memory => (a.1, { B with storage := a.2 }))
      (Memory.answer_permits_failing fails B.storage.sessions.isReleased_acquire right)⟩
  -- What the mask asks for is said by its own bits.
  have asked := Mode.asks_user acceptable
  refine checkAccess_triple resolved acceptable
    ((Access.probe_refused refused).consequence (fun _ _ h => h) ?_ ?_)
  · rintro bits b t ⟨hb, rfl, hnone⟩
    refine ⟨hb, rfl, Decidable.not_not.mp fun hne => ?_⟩
    obtain ⟨right, hright⟩ := Mode.and_user_ne_zero.mp hne
    exact of_decide_eq_false ((asked right).symm.trans (hnone right)) hright
  · rintro _ b t ⟨hb, right, hright⟩
    have hhas := of_decide_eq_true ((asked right).symm.trans hright)
    exact ⟨hb, Mode.and_user_ne_zero.mpr ⟨right, hhas⟩⟩

end Request

/-! ### Any history -/

/-- The world after something was done with the tree past the gateway. -/
def afterDeed (w : World (Site Memory ι)) (d : Memory.Deed) : World (Site Memory ι) :=
  { w with backend := { w.backend with storage := (d.perform.answer w.backend.storage).2 } }

/-- A gateway over a tree in memory, and the world that it was brought to, with all deeds that were
done with the tree: before the gateway was opened, and past it from then on. -/
inductive History (g : Gateway (Site Memory ι)) :
    List Memory.Deed → World (Site Memory ι) → Prop
  | opened {identities : Identity.Registry ι} {permissions : PermissionModel} {root : String}
      {done : List Memory.Deed} {start w : World (Site Memory ι)}
      (begun : Memory.History done start.backend.storage)
      (opens : (establish Memory.backend.beside identities.beside permissions root).answer start =
        (.ok g, w)) : History g done w
  /-- A client asks. -/
  | requested {done : List Memory.Deed} {w : World (Site Memory ι)} (history : History g done w)
      (r : Request) : History g done (g.after w r)
  | performed {done : List Memory.Deed} {w : World (Site Memory ι)} (history : History g done w)
      (d : Memory.Deed) : History g (done ++ d.done w.backend.storage) (afterDeed w d)
  /-- A pair is written straight into the table. -/
  | planted {done : List Memory.Deed} {w : World (Site Memory ι)} (history : History g done w)
      (h : Handle) (text : String) : History g done (g.afterStep w (.plant h text))

/-- Those of some deeds that are done, one after another. -/
def deedsDone : World (Site Memory ι) → List Memory.Deed → List Memory.Deed
  | _, [] => []
  | w, d :: rest => d.done w.backend.storage ++ deedsDone (afterDeed w d) rest

/-- What holds of the deeds that were done goes on to hold, if each deed keeps it. -/
theorem deedsDone_induction {P : List Memory.Deed → World (Site Memory ι) → Prop}
    (step : ∀ {done w} (d : Memory.Deed), P done w →
      P (done ++ d.done w.backend.storage) (afterDeed w d))
    {done : List Memory.Deed} {w : World (Site Memory ι)} (h : P done w)
    (deeds : List Memory.Deed) : P (done ++ deedsDone w deeds) (deeds.foldl afterDeed w) := by
  induction deeds generalizing done w with
  | nil =>
    rw [deedsDone, List.append_nil]
    exact h
  | cons d rest ih =>
    rw [deedsDone, ← List.append_assoc]
    exact ih (step d h)

/-- What is answered about access. -/
def access (g : Gateway (Site Memory ι)) (w : World (Site Memory ι)) (h : Handle) (mask : Nat) :
    Except Failure Nat :=
  ((g.checkAccess h (.fin mask)).answer w).1

/-- What is answered about access to the path of a handle, after deeds, and what that leaves. -/
structure AnswersAccess (g : Gateway (Site Memory ι)) (done : List Memory.Deed)
    (w : World (Site Memory ι)) (h : Handle) (p : Path) : Prop where
  /-- Where no failure is wanted, the rights decide. -/
  granted : ¬ Memory.WantsFailure done p → ∀ mask ≤ Mode.greatest, ∃ bits,
    g.access w h mask = .ok bits ∧ Access.Answers (Memory.rightAfter done p) mask bits
  /-- Where a failure is wanted, only a mask that asks for no right is answered. -/
  failing : Memory.WantsFailure done p → ∀ mask ≤ Mode.greatest,
    (mask &&& Mode.user ≠ 0 → ∃ e, g.access w h mask = .error e ∧ e.code? = some .ioFailure) ∧
      (mask &&& Mode.user = 0 → g.access w h mask = .ok 0)
  /-- No bit is answered that was not asked for. -/
  subset : ∀ mask ≤ Mode.greatest, ∀ bits, g.access w h mask = .ok bits → bits &&& mask = bits
  /-- Who asks for more is answered more. -/
  mono : ∀ mask ≤ Mode.greatest, ∀ mask' ≤ Mode.greatest, ∀ bits bits', mask &&& mask' = mask →
    g.access w h mask = .ok bits → g.access w h mask' = .ok bits' → bits &&& bits' = bits
  /-- The table stays as it is, and so does the backend, but for one more session that was released
  again. -/
  still : ∀ mask ≤ Mode.greatest, ((g.checkAccess h (.fin mask)).answer w).2.inodes = w.inodes ∧
    ((g.checkAccess h (.fin mask)).answer w).2.backend = w.backend.passed
  /-- After any other history in which the same was done about the path, another gateway answers the
  same, whatever was done about other paths. -/
  elsewhere : ∀ {κ : Type} {g' : Gateway (Site Memory κ)} {done' : List Memory.Deed}
    {w' : World (Site Memory κ)} {h' : Handle}, g'.History done' w' →
      pathFor w'.inodes h' = .ok p →
      done'.filter (Memory.Deed.concerns p) = done.filter (Memory.Deed.concerns p) →
      ∀ mask ≤ Mode.greatest,
        (g'.access w' h' mask).mapError Failure.code? = (g.access w h mask).mapError Failure.code?

namespace History

variable {g : Gateway (Site Memory ι)} {done : List Memory.Deed} {w : World (Site Memory ι)}

/-- Requests neither set rights nor want failures. -/
theorem preserves_recordedAt (done : List Memory.Deed) (p : Path) :
    (besideTree identities permissions rootPath).Preserves
      fun b => Memory.RecordedAt done b.storage p :=
  preserves_besideTree (Q := fun m => Memory.RecordedAt done m p)
    (fun _ _ recorded => recorded.congr rfl)
    fun m q kind _ recorded => recorded.congr (m.marksAt_insert p q kind 0 m.owner)

/-- After any history the tree says of every path what the deeds say. -/
theorem recorded (history : g.History done w) :
    (∃ identities permissions rootPath, g = besideTree identities permissions rootPath) ∧
      ∀ p, Memory.RecordedAt done w.backend.storage p := by
  induction history with
  | @opened identities permissions root done start w begun opens =>
    have kept : ∀ p rootPath, (besideTree identities permissions rootPath).Preserves
        fun b => Memory.RecordedAt done b.storage p := fun p _ => preserves_recordedAt done p
    obtain ⟨⟨hbackend, hidentities⟩, -⟩ :=
      Preserves.establish (kept .root) opens (begun.recordedAt .root)
    refine ⟨⟨identities, g.permissions, g.rootPath, ?_⟩, fun p =>
      (Preserves.establish (kept p) opens (begun.recordedAt p)).2⟩
    rw [besideTree, ← hbackend, ← hidentities]
  | requested history r ih =>
    obtain ⟨⟨identities, permissions, rootPath, rfl⟩, recorded⟩ := ih
    exact ⟨⟨_, _, _, rfl⟩, fun p => Preserves.after (preserves_recordedAt _ p) (recorded p) r⟩
  | performed history d ih => exact ⟨ih.1, fun p => (ih.2 p).perform d⟩
  | planted history h text ih => exact ih

/-- A history goes on with deeds, one after another. -/
theorem performedAll (history : g.History done w) (deeds : List Memory.Deed) :
    g.History (done ++ deedsDone w deeds) (deeds.foldl afterDeed w) :=
  deedsDone_induction (fun d history => history.performed d) history deeds

variable (history : g.History done w) (resolved : pathFor w.inodes h = .ok p)
  (acceptable : mask ≤ Mode.greatest)
include history resolved acceptable

theorem access_granted (calm : ¬ Memory.WantsFailure done p) :
    (∃ bits, g.access w h mask = .ok bits ∧ Access.Answers (Memory.rightAfter done p) mask bits) ∧
      w.backend.passed.Stands w.inodes ((g.checkAccess h (.fin mask)).answer w).2.backend
        ((g.checkAccess h (.fin mask)).answer w).2.inodes := by
  obtain ⟨⟨identities, permissions, rootPath, rfl⟩, recorded⟩ := history.recorded
  have unwanted : w.backend.storage.failures.get? p = none :=
    Option.eq_none_iff_forall_ne_some.mpr fun reason hreason =>
      calm ((recorded p).failure.mp ⟨reason, hreason⟩)
  have checked : Act.Triple _
      ((besideTree identities permissions rootPath).checkAccess h (.fin mask)) _ _ :=
    checkAccess_granted resolved acceptable unwanted
  rcases checked.outcome ⟨rfl, rfl⟩ with ⟨bits, hbits, stands, answers⟩ | ⟨_, -, absurd⟩
  · rw [funext (recorded p).rights] at answers
    exact ⟨⟨bits, hbits, answers⟩, stands⟩
  · exact absurd.elim

theorem access_failing (wanted : Memory.WantsFailure done p) :
    ((mask &&& Mode.user ≠ 0 ∧ ∃ e, g.access w h mask = .error e ∧ e.code? = some .ioFailure) ∨
      (mask &&& Mode.user = 0 ∧ g.access w h mask = .ok 0)) ∧
      w.backend.passed.Stands w.inodes ((g.checkAccess h (.fin mask)).answer w).2.backend
        ((g.checkAccess h (.fin mask)).answer w).2.inodes := by
  obtain ⟨⟨identities, permissions, rootPath, rfl⟩, recorded⟩ := history.recorded
  have checked : Act.Triple _
      ((besideTree identities permissions rootPath).checkAccess h (.fin mask)) _ _ :=
    checkAccess_refused resolved acceptable ((recorded p).failure.mpr wanted)
  rcases checked.outcome ⟨rfl, rfl⟩ with ⟨bits, hbits, stands, rfl, hnone⟩ |
    ⟨e, he, stands, hasks, hcode⟩
  · exact ⟨.inr ⟨hnone, hbits⟩, stands⟩
  · exact ⟨.inl ⟨hasks, e, he, hcode⟩, stands⟩

end History

section Any

variable {g : Gateway (Site Memory ι)} {done : List Memory.Deed} {w : World (Site Memory ι)}
  (history : g.History done w) (resolved : pathFor w.inodes h = .ok p)
include history resolved

/-- Whatever is answered is answered for the same rights: where a failure is wanted, for none. -/
theorem History.access_answers : ∃ rights, ∀ mask ≤ Mode.greatest, ∀ bits,
    g.access w h mask = .ok bits → Access.Answers rights mask bits := by
  by_cases wanted : Memory.WantsFailure done p
  · refine ⟨fun _ => false, fun mask acceptable bits hbits => ?_⟩
    rcases (history.access_failing resolved acceptable wanted).1 with
      ⟨-, e, he, -⟩ | ⟨-, hzero⟩
    · rw [he] at hbits
      cases hbits
    · rw [hzero] at hbits
      cases hbits
      exact .none mask
  · refine ⟨Memory.rightAfter done p, fun mask acceptable bits hbits => ?_⟩
    obtain ⟨⟨bits', hbits', answers⟩, -⟩ := history.access_granted resolved acceptable wanted
    rw [hbits'] at hbits
    cases hbits
    exact answers

/-- Deeds that do not concern the path do not matter. -/
theorem History.access_elsewhere {κ : Type} {g' : Gateway (Site Memory κ)}
    {done' : List Memory.Deed} {w' : World (Site Memory κ)} {h' : Handle}
    (history' : g'.History done' w') (resolved' : pathFor w'.inodes h' = .ok p)
    (same : done'.filter (Memory.Deed.concerns p) = done.filter (Memory.Deed.concerns p))
    (acceptable : mask ≤ Mode.greatest) :
    (g'.access w' h' mask).mapError Failure.code? = (g.access w h mask).mapError Failure.code? := by
  have wants : Memory.WantsFailure done' p ↔ Memory.WantsFailure done p := by
    rw [← Memory.wantsFailure_filter, same, Memory.wantsFailure_filter]
  by_cases wanted : Memory.WantsFailure done p
  · rcases (history.access_failing resolved acceptable wanted).1 with
      ⟨hasks, e, he, hcode⟩ | ⟨hnone, hzero⟩ <;>
    rcases (history'.access_failing resolved' acceptable (wants.mpr wanted)).1 with
      ⟨hasks', e', he', hcode'⟩ | ⟨hnone', hzero'⟩
    · rw [he, he', Except.mapError, Except.mapError, hcode, hcode']
    · exact absurd hnone' hasks
    · exact absurd hnone hasks'
    · rw [hzero, hzero']
  · obtain ⟨⟨bits, hbits, answers⟩, -⟩ := history.access_granted resolved acceptable wanted
    obtain ⟨⟨bits', hbits', answers'⟩, -⟩ :=
      history'.access_granted resolved' acceptable (wanted ∘ wants.mp)
    have rights : Memory.rightAfter done' p = Memory.rightAfter done p := by
      funext right
      rw [← Memory.rightAfter_filter, same, Memory.rightAfter_filter]
    rw [rights] at answers'
    rw [hbits, hbits', answers.unique answers']

/-- Whatever happened to a gateway over a tree in memory, what it answers about access follows from
the deeds that concern the path. -/
theorem History.answersAccess : g.AnswersAccess done w h p := by
  obtain ⟨rights, answers⟩ := history.access_answers resolved
  refine ⟨fun calm mask acceptable => ?_, fun wanted mask acceptable => ?_, ?_, ?_, ?_, ?_⟩
  · exact (history.access_granted resolved acceptable calm).1
  · rcases (history.access_failing resolved acceptable wanted).1 with ⟨hasks, he⟩ | ⟨hnone, hzero⟩
    · exact ⟨fun _ => he, fun hnone => absurd hnone hasks⟩
    · exact ⟨fun hasks => absurd hnone hasks, fun _ => hzero⟩
  · exact fun mask acceptable bits hbits => (answers mask acceptable bits hbits).subset
  · intro mask acceptable mask' acceptable' bits bits' part hbits hbits'
    exact (answers mask acceptable bits hbits).mono (answers mask' acceptable' bits' hbits') part
  · intro mask acceptable
    by_cases wanted : Memory.WantsFailure done p
    · exact (history.access_failing resolved acceptable wanted).2.symm
    · exact (history.access_granted resolved acceptable wanted).2.symm
  · intro κ g' done' w' h' history' resolved' same mask acceptable
    exact history.access_elsewhere resolved history' resolved' same acceptable

end Any

section Examples

/-- The right to read is withdrawn.  Meanwhile a failure is wanted, so that another change fails;
then failures are cleared, and one is wanted elsewhere. -/
def withdrawing : List Memory.Deed :=
  [.setPermissions "/" { read := some false }, .failOn "//" .io,
    .setPermissions "/." { write := some false }, .clearFailures, .failOn "/a" .io]

/-- Reading is granted only along with writing, for the change that failed does not count.  When a
failure is wanted at the path itself, only masks that ask for no right are answered. -/
theorem besideMemory_answersAccess :
    let v := withdrawing.foldl afterDeed besideOpen
    let v' := afterDeed v (.failOn "/./" .io)
    besideMemory.AnswersAccess (withdrawing.eraseIdx 2) v 1 .root ∧
    (besideMemory.access v 1 0o400).toOption = some 0 ∧
    (besideMemory.access v 1 0o4600).toOption = some 0o600 ∧
    besideMemory.AnswersAccess (withdrawing.eraseIdx 2 ++ [.failOn "/./" .io]) v' 1 .root ∧
    (besideMemory.access v' 1 0o4600).toOption = none ∧
    (besideMemory.access v' 1 0o4000).toOption = some 0 := by
  intro v v'
  have begun : Memory.History [] besideNew.backend.storage := @Memory.History.begun _ _ _ [] _ rfl
  have opens : (establish besideMemory.backend besideMemory.identities besideMemory.permissions
    "/").answer besideNew = (.ok besideMemory, besideOpen) := rfl
  have counted : deedsDone besideOpen withdrawing = withdrawing.eraseIdx 2 := by decide +kernel
  have history : besideMemory.History (withdrawing.eraseIdx 2) v := by
    rw [← counted]
    exact (History.opened begun opens).performedAll withdrawing
  have failed : (Memory.Deed.failOn "/./" .io).done v.backend.storage = [.failOn "/./" .io] := by
    decide +kernel
  have history' : besideMemory.History (withdrawing.eraseIdx 2 ++ [.failOn "/./" .io]) v' := by
    rw [← failed]
    exact history.performed _
  have resolved : pathFor v.inodes 1 = .ok .root := ok_of_toOption (by decide +kernel)
  exact ⟨history.answersAccess resolved, by decide +kernel, by decide +kernel,
    history'.answersAccess resolved, by decide +kernel, by decide +kernel⟩

end Examples

end Gateway

end InodeGateway
