import InodeGateway.Proofs.Gateway.Access
import InodeGateway.Proofs.Memory.Space

/-!
# Space over histories

A gateway over a tree in memory is asked for the space of its backend.  What is in use and what is
free make up the capacity, whatever was placed in the tree before; and no request of a client
changes these numbers, for what is made through the gateway is empty.

## Main definitions

* `Gateway.Chronicle` — a gateway that was opened and used, with the deeds that were done meanwhile
* `Statistics.Balances` — what is used and what is free make up the whole

## Main statements

* `Gateway.statistics_passes` — asking once
* `Gateway.Chronicle.tallies` — the sizes after any history
* `Gateway.Chronicle.conserves` — the numbers that are answered, and that requests keep them
-/

namespace InodeGateway

/-- There is so much space in total, and so much of it is in use; the rest is free. -/
structure Statistics.Balances (s : Statistics) (total inUse : Nat) : Prop where
  totalBytes : s.totalBytes = .fin total
  usedBytes : s.usedBytes = .fin inUse
  freeBytes : s.freeBytes = .fin (total - inUse : Nat)
  sum : s.usedBytes.add s.freeBytes = s.totalBytes

/-- No more is told to be in use than there is. -/
theorem Statistics.balances {s : Statistics} {total placed : Nat} (small : total ≤ Num.exactLimit)
    (htotal : s.totalBytes = .fin total) (hfree : s.freeBytes = .fin (total - placed : Nat)) :
    s.Balances total (min total placed) := by
  have hused : s.usedBytes = .fin (min total placed : Nat) := by
    have twice : total - (total - placed) = min total placed := by omega
    rw [usedBytes, htotal, hfree, Num.max_zero_sub_natCast small (by omega), twice]
  have rest : total - placed = total - min total placed := by omega
  have whole : min total placed + (total - placed) = total := by omega
  refine ⟨htotal, hused, by rw [hfree, rest], ?_⟩
  rw [hused, hfree, htotal, Num.add_natCast (by omega), whole]

namespace Gateway

variable {ι : Type} {identities : Identity.Registry ι} {permissions : PermissionModel}
  {rootPath p : Path} {capacityBytes : Num}

/-- The space is told within a session that changes nothing else. -/
theorem statistics_passes (B : Site Memory ι) (T : Inodes) :
    Act.Triple (B.Stands T) (besideTree identities permissions rootPath).statistics
      (fun s b t => B.passed.Stands T b t ∧
        s = ⟨B.storage.space.totalBytes, B.storage.space.freeBytes, T.size⟩)
      fun _ _ _ => False := by
  have told : Act.Triple (B.busy.Stands T)
      (Act.call (Site.storing (Memory.spaceOf B.storage.sessions.acquire.1)))
      (fun c b t => B.busy.Stands T b t ∧ c = B.storage.space)
      fun _ b t => B.busy.Stands T b t ∧ False := by
    refine .call_ok ?_
    rintro _ _ ⟨rfl, rfl⟩
    have answered := Memory.answer_within (f := fun m => (.ok m.space, m))
      (m := B.storage.busy) B.storage.sessions.isReleased_acquire
    exact ⟨_, _, congrArg (fun a : _ × Memory => (a.1, { B with storage := a.2 })) answered,
      ⟨rfl, rfl⟩, rfl⟩
  refine run_triple (fun _ _ _ h => h) ?_
  refine .bind (M := fun c b t => B.passed.Stands T b t ∧ c = B.storage.space)
    ((Site.session_passes told).weaken_fails fun _ _ _ h => h.2) fun c => .assuming ?_
  rintro rfl
  refine .bind (M := fun used b t => B.passed.Stands T b t ∧ used = T.size) (.look ?_)
    fun used => .pure ?_
  · rintro b _ ⟨rfl, rfl⟩
    exact ⟨fun used hused => ⟨⟨rfl, rfl⟩, (Except.ok.inj hused).symm⟩, nofun⟩
  · rintro b t ⟨stands, rfl⟩
    exact ⟨stands, rfl⟩

/-- A gateway over a tree of this capacity, and the world that it was brought to, with all deeds
that were done with the tree: before the gateway was opened, and past it from then on. -/
inductive Chronicle (capacityBytes : Num) (g : Gateway (Site Memory ι)) :
    List Memory.Deed → World (Site Memory ι) → Prop
  | opened {identities : Identity.Registry ι} {permissions : PermissionModel} {root : String}
      {done : List Memory.Deed} {start w : World (Site Memory ι)}
      (begun : Memory.Chronicle capacityBytes done start.backend.storage)
      (opens : (establish Memory.backend.beside identities.beside permissions root).answer start =
        (.ok g, w)) : Chronicle capacityBytes g done w
  /-- A client asks. -/
  | requested {done : List Memory.Deed} {w : World (Site Memory ι)}
      (chronicle : Chronicle capacityBytes g done w) (r : Request) :
      Chronicle capacityBytes g done (g.after w r)
  | performed {done : List Memory.Deed} {w : World (Site Memory ι)}
      (chronicle : Chronicle capacityBytes g done w) (d : Memory.Deed) :
      Chronicle capacityBytes g (done ++ d.done w.backend.storage) (afterDeed w d)
  /-- A pair is written straight into the table. -/
  | planted {done : List Memory.Deed} {w : World (Site Memory ι)}
      (chronicle : Chronicle capacityBytes g done w) (h : Handle) (text : String) :
      Chronicle capacityBytes g done (g.afterStep w (.plant h text))
  /-- The clock goes on, and so does whatever is asked about identities. -/
  | passed {done : List Memory.Deed} {w : World (Site Memory ι)}
      (chronicle : Chronicle capacityBytes g done w) (now : Instant) (registry : ι) :
      Chronicle capacityBytes g done { w with backend := { w.backend with
        storage := { w.backend.storage with now := now }, registry := registry } }

namespace Chronicle

variable {g : Gateway (Site Memory ι)} {done : List Memory.Deed} {w : World (Site Memory ι)}

/-- What is made through the gateway is empty. -/
theorem preserves_tallies (done : List Memory.Deed) :
    (besideTree identities permissions rootPath).Preserves
      fun b => Memory.Tallies capacityBytes done b.storage :=
  preserves_besideTree (Q := Memory.Tallies capacityBytes done)
    (fun _ _ tallies => tallies.congr rfl rfl)
    fun m _ kind admitted tallies =>
      tallies.insert_zero (Memory.admits_ok admitted).1 kind m.owner

/-- After any history the sizes in the tree are those that follow from the deeds. -/
theorem tallies (chronicle : g.Chronicle capacityBytes done w) :
    (∃ identities permissions rootPath, g = besideTree identities permissions rootPath) ∧
      Memory.Tallies capacityBytes done w.backend.storage := by
  induction chronicle with
  | @opened identities permissions root done start w begun opens =>
    obtain ⟨⟨hbackend, hidentities⟩, kept⟩ :=
      Preserves.establish (fun _ => preserves_tallies done) opens begun.tallies
    refine ⟨⟨identities, g.permissions, g.rootPath, ?_⟩, kept⟩
    rw [besideTree, ← hbackend, ← hidentities]
  | requested _ r ih =>
    obtain ⟨⟨identities, permissions, rootPath, rfl⟩, kept⟩ := ih
    exact ⟨⟨_, _, _, rfl⟩, Preserves.after (preserves_tallies _) kept r⟩
  | performed _ d ih => exact ⟨ih.1, ih.2.perform d⟩
  | planted _ h text ih => exact ih
  | passed _ now registry ih => exact ⟨ih.1, ih.2.congr rfl rfl⟩

section Counted

variable {total : Nat} (chronicle : g.Chronicle (.fin total) done w) (whole : ∀ d ∈ done, d.Counts)
  (small : total ≤ Num.exactLimit)
  (inRange : Memory.bytesAfter done w.backend.storage ≤ Num.exactLimit)
include chronicle whole small inRange

/-- What is answered after any history. -/
theorem statistics_balances : ∃ s, (g.statistics.answer w).1 = .ok s ∧
    s.Balances total (min total (Memory.bytesAfter done w.backend.storage)) ∧
      s.usedFiles = w.inodes.size := by
  obtain ⟨⟨identities, permissions, rootPath, rfl⟩, tallies⟩ := chronicle.tallies
  have space := tallies.space_eq whole inRange small rfl
  have passes : Act.Triple _ (besideTree identities permissions rootPath).statistics _ _ :=
    statistics_passes w.backend w.inodes
  rcases passes.outcome ⟨rfl, rfl⟩ with ⟨s, answered, -, rfl⟩ | ⟨_, -, absurd⟩
  · refine ⟨_, answered, Statistics.balances small ?_ ?_, rfl⟩ <;> rw [space]
  · exact absurd.elim

/-- After any history, what is told to be in use is the sum of the sizes that the objects were
placed with last, but no more than there is.  The rest is free; and whatever a client asks then, the
same is told afterwards.  All sums have to stay where whole numbers are exact; the capacity is one
of them, being the sum of what is in use and what is free. -/
theorem conserves : ∃ s, (g.statistics.answer w).1 = .ok s ∧
    s.Balances total (min total (Memory.bytesAfter done w.backend.storage)) ∧
    s.usedFiles = w.inodes.size ∧
    ∀ r, ∃ s', (g.statistics.answer (g.after w r)).1 = .ok s' ∧
      s'.totalBytes = s.totalBytes ∧ s'.usedBytes = s.usedBytes ∧ s'.freeBytes = s.freeBytes ∧
      s'.usedFiles = (g.after w r).inodes.size := by
  obtain ⟨s, answered, balances, counted⟩ := chronicle.statistics_balances whole small inRange
  refine ⟨s, answered, balances, counted, fun r => ?_⟩
  -- Requests take no object away, and the objects that they make have no size.
  have same : Memory.bytesAfter done (g.after w r).backend.storage =
      Memory.bytesAfter done w.backend.storage := by
    obtain ⟨⟨identities, permissions, rootPath, rfl⟩, tallies⟩ := chronicle.tallies
    exact Memory.bytesAfter_eq tallies fun p hp =>
      Preserves.after (attests_besideTree.kept p) hp r
  obtain ⟨s', answered', balances', counted'⟩ :=
    (chronicle.requested r).statistics_balances whole small (by rwa [same])
  rw [same] at balances'
  exact ⟨s', answered', balances'.totalBytes.trans balances.totalBytes.symm,
    balances'.usedBytes.trans balances.usedBytes.symm,
    balances'.freeBytes.trans balances.freeBytes.symm, counted'⟩

end Counted

end Chronicle

section Examples

/-- Files are placed, and then a directory in the place of one and a smaller file in that of the
other. -/
def replacing : List Memory.Deed :=
  [.seed "/a" .file 1000 none, .seed "/b/c" .file 40 none, .seed "//a/" .directory 7 none,
    .seed "/b/c" .file 30 none]

/-- What was replaced does not count.  A file that is greater than the capacity leaves nothing
free. -/
theorem besideMemory_conserves :
    let v := replacing.foldl afterDeed besideOpen
    let full := afterDeed v (.seed "/d" .file 5000 none)
    (∃ s, (besideMemory.statistics.answer v).1 = .ok s ∧ s.Balances 1024 30 ∧ s.usedFiles = 1 ∧
      ∀ r, ∃ s', (besideMemory.statistics.answer (besideMemory.after v r)).1 = .ok s' ∧
        s'.totalBytes = s.totalBytes ∧ s'.usedBytes = s.usedBytes ∧ s'.freeBytes = s.freeBytes ∧
        s'.usedFiles = (besideMemory.after v r).inodes.size) ∧
    ∃ s, (besideMemory.statistics.answer full).1 = .ok s ∧ s.Balances 1024 1024 := by
  intro v full
  have capacity : (1024 : Num) = .fin (1024 : Nat) := by decide +kernel
  have begun : Memory.Chronicle (.fin (1024 : Nat)) [] besideNew.backend.storage :=
    capacity ▸ @Memory.Chronicle.begun _ _ _ [] _ rfl
  have opens : (establish besideMemory.backend besideMemory.identities besideMemory.permissions
    "/").answer besideNew = (.ok besideMemory, besideOpen) := rfl
  have counted : deedsDone besideOpen replacing = replacing := by decide +kernel
  have chronicle : besideMemory.Chronicle (.fin (1024 : Nat)) replacing v := by
    rw [← counted]
    exact deedsDone_induction (fun d chronicle => chronicle.performed d)
      (Chronicle.opened begun opens) replacing
  have done : (Memory.Deed.seed "/d" .file 5000 none).done v.backend.storage =
    [.seed "/d" .file 5000 none] := by decide +kernel
  have chronicle' : besideMemory.Chronicle (.fin (1024 : Nat))
      (replacing ++ [.seed "/d" .file 5000 none]) full := by
    rw [← done]
    exact chronicle.performed _
  have placed : Memory.bytesAfter replacing v.backend.storage = 30 := by decide +kernel
  have placed' : Memory.bytesAfter (replacing ++ [.seed "/d" .file 5000 none])
    full.backend.storage = 5030 := by decide +kernel
  obtain ⟨s, answered, balances, files, unchanged⟩ :=
    chronicle.conserves (by decide +kernel) (by decide) (placed ▸ by decide)
  obtain ⟨s', answered', balances', -⟩ :=
    chronicle'.conserves (by decide +kernel) (by decide) (placed' ▸ by decide)
  have size : v.inodes.size = 1 := by decide +kernel
  rw [placed] at balances
  rw [placed'] at balances'
  exact ⟨⟨s, answered, balances, files.trans size, unchanged⟩, s', answered', balances'⟩

end Examples

end Gateway

end InodeGateway
