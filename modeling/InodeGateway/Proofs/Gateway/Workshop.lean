import InodeGateway.Proofs.Arguments
import InodeGateway.Proofs.Gateway.Creation
import InodeGateway.Proofs.Gateway.Releases
import InodeGateway.Proofs.Gateway.Respelling
import InodeGateway.Proofs.Inodes.Bijection
import InodeGateway.Proofs.Memory.Deeds

/-!
# Runs under other spellings

A table of inodes, a tree in memory and any number of gateways over it are used in any order.  If
paths are spelled otherwise, wherever texts stand for paths, every step has the same outcome and
leaves the same.

## Main definitions

* `Workshop`, `Task` — a table, a tree and gateways over it, and what can be done with them
* `Task.Alike` — the same task, but for the spellings of paths
* `Workshop.Respelled` — the same, but for spellings in the journal and in listings to come

## Main statements

* `Workshop.Respelled.answer` — alike tasks have the same outcome and leave the same
* `Workshop.answer_respelled` — so do they after any run
-/

namespace InodeGateway

open Journal (Record)

variable {σ ι : Type}

/-- The same deed, but for the spelling of its path. -/
inductive Inodes.Deed.Alike : Inodes.Deed → Inodes.Deed → Prop
  | same (d : Inodes.Deed) : Alike d d
  | register (h : Handle) {a b : String} (halike : Spelling.Alike a b) :
      Alike (.register h a) (.register h b)
  | sight {a b : String} (halike : Spelling.Alike a b) : Alike (.sight a) (.sight b)
  | handleOf {a b : String} (halike : Spelling.Alike a b) : Alike (.handleOf a) (.handleOf b)

/-- The table reads every text before it looks or writes. -/
theorem Inodes.Deed.Alike.perform {d d' : Inodes.Deed} (h : d.Alike d') (t : Inodes) :
    d'.perform t = d.perform t := by
  cases h with
  | same => rfl
  | register _ h => simp only [Deed.perform, Inodes.register, h.ofText_eq]
  | sight h => simp only [Deed.perform, Inodes.sight, h.ofText_eq]
  | handleOf h => simp only [Deed.perform, Inodes.handleOf, h.ofText_eq]

/-- A table of its own, and a tree in memory with the gateways that are open over it. -/
structure Workshop (ι : Type) where
  table : Inodes := {}
  station : Station (Site Memory ι)

/-- What can be done with them. -/
inductive Task (ι : Type) where
  | table (d : Inodes.Deed)
  | tree (d : Memory.Deed)
  /-- A gateway is opened over the tree.  Its backend lists directories in a way of its own. -/
  | establish (identities : Identity.Registry (Site Memory ι)) (permissions : PermissionModel)
      (root : String) (list : Session → String → Call (Site Memory ι) (List String))
  /-- A gateway is asked; they are counted from zero in the order in which they were opened. -/
  | request (number : Nat) (r : Request)
  /-- What lies behind the gateways changes by itself. -/
  | change (f : Site Memory ι → Site Memory ι)

/-- The outcome of a task. -/
inductive Report where
  | table (r : Except Refusal Inodes.Reply)
  | tree (r : Except Failure Memory.Reply)
  | gateway (r : Except Failure Answer)

/-- The same task, but for the spellings of paths. -/
inductive Task.Alike : Task ι → Task ι → Prop
  | table {d d' : Inodes.Deed} (h : d.Alike d') : Alike (.table d) (.table d')
  | tree {d d' : Memory.Deed} (h : d.Alike d') : Alike (.tree d) (.tree d')
  | establish (identities : Identity.Registry (Site Memory ι)) (permissions : PermissionModel)
      {root root' : String} (hroot : Spelling.Alike root root')
      {list list' : Session → String → Call (Site Memory ι) (List String)}
      (hlist : ∀ s text, (list s text).ListsAlike (list' s text)) :
      Alike (.establish identities permissions root list)
        (.establish identities permissions root' list')
  | request (number : Nat) (r : Request) : Alike (.request number r) (.request number r)
  | change (f : Site Memory ι → Site Memory ι) : Alike (.change f) (.change f)

/-- The same outcome of two tasks, unless both list what is no directory within a session of the
tree: each of them is told the text that it asked for. -/
def Task.Agrees (task task' : Task ι) (r r' : Report) : Prop :=
  r' = r ∨ ∃ s a b, task = .tree (.list s a) ∧ task' = .tree (.list s b) ∧
    r = .tree (.error (Memory.notCollection a)) ∧ r' = .tree (.error (Memory.notCollection b))

/-! ### Stations -/

/-- The same station, but for the spellings of children that are gone in the journal, and for those
in which backends list directories. -/
structure Station.Respelled (p p' : Station σ) : Prop where
  backend : p'.backend = p.backend
  journal : List.Forall₂ Record.Alike p.journal p'.journal
  observed : p'.observed = p.observed
  gateways : List.Forall₂ (fun e e' => e.1.Respells e'.1 ∧ e'.2 = e.2) p.gateways p'.gateways

theorem forall₂_getElem? {α β : Type} {R : α → β → Prop} {xs : List α} {ys : List β}
    (h : List.Forall₂ R xs ys) (i : Nat) : Option.Rel R xs[i]? ys[i]? := by
  induction h generalizing i with
  | nil => exact .none
  | cons hx _ ih =>
    cases i with
    | zero => exact .some hx
    | succ i => exact ih i

theorem forall₂_set {α β : Type} {R : α → β → Prop} {xs : List α} {ys : List β} {x : α} {y : β}
    (h : List.Forall₂ R xs ys) (hx : R x y) (i : Nat) :
    List.Forall₂ R (xs.set i x) (ys.set i y) := by
  induction h generalizing i with
  | nil => exact .nil
  | cons hfirst hrest ih =>
    cases i with
    | zero => exact .cons hx hrest
    | succ i => exact .cons hfirst (ih i)

namespace Station.Respelled

variable {p p' : Station σ}

theorem world (h : p.Respelled p') (t : Inodes) : (p.world t).Alike (p'.world t) :=
  ⟨h.backend, rfl, h.journal, h.observed⟩

theorem ofWorld {w w' : World σ} (h : w.Alike w') {gateways gateways' : List (Gateway σ × Inodes)}
    (hgateways : List.Forall₂ (fun e e' => e.1.Respells e'.1 ∧ e'.2 = e.2) gateways gateways') :
    (Station.ofWorld w gateways).Respelled (Station.ofWorld w' gateways') :=
  ⟨h.backend, h.journal, h.observed, hgateways⟩

/-- Gateways are opened alike at alike roots. -/
theorem establish (h : p.Respelled p') {b : Backend σ}
    (hstat : ∀ s {a a'}, Spelling.Alike a a' → b.stat s a' = b.stat s a)
    {list list' : Session → String → Call σ (List String)}
    (hlist : ∀ s text, (list s text).ListsAlike (list' s text))
    (identities : Identity.Registry σ) (permissions : PermissionModel) {root root' : String}
    (hroot : Spelling.Alike root root') :
    let answer := p.answer { b with list := list } (.establish identities permissions root)
    let answer' := p'.answer { b with list := list' } (.establish identities permissions root')
    answer'.1 = answer.1 ∧ answer.2.Respelled answer'.2 := by
  -- As far as the root is concerned, nothing is listed and the root is read before it is used.
  have mounted : Act.Agree World.Alike
      (Gateway.mount { b with list := list } identities permissions root)
      (Gateway.mount { b with list := list' } identities permissions root') := by
    have same : Gateway.mount { b with list := list' } identities permissions root' =
        Gateway.mount { b with list := list } identities permissions root := by
      unfold Gateway.mount
      rw [hroot.ofText_eq]
      rfl
    rw [same]
    exact Gateway.mount_agree (fun _ => Gateway.mirrors_self _) root
  simp only [Station.answer, Gateway.establish_eq_map, Call.answer_map]
  rcases mounted.outcome (h.world {}) with ⟨f, v, v', heq, heq', after⟩ |
    ⟨rootPath, v, v', heq, heq', after⟩
  · rw [heq, heq']
    exact ⟨rfl, ofWorld after h.gateways⟩
  · rw [heq, heq']
    refine ⟨rfl, ofWorld after (List.rel_append h.gateways (.cons ⟨?_, after.inodes⟩ .nil))⟩
    exact ⟨rfl, hstat, hlist⟩

/-- Open gateways answer requests alike. -/
theorem request (h : p.Respelled p') (b b' : Backend σ) (number : Nat) (r : Request) :
    (p'.answer b' (.request number r)).1 = (p.answer b (.request number r)).1 ∧
      (p.answer b (.request number r)).2.Respelled (p'.answer b' (.request number r)).2 := by
  simp only [Station.answer]
  generalize p.gateways[number]? = entry, p'.gateways[number]? = entry',
    forall₂_getElem? h.gateways number = related
  cases related with
  | none => exact ⟨rfl, h⟩
  | @some e e' hentry =>
    obtain ⟨g, t⟩ := e
    obtain ⟨g', t'⟩ := e'
    obtain ⟨respells, rfl⟩ : g.Respells g' ∧ t' = t := hentry
    obtain ⟨same, after⟩ := respells.perform_agree r _ _ (h.world t')
    exact ⟨same, ofWorld after (forall₂_set h.gateways ⟨respells, after.inodes⟩ number)⟩

end Station.Respelled

/-! ### Workshops -/

namespace Workshop

/-- The outcome of a task, and what it leaves.  Nothing happens if there is no such gateway. -/
def answer (w : Workshop ι) : Task ι → Report × Workshop ι
  | .table d => (.table (d.perform w.table).1, { w with table := (d.perform w.table).2 })
  | .tree d =>
    let (r, site) := (Site.storing d.perform).answer w.station.backend
    (.tree r, { w with station := { w.station with backend := site } })
  | .establish identities permissions root list =>
    let (r, station) := w.station.answer { Memory.backend.beside with list := list }
      (.establish identities permissions root)
    (.gateway r, { w with station := station })
  | .request number r =>
    let (r, station) := w.station.answer Memory.backend.beside (.request number r)
    (.gateway r, { w with station := station })
  | .change f =>
    let (r, station) := w.station.answer Memory.backend.beside (.change f)
    (.gateway r, { w with station := station })

/-- What tasks leave, one after another. -/
def afterAll (w : Workshop ι) (tasks : List (Task ι)) : Workshop ι :=
  tasks.foldl (fun w task => (w.answer task).2) w

/-- A workshop with a new tree that begins with the directories that texts spell. -/
def new (owner : Owner) (capacityBytes : Num) (now : Instant) (registry : ι)
    (directories : List String) : Except Failure (Workshop ι) := do
  let tree ← (Memory.empty owner capacityBytes now).addDirectories directories
  return { station := { backend := { storage := tree, registry := registry } } }

/-- The same workshop, but for the spellings of children that are gone in the journal, and for those
in which backends list directories: the tables, the tree with its permissions and its wanted
failures, the handles and the observer's record are the same. -/
structure Respelled (w w' : Workshop ι) : Prop where
  table : w'.table = w.table
  station : w.station.Respelled w'.station

namespace Respelled

theorem start (w : Workshop ι) (hgateways : w.station.gateways = []) : w.Respelled w where
  table := rfl
  station := ⟨rfl, List.forall₂_same.mpr fun _ _ => .inl rfl, rfl, hgateways ▸ .nil⟩

variable {w w' : Workshop ι}

/-- Alike tasks have the same outcome and leave the same. -/
theorem answer (h : w.Respelled w') {task task' : Task ι} (halike : task.Alike task') :
    task.Agrees task' (w.answer task).1 (w'.answer task').1 ∧
      (w.answer task).2.Respelled (w'.answer task').2 := by
  cases halike with
  | @table d d' hd =>
    have same : d'.perform w'.table = d.perform w.table := by rw [h.table, hd.perform]
    exact ⟨.inl (by simp only [Workshop.answer, same]), congrArg Prod.snd same, h.station⟩
  | @tree d d' hd =>
    obtain ⟨agrees, left⟩ := hd.perform w.station.backend.storage
    simp only [Workshop.answer, Site.storing, Call.answer_onPart, h.station.backend, left]
    refine ⟨?_, h.table, rfl, h.station.journal, h.station.observed, h.station.gateways⟩
    rcases agrees with same | ⟨s, a, b, rfl, rfl, ha, hb⟩
    · exact .inl (congrArg Report.tree same)
    · exact .inr ⟨s, a, b, rfl, rfl, congrArg Report.tree ha, congrArg Report.tree hb⟩
  | establish identities permissions hroot hlist =>
    obtain ⟨same, after⟩ := h.station.establish (b := Memory.backend.beside)
      (fun s {_ _} hstat => congrArg Site.storing (Memory.stat_alike hstat s)) hlist identities
      permissions hroot
    exact ⟨.inl (congrArg Report.gateway same), h.table, after⟩
  | request number r =>
    obtain ⟨same, after⟩ := h.station.request Memory.backend.beside Memory.backend.beside number r
    exact ⟨.inl (congrArg Report.gateway same), h.table, after⟩
  | change f =>
    refine ⟨.inl rfl, h.table, congrArg f h.station.backend, ?_, ?_, ?_⟩
    · exact h.station.journal
    · exact h.station.observed
    · exact h.station.gateways

theorem afterAll (h : w.Respelled w') {tasks tasks' : List (Task ι)}
    (halike : List.Forall₂ Task.Alike tasks tasks') :
    (w.afterAll tasks).Respelled (w'.afterAll tasks') := by
  induction halike generalizing w w' with
  | nil => exact h
  | cons htask _ ih => exact ih (h.answer htask).2

end Respelled

/-- A tree begins with directories; then it, a table and gateways over the tree are used in any
order.  If paths are spelled otherwise at any moment, the tree begins as it did, every task has the
same outcome, and everything is left the same: spellings are told by the failure of a session that
lists what is no directory, and by the records of children that are gone, and nowhere else. -/
theorem answer_respelled (owner : Owner) (capacityBytes : Num) (now : Instant) (registry : ι)
    {directories directories' : List String}
    (hdirectories : List.Forall₂ Spelling.Alike directories directories')
    {tasks tasks' : List (Task ι)} (htasks : List.Forall₂ Task.Alike tasks tasks')
    {task task' : Task ι} (htask : task.Alike task') :
    new owner capacityBytes now registry directories' =
        new owner capacityBytes now registry directories ∧
      ∀ w, new owner capacityBytes now registry directories = .ok w →
        task.Agrees task' ((w.afterAll tasks).answer task).1 ((w.afterAll tasks').answer task').1 ∧
          ((w.afterAll tasks).answer task).2.Respelled ((w.afterAll tasks').answer task').2 := by
  refine ⟨by rw [new, new, Memory.addDirectories_alike hdirectories], fun w hw => ?_⟩
  obtain ⟨tree, -, hw⟩ := ok_of_bind hw
  have bare : w.station.gateways = [] := Except.ok.inj hw ▸ rfl
  exact ((Respelled.start w bare).afterAll htasks).answer htask

/-- The children of a directory may be told under any spellings that are alike. -/
theorem listsAlike_map {f : String → String}
    (hf : ∀ p : Path, Spelling.Alike p.toText (f p.toText)) (s : Session) (text : String) :
    Call.ListsAlike (Memory.backend.beside.list s text : Call (Site Memory ι) (List String))
      (List.map f <$> Memory.backend.beside.list s text) := by
  rintro _ x rfl
  rw [Call.answer_map]
  have listed : (Memory.backend.beside.list s text).answer x =
      (((Memory.backend.list s text).answer x.storage).1,
        { x with storage := ((Memory.backend.list s text).answer x.storage).2 }) := rfl
  rw [listed]
  cases htexts : ((Memory.backend.list s text).answer x.storage).1 with
  | error failure => exact .inr ⟨failure, _, _, rfl, rfl, rfl⟩
  | ok texts =>
    refine .inl ⟨texts, texts.map f, _, _, rfl, rfl, ?_, rfl⟩
    obtain ⟨paths, rfl⟩ := Memory.written_of_list htexts
    simp only [List.forall₂_map_right_iff, List.forall₂_map_left_iff]
    exact List.forall₂_same.mpr fun p _ => hf p

/-- A child is wanted to be missing, and a gateway is opened over its directory. -/
def lackingChild (root child : String)
    (list : Session → String → Call (Site Memory Unit) (List String)) : List (Task Unit) :=
  [.tree (.failOn child .notFound),
    .establish Identity.passthrough.registry PermissionModel.fixed root list]

/-- All paths are spelled in two ways, and the directory is listed. -/
theorem answer_respelled_dotted :
    let list := Memory.backend.beside.list
    let plain := lackingChild "/a" "/a/b" list
    let dotted := lackingChild "/./a/" "/a//b" fun s text => List.map ("/." ++ ·) <$> list s text
    ∃ w, new ⟨"7", "grid"⟩ 1024 (.at 0) () ["/a/b"] = .ok w ∧
      new ⟨"7", "grid"⟩ 1024 (.at 0) () ["//a/./b"] = .ok w ∧
      ((w.afterAll plain).answer (.request 0 (.list 1))).2.Respelled
        ((w.afterAll dotted).answer (.request 0 (.list 1))).2 := by
  have child : Spelling.Alike "/a/b" "/a//b" := .inr ⟨"/a/b", by decide +kernel, by decide +kernel⟩
  have directory : Spelling.Alike "/a/b" "//a/./b" :=
    .inr ⟨"/a/b", by decide +kernel, by decide +kernel⟩
  have root : Spelling.Alike "/a" "/./a/" := .inr ⟨"/a", by decide +kernel, by decide +kernel⟩
  have children (p : Path) : Spelling.Alike p.toText ("/." ++ p.toText) :=
    Spelling.alike_iff.mpr (by rw [Path.ofText_dotted p.ofText_toText, p.ofText_toText])
  obtain ⟨same, after⟩ := answer_respelled ⟨"7", "grid"⟩ 1024 (.at 0) () (.cons directory .nil)
    (.cons (.tree (.failOn child .notFound))
      (.cons (.establish Identity.passthrough.registry PermissionModel.fixed root
        (listsAlike_map children)) .nil))
    (.request 0 (.list 1))
  have normal : Spelling.normalize "/a/b" = .ok "/a/b" := by decide +kernel
  obtain ⟨p, hp, -⟩ := Spelling.ofText_of_normalize normal
  have begins : ∃ w : Workshop Unit, new ⟨"7", "grid"⟩ 1024 (.at 0) () ["/a/b"] = .ok w := by
    simp [new, Memory.addDirectories, hp, bind, Except.bind, pure, Except.pure]
  obtain ⟨w, hw⟩ := begins
  exact ⟨w, hw, same.trans hw, (after w hw).2⟩

end Workshop

end InodeGateway
