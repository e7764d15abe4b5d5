import InodeGateway.Backend
import InodeGateway.Inodes
import InodeGateway.Journal
import InodeGateway.Operation

/-!
# Worlds and actions

What the operations of the gateway read and change: the state of the backend and of whatever else is
asked, the table of inodes, the journal, and what an observer was told.

## Main definitions

* `World` — the state
* `Act` — an action that may fail and may change the state
* `Act.call`, `Act.table`, `Act.note` — actions on one part of it
* `Act.withSession` — an action within a session, which is released on every way out
-/

namespace InodeGateway

open Journal

/-- What the operations of the gateway read and change. -/
structure World (σ : Type) where
  /-- The state of the backend, and of where identities are asked for. -/
  backend : σ
  inodes : Inodes := {}
  /-- The records written so far, oldest first. -/
  journal : List Record := []
  /-- What an observer was told so far, oldest first. -/
  observed : List (Operation × Outcome) := []
  deriving Repr

namespace World

variable {σ : Type}

def note (w : World σ) (level : Level) (message : String) (fields : Fields) : World σ :=
  { w with journal := w.journal ++ [⟨level, message, fields⟩] }

def observe (w : World σ) (operation : Operation) (outcome : Outcome) : World σ :=
  { w with observed := w.observed ++ [(operation, outcome)] }

end World

/-- An action that may fail and may change the world. -/
abbrev Act (σ α : Type) := Call (World σ) α

namespace Act

variable {σ α : Type}

def call (c : Call σ α) : Act σ α := c.onPart World.backend fun b w => { w with backend := b }

def table (f : Inodes → Except Refusal α × Inodes) : Act σ α := .of fun w =>
  let (r, inodes) := f w.inodes
  (r.mapError Refusal.failure, { w with inodes := inodes })

def look (f : Inodes → Except Refusal α) : Act σ α := table fun t => (f t, t)

/-- A result that does not depend on the world. -/
def result (r : Except Failure α) : Act σ α := .read fun _ => r

/-- A check that does not depend on the world. -/
def check (r : Except Refusal α) : Act σ α := result (r.mapError Refusal.failure)

def note (level : Level) (message : String) (fields : Fields) : Act σ Unit := .of fun w =>
  (.ok (), w.note level message fields)

@[simp] theorem answer_call (c : Call σ α) (w : World σ) :
    (call c).answer w = ((c.answer w.backend).1, { w with backend := (c.answer w.backend).2 }) :=
  rfl

@[simp] theorem answer_table (f : Inodes → Except Refusal α × Inodes) (w : World σ) :
    (table f : Act σ α).answer w =
      ((f w.inodes).1.mapError Refusal.failure, { w with inodes := (f w.inodes).2 }) := rfl

@[simp] theorem answer_result (r : Except Failure α) (w : World σ) :
    (result r : Act σ α).answer w = (r, w) := rfl

@[simp] theorem answer_note (level : Level) (message : String) (fields : Fields) (w : World σ) :
    (note level message fields : Act σ Unit).answer w = (.ok (), w.note level message fields) :=
  rfl

/-- The record of a session that could not be released. -/
def releaseMessage : String := "failed to release backend session"

/-- An action within a session of its own.  The session is released on every way out; a failure to
release it is noted and changes nothing else. -/
def withSession (b : Backend σ) (body : Session → Act σ α) : Act σ α := .of fun w =>
  match (call b.openSession).answer w with
  | (.error failure, opened) => (.error failure, opened)
  | (.ok s, opened) =>
    let (r, worked) := (body s).answer opened
    match (call (b.release s)).answer worked with
    | (.ok (), released) => (r, released)
    | (.error failure, released) =>
      (r, released.note .warn releaseMessage [("err", failure), ("backend", b.kind)])

/-- An action whose failure is turned into another one. -/
def explain (f : Failure → Failure) (a : Act σ α) : Act σ α := .of fun w =>
  let (r, after) := a.answer w
  (r.mapError f, after)

/-- An explanation changes what is reported and nothing else. -/
@[simp] theorem answer_explain (f : Failure → Failure) (a : Act σ α) (w : World σ) :
    (a.explain f).answer w = ((a.answer w).1.mapError f, (a.answer w).2) := rfl

/-- An action for which an object that the backend does not know is no failure. -/
def orMissing (default : α) (a : Act σ α) : Act σ α := .of fun w =>
  match a.answer w with
  | (.error failure, after) => (if failure.isMissing then .ok default else .error failure, after)
  | r => r

end Act

end InodeGateway
