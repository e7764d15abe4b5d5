import InodeGateway.Refusal

/-!
# Failures

Everything that a call can fail with.  A failure is a chain: the fault that is reported, then the
faults that caused it, each the cause of the one before.

## Main definitions

* `Fault` — one link: a refusal of the gateway or one that was handed to it, an error of a storage
  backend, another exception, a bare text, or the issues found in a document
* `Failure` — a chain of faults
* `Failure.because` — a fault with a failure as its cause
* `Failure.hasCode` — whether a failure belongs to a class that clients tell apart
-/

namespace InodeGateway

/-- Why a storage backend could not do its work. -/
inductive Reason where
  | notFound
  | alreadyExists
  | permissionDenied
  | io
  deriving DecidableEq, Repr, Inhabited

def Reason.text : Reason → String
  | .notFound => "NOT_FOUND"
  | .alreadyExists => "ALREADY_EXISTS"
  | .permissionDenied => "PERMISSION_DENIED"
  | .io => "IO"

def Reason.all : List Reason := [.notFound, .alreadyExists, .permissionDenied, .io]

/-- The reason that a word names. -/
def Reason.ofText? (s : String) : Option Reason := Reason.all.find? fun r => r.text = s

/-- Something wrong at a place in a document. -/
structure Issue where
  /-- The names of the members that lead to the place. -/
  path : List String
  /-- The kind of issue. -/
  code : String
  message : String
  deriving DecidableEq, Repr

inductive Fault where
  | gateway (code : Code) (message : String) (details : Option (List (String × Json)))
  /-- An error of a storage backend, perhaps at a path. -/
  | backend (reason : Reason) (message : String) (path : Option String)
  /-- Any other exception, with the name of its kind. -/
  | exception (kind message : String)
  | text (message : String)
  /-- The issues that were found in a document. -/
  | issues (list : List Issue)
  deriving Repr

/-- What is said about a fault. -/
def Fault.message : Fault → String
  | .gateway _ m _ | .backend _ m _ | .exception _ m | .text m => m
  | .issues list => toString list.length

/-- A chain of faults. -/
structure Failure where
  fault : Fault
  /-- Its causes, nearest first. -/
  causes : List Fault := []
  deriving Repr

namespace Failure

def because (fault : Fault) (cause : Failure) : Failure := ⟨fault, cause.fault :: cause.causes⟩

def cause? (f : Failure) : Option Failure :=
  match f.causes with
  | [] => none
  | c :: rest => some ⟨c, rest⟩

/-- An error of a storage backend. -/
def backend (reason : Reason) (message : String) (path : Option String) : Failure :=
  ⟨.backend reason message path, []⟩

/-- What is said about a failure. -/
def message (f : Failure) : String := f.fault.message

/-- The class of a failure, if it is one in terms of the gateway. -/
def code? (f : Failure) : Option Code :=
  match f.fault with
  | .gateway code _ _ => some code
  | _ => none

/-- The class under which a failure is counted: one in other terms is a failure of the storage. -/
def codeOf (f : Failure) : Code := f.code?.getD .ioFailure

/-- The data that explain a failure, if it has any. -/
def details? (f : Failure) : Option (List (String × Json)) :=
  match f.fault with
  | .gateway _ _ details => details
  | _ => none

/-- Whether a failure is one in terms of the gateway and, if a class is given, of that class. -/
def hasCode (f : Failure) (code : Option Code) : Bool :=
  match f.code?, code with
  | none, _ => false
  | some _, none => true
  | some c, some wanted => c = wanted

/-- Whether a failure is an error of a storage backend that does not know the object. -/
def isMissing (f : Failure) : Bool :=
  match f.fault with
  | .backend .notFound _ _ => true
  | _ => false

/-- The failure for a value that no case provides for. -/
def unhandled (rendered : String) : Failure :=
  ⟨.exception "Error" ("Unhandled value: " ++ rendered), []⟩

@[simp] theorem cause?_because (fault : Fault) (cause : Failure) :
    (because fault cause).cause? = some cause := rfl

end Failure

def Refusal.failure (r : Refusal) : Failure := ⟨.gateway r.code r.message r.details, []⟩

instance : Coe Refusal Failure := ⟨Refusal.failure⟩

@[simp] theorem Refusal.code?_failure (r : Refusal) : r.failure.code? = some r.code := rfl

/-- The failure that explains another in terms of the gateway and keeps it as its cause. -/
def Refusal.because (r : Refusal) (cause : Failure) : Failure :=
  .because (.gateway r.code r.message r.details) cause

end InodeGateway
