import InodeGateway.Json

/-!
# Refusals

What the gateway itself objects to.  Each refusal is a cause with the data that explains it; its
code, its message and its details are functions of the cause, so that every wording stands here.

## Main definitions

* `Code` — the classes of failure that clients tell apart
* `Refusal` — the causes
* `Refusal.code`, `Refusal.message`, `Refusal.details` — what is said about a cause
-/

namespace InodeGateway

/-- The classes of failure that clients tell apart. -/
inductive Code where
  | notFound
  | alreadyExists
  | alreadyMapped
  | permissionDenied
  | ioFailure
  | invalidArgument
  | internalInconsistency
  | notSupported
  deriving DecidableEq, Repr, Inhabited

/-- The word for a class of failure. -/
def Code.text : Code → String
  | .notFound => "NOT_FOUND"
  | .alreadyExists => "ALREADY_EXISTS"
  | .alreadyMapped => "ALREADY_MAPPED"
  | .permissionDenied => "PERMISSION_DENIED"
  | .ioFailure => "IO_FAILURE"
  | .invalidArgument => "INVALID_ARGUMENT"
  | .internalInconsistency => "INTERNAL_INCONSISTENCY"
  | .notSupported => "NOT_SUPPORTED"

/-- All classes of failure. -/
def Code.all : List Code :=
  [.notFound, .alreadyExists, .alreadyMapped, .permissionDenied, .ioFailure, .invalidArgument,
    .internalInconsistency, .notSupported]

/-- The class that a word names. -/
def Code.ofText? (s : String) : Option Code := Code.all.find? fun c => c.text = s

/-- A number that a client passes under a name of its own. -/
inductive ModeLabel where
  /-- The access that is asked for. -/
  | mask
  /-- The permissions of a new object. -/
  | mode
  deriving DecidableEq, Repr

/-- The name of such a number. -/
def ModeLabel.text : ModeLabel → String
  | .mask => "mask"
  | .mode => "mode"

/-- The causes for which the gateway refuses a request. -/
inductive Refusal where
  /-- A path without characters. -/
  | emptyPath
  /-- A path that does not begin with a separator. -/
  | relativePath (path : String)
  | nulInPath (path : String)
  | parentReference (path : String)
  /-- A name without characters. -/
  | emptyName
  /-- One of the two names that stand for directories relative to another. -/
  | dotName (name : String)
  /-- A name with a separator or a NUL character. -/
  | separatorInName (name : String)
  /-- A handle that does not fit the wire form. -/
  | handleOutOfRange (handle : String)
  | handleNotDecimal (text : String)
  | wireLength (length : Nat)
  | wireZero
  | handleNotPositive (handle : Int)
  /-- A second request for the handle of the root. -/
  | rootReserved
  /-- A handle that stands for another path already. -/
  | handleMapped (handle : Int) (path : String)
  /-- A path that another handle stands for already. -/
  | pathMapped (handle : Int) (path : String)
  /-- A registration that could not be undone. -/
  | undoFailed (handle : Int) (path : String)
  /-- A handle that stands for nothing. -/
  | unknownHandle (handle : Int)
  /-- An owner whom the directory of identities does not know. -/
  | noIdentity (owner : String)
  /-- An owner about whom the directory of identities could not be asked. -/
  | identityLookup (owner : String)
  /-- An identity that is no user id. -/
  | malformedIdentity (owner identity : String)
  /-- A kind of object that is neither file nor directory. -/
  | unsupportedKind (kind : String)
  /-- A mask or mode outside of twelve bits. -/
  | modeOutOfRange (label : ModeLabel) (value : Num)
  /-- A user or group id that is no natural number. -/
  | badPrincipal (uid gid : Num)
  /-- A root that cannot be read. -/
  | rootUnavailable (path : String)
  /-- An object whose access could not be looked at. -/
  | accessCheck (path : String)
  /-- An operation that the gateway does not offer. -/
  | unsupportedOperation (operation : String)
  deriving DecidableEq, Repr

namespace Refusal

/-- The class of a cause. -/
def code : Refusal → Code
  | .rootReserved | .undoFailed _ _ => .internalInconsistency
  | .handleMapped _ _ | .pathMapped _ _ => .alreadyMapped
  | .unknownHandle _ | .rootUnavailable _ => .notFound
  | .noIdentity _ | .identityLookup _ | .malformedIdentity _ _ | .accessCheck _ => .ioFailure
  | .unsupportedOperation _ => .notSupported
  | _ => .invalidArgument

def message : Refusal → String
  | .emptyPath => "Path must not be empty"
  | .relativePath _ => "Path must be absolute"
  | .nulInPath _ => "Path must not contain NUL"
  | .parentReference _ => "Path must not contain parent references"
  | .emptyName => "Name must not be empty"
  | .dotName _ => "Name must not be a relative path component"
  | .separatorInName _ => "Name must not contain a separator or NUL"
  | .handleOutOfRange _ => "Handle out of range"
  | .handleNotDecimal _ => "Handle must be a positive integer"
  | .wireLength _ => "File handle must be 8 bytes"
  | .wireZero => "File handle must not be zero"
  | .handleNotPositive _ => "Handle must be positive"
  | .rootReserved => "Root handle already reserved"
  | .handleMapped _ _ => "Handle is already mapped"
  | .pathMapped _ _ => "Path is already mapped"
  | .undoFailed _ _ => "Inode table rollback failed"
  | .unknownHandle handle => "No object for inode #" ++ toString handle
  | .noIdentity _ => "Owner has no identity"
  | .identityLookup _ => "Identity lookup failed"
  | .malformedIdentity _ _ => "Owner identity is not a decimal number"
  | .unsupportedKind _ => "Unsupported object kind"
  | .modeOutOfRange label _ => label.text ++ " must be an integer between 0 and 0o7777"
  | .badPrincipal _ _ => "Owner uid and gid must be non-negative integers"
  | .rootUnavailable path => "Cannot establish root at " ++ path
  | .accessCheck _ => "Access check failed"
  | .unsupportedOperation operation => "Operation " ++ operation ++ " is not supported"

/-- The data that explain a cause, if it has any. -/
def details : Refusal → Option (List (String × Json))
  | .emptyPath | .emptyName | .wireZero | .rootReserved => none
  | .relativePath path | .nulInPath path | .parentReference path | .accessCheck path =>
    some [("path", path)]
  | .dotName name | .separatorInName name => some [("name", name)]
  | .handleOutOfRange handle => some [("handle", handle)]
  | .handleNotDecimal text => some [("handle", text)]
  | .wireLength length => some [("length", length)]
  | .handleNotPositive handle | .unknownHandle handle => some [("handle", toString handle)]
  | .handleMapped handle path | .pathMapped handle path | .undoFailed handle path =>
    some [("handle", toString handle), ("path", path)]
  | .noIdentity owner | .identityLookup owner => some [("owner", owner)]
  | .malformedIdentity owner identity => some [("owner", owner), ("identity", identity)]
  | .unsupportedKind kind => some [("kind", kind)]
  | .modeOutOfRange label value => some [(label.text, value)]
  | .badPrincipal uid gid => some [("uid", uid), ("gid", gid)]
  | .rootUnavailable path => some [("rootPath", path)]
  | .unsupportedOperation operation => some [("operation", operation)]

end Refusal

end InodeGateway
