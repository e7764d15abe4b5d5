import InodeGateway.Failure
import InodeGateway.Json.Printer

/-!
# Errors in the journal

How a failure becomes a document: with its own data and the messages of its causes.  A document can
look like an error too; it is then written as errors are.

## Main definitions

* `Journal.ofErrorLike` — a document, written as errors are if it looks like one
* `Journal.ofFailure` — a failure as a document
-/

namespace InodeGateway

def Fault.kindName : Fault → String
  | .gateway _ _ _ => "VfsError"
  | .backend _ _ _ => "BackendError"
  | .exception kind _ => kind
  | .text _ => "thrown"
  | .issues _ => "Error"

namespace Journal

/-- The messages of a chain of faults.  A bare text is no part of the chain, and ends it. -/
def chainMessage (message : String) : List Fault → String
  | [] | .text _ :: _ => message
  | cause :: rest => message ++ ": " ++ chainMessage cause.message rest

/-- The message of a document that looks like an error: an object with a text as message. -/
def errorMessage? (j : Json) : Option String :=
  match j.get? "message" with
  | some (.str message) => some message
  | _ => none

mutual

/-- The messages of an object that looks like an error, and of the causes that do so too. -/
def errorChain : Json → Option String
  | .obj members =>
    match errorMessage? (.obj members) with
    | none => none
    | some message =>
      match causeChain members with
      | some cause => some (message ++ ": " ++ cause)
      | none => some message
  | _ => none

/-- The messages of the cause among members. -/
def causeChain : List (String × Json) → Option String
  | [] => none
  | (name, value) :: rest => if name = "cause" then errorChain value else causeChain rest

end

/-- The stack that an object has of its own: empty if there is none, or one that says nothing. -/
def ownStack (j : Json) : Json :=
  match j.get? "stack" with
  | some stack => if stack.isTelling then stack else .str ""
  | none => .str ""

mutual

/-- The stack of an object that looks like an error, followed by those of the causes that do so
too. -/
def errorStack : Json → Json
  | .obj members =>
    let own := ownStack (.obj members)
    match causeStack members with
    | some stack => .str (own.plain ++ "\ncaused by: " ++ stack.plain)
    | none => own
  | _ => .str ""

/-- The stack of the cause among members, if it looks like an error. -/
def causeStack : List (String × Json) → Option Json
  | [] => none
  | (name, value) :: rest =>
    if name = "cause" then
      if (errorMessage? value).isSome then some (errorStack value) else none
    else causeStack rest

end

/-- The type of an object that looks like an error: its name, if it says what made it. -/
def errorType? (j : Json) : Option Json :=
  if (j.get? "constructor").isSome then j.get? "name" else some (.str "Object")

/-- The names that every object answers to, which an object that looks like an error does not pass
on. -/
def commonNames : List String :=
  ["raw", "constructor", "toString", "toLocaleString", "valueOf", "hasOwnProperty",
    "isPrototypeOf", "propertyIsEnumerable", "__proto__", "__defineGetter__", "__defineSetter__",
    "__lookupGetter__", "__lookupSetter__"]

/-- What an object that looks like an error says first: its type, the messages of its chain and
their stacks. -/
def errorHead (message : String) (members : List (String × Json)) : List (String × Json) :=
  ((errorType? (.obj members)).map fun type => ("type", type)).toList ++
    [("message", .str message), ("stack", errorStack (.obj members))]

mutual

/-- A document that looks like an error, written as errors are; any other one stays. -/
def ofErrorLike : Json → Json
  | .obj members =>
    match errorChain (.obj members) with
    | none => .obj members
    | some message =>
      let head := errorHead message members ++ aggregate members
      .ofMembers (head ++ errorMembers (head.map Prod.fst ++ commonNames) members)
  | j => j

/-- The list of errors that an object brings together, each written as errors are. -/
def aggregate : List (String × Json) → List (String × Json)
  | [] => []
  | (name, value) :: rest =>
    if name = "errors" then
      match value with
      | .arr errors => [("aggregateErrors", .arr (ofErrorLikes errors))]
      | _ => []
    else aggregate rest

/-- Documents, of which those that look like errors are written as errors are. -/
def ofErrorLikes : List Json → List Json
  | [] => []
  | j :: rest => ofErrorLike j :: ofErrorLikes rest

/-- The members that an object which looks like an error passes on besides those that are told; a
cause that looks like one is told by the message already. -/
def errorMembers (told : List String) : List (String × Json) → List (String × Json)
  | [] => []
  | (name, value) :: rest =>
    if name ∈ told ∨ (name = "cause" ∧ (errorChain value).isSome) then errorMembers told rest
    else (name, ofErrorLike value) :: errorMembers told rest

end

def ownMembers : Fault → List (String × Json)
  | f@(.gateway code _ details) =>
    [("name", .str f.kindName), ("code", .str code.text)] ++
      (details.map fun d => ("details", ofErrorLike (Json.ofMembers d))).toList
  | f@(.backend reason _ path) =>
    [("name", .str f.kindName), ("reason", .str reason.text)] ++
      (path.map fun p => ("path", Json.str p)).toList
  | _ => []

/-- A failure as a document.  A bare text stays what it is. -/
def ofFailure (f : Failure) : Json :=
  match f.fault with
  | .text message => .str message
  | fault =>
    .ofMembers <|
      [("type", .str fault.kindName), ("message", .str (chainMessage fault.message f.causes))] ++
        ownMembers fault

end Journal

end InodeGateway
