import InodeGateway.Failure
import InodeGateway.Journal
import InodeGateway.OrderedMap

/-!
# Settings

What a service is told when it starts, and the rules that settings have to obey.

## Main definitions

* `Settings` — what a service is told
* `Settings.issues` — the rules that settings break, in the order of the members
-/

namespace InodeGateway

/-- Which backend a service uses. -/
inductive BackendChoice where
  | memory
  | local (directory : String)
  /-- Something that no service offers, as it was written. -/
  | other (written : String)
  deriving DecidableEq, Repr

/-- How a service finds the user id of an owner. -/
inductive IdentityMode where
  /-- From a fixed map. -/
  | static
  /-- The name of the owner is the id. -/
  | passthrough
  /-- Something that no service offers, as it was written. -/
  | other (written : String)
  deriving DecidableEq, Repr

/-- The word for a way to find user ids. -/
def IdentityMode.text : IdentityMode → String
  | .static => "static"
  | .passthrough => "passthrough"
  | .other written => written

/-- What a service is told. -/
structure Settings where
  host : String
  port : Num
  logLevel : Journal.Level
  metricsEnabled : Bool
  backend : BackendChoice
  rootPath : String
  zone : String
  defaultOwner : String
  identityMode : IdentityMode
  identities : OrderedMap String String
  deriving DecidableEq, Repr

namespace Settings

/-- The message about a text without characters. -/
def tooShort : String := "String must contain at least 1 character(s)"

/-- The message about a number with a fraction. -/
def notWhole : String := "Expected integer, received float"

def belowZero : String := "Number must be greater than or equal to 0"

/-- An issue if a text has no characters. -/
def emptyIssue (path : List String) (text : String) : List Issue :=
  if text.isEmpty then [⟨path, "too_small", tooShort⟩] else []

/-- The issues of a port: it is whole and not below zero. -/
def portIssues (port : Num) : List Issue :=
  (if port.isInteger then [] else [⟨["port"], "invalid_type", notWhole⟩]) ++
    (if port.isNegative then [⟨["port"], "too_small", belowZero⟩] else [])

/-- The issues of a backend: a directory has a name. -/
def backendIssues : BackendChoice → List Issue
  | .local directory => emptyIssue ["backend", "directory"] directory
  | _ => []

/-- The issues of a root: it begins with a separator. -/
def rootIssues (root : String) : List Issue :=
  emptyIssue ["rootPath"] root ++
    (if root.toList.head? = some '/' then []
    else [⟨["rootPath"], "invalid_string", "Invalid input: must start with \"/\""⟩])

/-- Whether a text is a row of decimal digits. -/
def isDigits (text : String) : Bool := !text.isEmpty && text.toList.all Char.isDigit

/-- The issues of a map of identities: each identity is a row of decimal digits. -/
def identityIssues (entries : List (String × String)) : List Issue :=
  entries.filterMap fun e =>
    if isDigits e.2 then none
    else some ⟨["identities", "entries", e.1], "invalid_string", "Invalid"⟩

/-- The rules that settings break, in the order of the members. -/
def issues (s : Settings) : List Issue :=
  emptyIssue ["host"] s.host ++ portIssues s.port ++ backendIssues s.backend ++
    rootIssues s.rootPath ++ emptyIssue ["zone"] s.zone ++
    emptyIssue ["defaultOwner"] s.defaultOwner ++ identityIssues s.identities.entries

/-- The settings, if they obey the rules. -/
def validate (s : Settings) : Except Failure Settings :=
  match s.issues with
  | [] => .ok s
  | list => .error ⟨.issues list, []⟩

end Settings

end InodeGateway
