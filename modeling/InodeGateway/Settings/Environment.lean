import InodeGateway.Identity
import InodeGateway.Num.Reading
import InodeGateway.Settings
import InodeGateway.Text.Half
import InodeGateway.Text.Lowercase

/-!
# Settings from an environment

Settings are read from variables.  A variable that is unset, or set to nothing, leaves a default;
words may be written in any case and with blanks around them.  Settings that were read once are kept
until they are forgotten.

## Main definitions

* `Environment` — the variables and their values
* `Settings.ofEnvironment` — the settings that an environment tells
* `Settings.load` — the same, unless settings are kept already
-/

namespace InodeGateway

/-- The variables that are set, with their values. -/
abbrev Environment := OrderedMap String String

namespace Environment

/-- What a variable holds of a text that it is set to: all before the first NUL, in characters. -/
def held (text : String) : String :=
  Text.wellFormed (String.ofList (text.toList.takeWhile (· ≠ '\x00')))

/-- The text of a variable that is set. -/
def text? (env : Environment) (name : String) : Option String := (env.get? name).map held

/-- The value of a variable that is set to something. -/
def value? (env : Environment) (name : String) : Option String :=
  (env.text? name).filter fun text => !text.isEmpty

/-- A word without the blanks around it, in small letters. -/
def word (text : String) : String := Text.lower (Text.trim text)

end Environment

namespace Settings

open Environment

/-- The number that a text spells, if it is finite. -/
def readNumber (text : Option String) (default : Num) : Num :=
  match text with
  | none => default
  | some text =>
    let x := Num.ofText text
    if x.isFinite then x else default

/-- The truth value that a word spells. -/
def readSwitch (text : Option String) (default : Bool) : Bool :=
  match text with
  | none => default
  | some text =>
    let w := word text
    if w ∈ ["1", "true", "yes", "on"] then true
    else if w ∈ ["0", "false", "no", "off"] then false
    else default

/-- The level that a word names. -/
def readLevel (text : Option String) : Journal.Level :=
  ((text.map word).bind Journal.Level.ofText?).getD .info

def complaint (message : String) : Failure := ⟨.exception "Error" message, []⟩

def readBackend (env : Environment) : Except Failure BackendChoice :=
  let kind := word ((env.value? "GRIDVFS_BACKEND").getD "memory")
  if kind = "local" then
    match (env.value? "GRIDVFS_LOCAL_DIRECTORY").map Text.trim with
    | none | some "" =>
      .error (complaint "Set GRIDVFS_LOCAL_DIRECTORY when GRIDVFS_BACKEND=local")
    | some directory => .ok (.local directory)
  else if kind = "memory" then .ok .memory
  else .error (complaint ("Unsupported GRIDVFS_BACKEND: " ++ kind))

def defaultRoot (backend : BackendChoice) (zone owner : String) : String :=
  match backend with
  | .local _ => "/"
  | _ => "/" ++ zone ++ "/home/" ++ owner

/-- The way to find user ids: the one that is named, or the backend's own. -/
def readMode (env : Environment) (backend : BackendChoice) : IdentityMode :=
  let w := word ((env.value? "GRIDVFS_IDENTITY_MODE").getD "")
  if w = "static" then .static
  else if w = "passthrough" then .passthrough
  else
    match backend with
    | .local _ => .passthrough
    | _ => .static

/-- The identity of the default owner, unless a map is given. -/
def defaultIdentity : String := "10000"

/-- The map of identities that is given, or the default owner's alone. -/
def readIdentities (env : Environment) (zone owner : String) :
    Except Failure (OrderedMap String String) :=
  match env.value? "GRIDVFS_IDENTITY_MAP" with
  | some text => do return ⟨Json.memberOrder (← Identity.readMap text).entries⟩
  | none => .ok (OrderedMap.ofList [(Identity.owner owner zone, defaultIdentity)])

/-- The settings that an environment tells, looked at by the rules. -/
def ofEnvironment (env : Environment) : Except Failure Settings := do
  let backend ← readBackend env
  let zone := (env.value? "GRIDVFS_ZONE").getD "tempZone"
  let owner := (env.value? "GRIDVFS_DEFAULT_OWNER").getD "rods"
  let identities ← readIdentities env zone owner
  validate {
    host := ((env.value? "GRIDVFS_HOST").orElse fun _ => env.value? "HOST").getD "127.0.0.1"
    port := readNumber ((env.value? "GRIDVFS_PORT").orElse fun _ => env.value? "PORT") 4400
    logLevel := readLevel (env.value? "GRIDVFS_LOG_LEVEL")
    metricsEnabled := readSwitch (env.text? "GRIDVFS_METRICS_ENABLED") true
    backend := backend
    rootPath := (env.value? "GRIDVFS_ROOT_PATH").getD (defaultRoot backend zone owner)
    zone := zone
    defaultOwner := owner
    identityMode := readMode env backend
    identities := identities }

/-- The settings that are kept, if there are any. -/
abbrev Kept := Option Settings

/-- The kept settings, or those that the environment tells, which are then kept.  A failure keeps
nothing. -/
def load (env : Environment) (kept : Kept) : Except Failure Settings × Kept :=
  match kept with
  | some s => (.ok s, kept)
  | none =>
    match ofEnvironment env with
    | .ok s => (.ok s, some s)
    | .error failure => (.error failure, none)

end Settings

end InodeGateway
