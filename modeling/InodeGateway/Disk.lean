import InodeGateway.Object
import InodeGateway.OrderedMap
import InodeGateway.Text.Half

/-!
# A disk

A tree of directories, files and symbolic links, as a file system of a machine keeps it, and the way
in which such a system finds the object that a path names.  Links are followed in every component
but the last, and there too unless the call asks for the link itself.  Each object belongs to a
user, for whom the owner's permission bits decide; for anyone else it is those of all others.  There
are no groups, and no user to whom everything is permitted.

## Main definitions

* `Disk` — the objects at their real places
* `Disk.place` — the real place that a path leads to
* `Disk.stat`, `Disk.access`, `Disk.makeDirectory`, `Disk.makeFile`, `Disk.names` — what programs
  ask for
-/

namespace InodeGateway

/-- The errors of a file system. -/
inductive Errno where
  | noEntry
  | exists
  | notDirectory
  | isDirectory
  | tooManyLinks
  | nameTooLong
  | accessDenied
  | notPermitted
  deriving DecidableEq, Repr

def Errno.symbol : Errno → String
  | .noEntry => "ENOENT"
  | .exists => "EEXIST"
  | .notDirectory => "ENOTDIR"
  | .isDirectory => "EISDIR"
  | .tooManyLinks => "ELOOP"
  | .nameTooLong => "ENAMETOOLONG"
  | .accessDenied => "EACCES"
  | .notPermitted => "EPERM"

namespace Disk

/-- What stands at a place. -/
inductive Content where
  | directory
  /-- A file of so many bytes. -/
  | file (size : Nat)
  | link (target : String)
  deriving DecidableEq, Repr

/-- An object with its permission bits and the user who owns it. -/
structure Entry where
  content : Content
  mode : Nat
  owner : Nat
  /-- When it was made, or the beginning of 1970 if that is not kept. -/
  bornAt : Instant
  /-- When its content was changed last. -/
  modifiedAt : Instant
  /-- When anything about it was changed last. -/
  changedAt : Instant
  deriving DecidableEq, Repr

/-- The names from the root of the disk down. -/
abbrev Place := List String

end Disk

/-- The objects of a disk, the user who asks, and the present moment. -/
structure Disk where
  entries : OrderedMap Disk.Place Disk.Entry
  userId : Nat
  now : Instant
  /-- The space that the file system tells of. -/
  space : Capacity
  /-- Whether the file system keeps when objects were made. -/
  keepsBirth : Bool := true
  deriving Repr

namespace Disk

/-- The permission bits of new directories. -/
def directoryMode : Nat := 0o755

/-- The permission bits of new files. -/
def fileMode : Nat := 0o644

/-- How many links are followed on one way. -/
def linkLimit : Nat := 40

/-- The greatest length of a name, in bytes. -/
def nameLimit : Nat := 255

/-- The greatest length of a written path, in bytes. -/
def pathLimit : Nat := 4095

/-- The components of a written path. -/
def components (text : String) : List String := (text.toList.splitOn '/').map String.ofList

/-- Whether a written path begins at the root. -/
def isAbsolute (text : String) : Bool := text.toList.head? = some '/'

/-- The characters of the written form of a place. -/
def Place.chars (p : Place) : List Char := '/' :: ['/'].intercalate (p.map String.toList)

/-- The written form of a place. -/
def Place.toText (p : Place) : String := String.ofList p.chars

/-- A new disk of one tebibyte, half of which is free for users, with its root alone. -/
def empty (userId : Nat) (now : Instant) : Disk where
  entries := OrderedMap.ofList [([], ⟨.directory, directoryMode, userId, now, now, now⟩)]
  userId := userId
  now := now
  space := ⟨1099511627776, 549755813888⟩

def entry? (d : Disk) (p : Place) : Option Entry := d.entries.get? p

/-- The bit that gives the owner a right. -/
def ownerBit : Right → Nat
  | .read => 0o400
  | .write => 0o200
  | .execute => 0o100

/-- The permission bits that decide for a user, where those of an owner stand: the bits of all
others stand six places lower. -/
def Entry.bitsFor (e : Entry) (user : Nat) : Nat := if e.owner = user then e.mode else e.mode <<< 6

/-- Whether the permission bits of an object give a user a right.  The right to execute a directory
is the right to look names up in it. -/
def Entry.allows (e : Entry) (user : Nat) (right : Right) : Bool :=
  e.bitsFor user &&& ownerBit right != 0

/-- Whether an object stands at a place that the user has a right on. -/
def allowsAt (d : Disk) (right : Right) (p : Place) : Bool :=
  (d.entry? p).any fun e => e.allows d.userId right

/-! ### Ways -/

/-- What a path is to lead to. -/
inductive Goal where
  /-- The object at its end, even if that is a link. -/
  | itself
  /-- The object that a link at its end leads to. -/
  | target
  /-- The same, where a file is to be made if nothing is there. -/
  | file
  /-- The place of a new object, whatever slashes follow its name. -/
  | slot
  deriving DecidableEq, Repr

/-- Whether only slashes follow. -/
def isSlashes (rest : List String) : Bool := rest ≠ [] && rest.all (· = "")

/-- The place that `todo` leads to from `here`.  Every component but the last must exist; a
directory must stand wherever another component follows, and the user must have the right to look
the component up in it.  A file cannot be made at a name that slashes follow.  At most `budget`
links are followed. -/
def place (d : Disk) (goal : Goal) (budget : Nat) (here : Place) (todo : List String) :
    Except Errno Place :=
  match todo with
  | [] => .ok here
  | name :: rest =>
    if (d.entry? here).map Entry.content ≠ some .directory then .error .notDirectory
    else if name = "" then d.place goal budget here rest
    else if d.allowsAt .execute here = false then .error .accessDenied
    else if name = "." then d.place goal budget here rest
    else if name = ".." then d.place goal budget here.dropLast rest
    else if goal = .file ∧ isSlashes rest then .error .isDirectory
    else if nameLimit < Text.byteSize name then .error .nameTooLong
    else
      let next := here ++ [name]
      if goal = .slot ∧ rest.all (· = "") then .ok next
      else match (d.entry? next).map Entry.content with
      | none => if rest = [] then .ok next else .error .noEntry
      | some (.link target) =>
        if rest = [] ∧ goal = .itself then .ok next
        else
          match budget with
          | 0 => .error .tooManyLinks
          | budget + 1 =>
            d.place goal budget (if isAbsolute target then [] else here)
              (components target ++ rest)
      | some _ => d.place goal budget next rest
termination_by (budget, todo.length)

/-- The place of a written absolute path.  Names are kept in bytes, which cannot hold halves of
pairs. -/
def find (d : Disk) (goal : Goal) (path : Place) : Except Errno Place :=
  let path : Place := path.map Text.wellFormed
  if pathLimit < Text.byteSize path.toText then .error .nameTooLong
  else d.place goal linkLimit [] path

/-! ### What programs ask for -/

/-- The object that a path names. -/
def stat (d : Disk) (path : Place) : Except Errno Entry := do
  match d.entry? (← d.find .target path) with
  | some entry => .ok entry
  | none => .error .noEntry

/-- Asks for a right on the object that a path names. -/
def access (d : Disk) (right : Right) (path : Place) : Except Errno Unit := do
  if (← d.stat path).allows d.userId right then return () else throw .accessDenied

/-- An object that was just changed. -/
def Entry.touched (e : Entry) (moment : Instant) : Entry :=
  { e with modifiedAt := moment, changedAt := moment }

/-- Notes that a directory changed. -/
def touch (d : Disk) (p : Place) : Disk :=
  { d with entries := d.entries.modify p fun e => e.touched d.now }

/-- A new object, which belongs to the user who asks. -/
def fresh (d : Disk) (content : Content) (mode : Nat) : Entry where
  content := content
  mode := mode
  owner := d.userId
  bornAt := if d.keepsBirth then d.now else .at 0
  modifiedAt := d.now
  changedAt := d.now

def put (d : Disk) (p : Place) (content : Content) (mode : Nat) : Disk :=
  ({ d with entries := d.entries.insert p (d.fresh content mode) } : Disk).touch p.dropLast

/-- Puts a new object into a directory that the user may write. -/
def putNew (d : Disk) (p : Place) (content : Content) (mode : Nat) : Except Errno Disk :=
  if d.allowsAt .write p.dropLast then .ok (d.put p content mode) else .error .accessDenied

/-- Makes a new object at a path where nothing stands, not even a link.  Only the name of a
directory can be followed by slashes. -/
def make (d : Disk) (path : Place) (content : Content) (mode : Nat) : Except Errno Disk := do
  let p ← d.find .slot path
  if (d.entry? p).isSome then throw .exists
  if content ≠ .directory ∧ path.getLast? = some "" then throw .noEntry
  d.putNew p content mode

/-- Makes a new directory. -/
def makeDirectory (d : Disk) (path : Place) : Except Errno Disk :=
  d.make path .directory directoryMode

/-- Makes a new file without content. -/
def makeFile (d : Disk) (path : Place) : Except Errno Disk := d.make path (.file 0) fileMode

/-- The names in the directory at a place, in the order of their bytes. -/
def namesAt (d : Disk) (p : Place) : List String :=
  ((d.entries.keys.filter fun q => q ≠ [] ∧ q.dropLast = p).filterMap List.getLast?).mergeSort
    fun a b => a ≤ b

def names (d : Disk) (path : Place) : Except Errno (List String) := do
  let p ← d.find .target path
  match (d.entry? p).map Entry.content with
  | none => throw .noEntry
  | some .directory => if d.allowsAt .read p then return d.namesAt p else throw .accessDenied
  | some _ => throw .notDirectory

end Disk

end InodeGateway
