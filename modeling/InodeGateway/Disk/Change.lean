import InodeGateway.Disk

/-!
# Changes of a disk

What other programs of the same user do: they write files, make directories and links, change what
is noted about objects, and remove them.  What is noted about an object is its owner's to change.  A
change of many objects that fails has done what it could before.

## Main definitions

* `Disk.write`, `Disk.link`, `Disk.setMode`, `Disk.setModified` — changes of one object
* `Disk.makeDirectories`, `Disk.remove` — changes of many objects
-/

namespace InodeGateway.Disk

/-- Writes a file of so many bytes, replacing the content of one that exists. -/
def write (d : Disk) (path : Place) (size : Nat) : Except Errno Disk := do
  let p ← d.find .file path
  match d.entry? p with
  | none => d.putNew p (.file size) fileMode
  | some e =>
    if e.content = .directory then throw .isDirectory
    else if e.allows d.userId .write then
      return { d with entries := d.entries.insert p { e.touched d.now with content := .file size } }
    else throw .accessDenied

/-- Makes a symbolic link. -/
def link (d : Disk) (path : Place) (target : String) : Except Errno Disk :=
  let target := Text.wellFormed target
  if target.isEmpty then .error .noEntry
  else if pathLimit < Text.byteSize target then .error .nameTooLong
  else d.make path (.link target) 0o777

/-- Changes what is noted about an object, which its owner may. -/
def change (d : Disk) (path : Place) (f : Entry → Entry) : Except Errno Disk := do
  let p ← d.find .target path
  match d.entry? p with
  | none => throw .noEntry
  | some e =>
    if e.owner = d.userId then
      return { d with entries := d.entries.modify p fun e => { f e with changedAt := d.now } }
    else throw .notPermitted

/-- Sets the permission bits of an object. -/
def setMode (d : Disk) (path : Place) (mode : Nat) : Except Errno Disk :=
  d.change path fun e => { e with mode := mode }

def setModified (d : Disk) (path : Place) (moment : Instant) : Except Errno Disk :=
  d.change path fun e => { e with modifiedAt := moment }

/-- The double nearest to a quotient, which is far within their range. -/
def nearest (q : Rat) : Rat :=
  match Num.ofRat q with
  | .fin r => r
  | _ => q

/-- The last moment that is kept, in milliseconds. -/
def lastKept : Int := 15032385535000

/-- The moment that is kept for a number of milliseconds, if it is one.  The number is handed over
in seconds, kept in whole microseconds, and read in milliseconds, to the nearest one; a number below
zero stands for the present moment. -/
def kept? (d : Disk) (ms : Num) : Option Instant :=
  match ms with
  | .fin ms =>
    if ms < 0 then some d.now
    else
      let time := nearest (ms / 1000)
      let seconds := Num.truncate time
      let nanoseconds := Num.truncate (nearest ((time - seconds) * 1000000000))
      let whole := nanoseconds - nanoseconds % 1000
      let read := nearest (seconds * 1000 + nearest (whole / 1000000))
      some (.at (min (read + 1 / 2).floor lastKept))
  | _ => none

/-! ### Changes of many objects -/

/-- How a change of many objects ended, and the disk after it. -/
abbrev Outcome := Except Errno Unit × Disk

/-- How a change ended that goes on with another part unless there was an error. -/
def Outcome.andThen (r : Outcome) (next : Disk → Outcome) : Outcome :=
  match r.1 with
  | .ok () => next r.2
  | .error _ => r

/-- Whether a path leads to a directory; the error if it leads nowhere. -/
def isDirectory (d : Disk) (path : Place) : Except Errno Bool := do
  return (← d.stat path).content = .directory

/-- Makes a directory that has to be there, with `last` as the one that is asked for.  One that
stands there is kept. -/
def ensureDirectory (d : Disk) (last : Bool) (path : Place) : Except Errno Disk :=
  match d.makeDirectory path with
  | .error .exists =>
    match d.isDirectory path with
    | .ok true => .ok d
    | .ok false => .error (if last then .exists else .notDirectory)
    | .error e => .error e
  | r => r

/-- Makes the directories above a path from the top down, as far as it goes, and then its own. -/
def ensureAll (d : Disk) (done : Place) : Place → Outcome
  | [] => (.ok (), d)
  | name :: rest =>
    match d.ensureDirectory rest.isEmpty (done ++ [name]) with
    | .ok d => d.ensureAll (done ++ [name]) rest
    | .error e => (.error e, d)

/-- Makes a directory and the missing ones above it.  A way that is wrong otherwise than by missing
directories is not begun. -/
def makeDirectories (d : Disk) (path : Place) : Outcome :=
  match d.find .slot path with
  | .ok _ | .error .noEntry => d.ensureAll [] path
  | .error e => (.error e, d)

/-- The disk without the object at a place. -/
def drop (d : Disk) (p : Place) : Disk :=
  ({ d with entries := d.entries.erase p } : Disk).touch p.dropLast

/-- Removes the object at a place and all that is below it, until the permission bits forbid it.
The directories that lead to the place can be passed.  The fuel is the depth that is left. -/
def clear : (fuel : Nat) → Disk → Place → Outcome
  | 0, d, _ => (.error .tooManyLinks, d)
  | fuel + 1, d, p =>
    if d.allowsAt .write p.dropLast = false then (.error .accessDenied, d)
    else
      match d.namesAt p with
      | [] => (.ok (), d.drop p)
      | names =>
        if d.allowsAt .read p && d.allowsAt .execute p then
          let start : Outcome := (.ok (), d)
          match names.foldl (fun s name => s.andThen (clear fuel · (p ++ [name]))) start with
          | (.ok (), d) => (.ok (), d.drop p)
          | r => r
        else (.error .accessDenied, d)

/-- Removes the object at a place where something stands, at whose end a path has its last name.  A
link that slashes follow counts as the directory that it leads to, but cannot be removed as one.
Nothing is nested deeper than there are objects. -/
def removeAt (d : Disk) (p slot : Place) : Outcome :=
  if p = slot then clear (d.entries.size + 1) d p
  else (.error (if d.allowsAt .write slot.dropLast then .notDirectory else .accessDenied), d)

/-- Removes an object and all that is below it; a link is removed itself. -/
def remove (d : Disk) (path : Place) : Outcome :=
  match d.find .itself path, d.find .slot path with
  | .ok p, .ok slot => if (d.entry? p).isNone then (.error .noEntry, d) else d.removeAt p slot
  | .error e, _ | _, .error e => (.error e, d)

end InodeGateway.Disk
