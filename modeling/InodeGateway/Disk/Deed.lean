import InodeGateway.Disk.Change
import InodeGateway.Disk.Report

/-!
# Deeds

What another program of the same user can do at a path, with the failure that is seen if it goes
wrong.

## Main definitions

* `Disk.Deed` — what is done
* `Disk.Deed.perform` — the disk after it, and its failure
-/

namespace InodeGateway.Disk

/-- What another program does at a path. -/
inductive Deed where
  /-- Writes a file of so many bytes. -/
  | write (size : Nat)
  /-- Makes a directory and those that are missing above it. -/
  | makeDirectories
  /-- Makes a symbolic link. -/
  | link (target : String)
  /-- Sets the permission bits. -/
  | setMode (mode : Num)
  /-- Sets the moment of the last change, in milliseconds. -/
  | setModified (ms : Num)
  /-- Removes the object and all that is below it. -/
  | remove
  deriving DecidableEq, Repr

namespace Deed

/-- What is wrong with the arguments, before the disk is asked. -/
def objection? (path : Place) : Deed → Option Failure
  | .link target => (nulFailure? "target" target).or (nulFailure? "path" path.toText)
  | .setMode mode => (nulFailure? "path" path.toText).or (modeFailure? mode)
  | _ => nulFailure? "path" path.toText

def bits (mode : Num) : Nat :=
  match mode with
  | .fin q => q.num.toNat
  | _ => 0

/-- The outcome of a change of one object. -/
def settle (d : Disk) : Except Errno Disk → Except Failure Unit × Disk
  | .ok after => (.ok (), after)
  | .error e => (.error e.failure, d)

/-- The outcome of a change of many objects. -/
def settleMany (r : Outcome) : Except Failure Unit × Disk := (r.1.mapError Errno.failure, r.2)

/-- The disk after a deed at a path, and its failure. -/
def perform (d : Disk) (path : Place) (deed : Deed) : Except Failure Unit × Disk :=
  match deed.objection? path with
  | some failure => (.error failure, d)
  | none =>
    match deed with
    | .write size => settle d (d.write path size)
    | .makeDirectories => settleMany (d.makeDirectories path)
    | .link target => settle d (d.link path target)
    | .setMode mode => settle d (d.setMode path (bits mode))
    | .setModified ms =>
      match d.kept? ms with
      | some moment => settle d (d.setModified path moment)
      | none => (.error (timeFailure ms), d)
    | .remove => settleMany (d.remove path)

end Deed

end InodeGateway.Disk
