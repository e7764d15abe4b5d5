import InodeGateway.Disk
import InodeGateway.Failure
import InodeGateway.Text.Quoted

/-!
# Failures of a disk

How other programs see what goes wrong with a disk: the errors of the file system, and arguments
that are not even handed to it.

## Main definitions

* `Errno.failure` — an error of the file system as a failure
* `Disk.nulFailure?` — what is wrong with a written path that holds a NUL
* `Disk.timeFailure` — what is wrong with a moment that is no finite number
* `Disk.modeFailure?` — what is wrong with a number that is none of permission bits
-/

namespace InodeGateway

/-- What is said about an error of the file system: its symbol stands for the system's own words. -/
def Errno.message (e : Errno) : String := "errno:" ++ e.symbol

/-- An error of the file system as other programs see it. -/
def Errno.failure (e : Errno) : Failure := ⟨.exception "Error" e.message, []⟩

namespace Disk

/-- The failure of a call one of whose arguments is a written path that holds a NUL. -/
def nulFailure? (argument written : String) : Option Failure :=
  if '\x00' ∈ written.toList then
    some ⟨.exception "TypeError" ("The argument '" ++ argument ++ "' must be a string, " ++
      "Uint8Array, or URL without null bytes. Received " ++ Text.quoted written), []⟩
  else none

/-- The failure of a call that is told a moment which is no finite number of milliseconds. -/
def timeFailure (ms : Num) : Failure :=
  ⟨.exception "TypeError" ("The \"time\" argument must be an instance of Date or an Time in " ++
    "seconds. Received type number (" ++ ms.toText ++ ")"), []⟩

/-- The characters of a number with a mark between groups of three; the last character stands
first. -/
def groups : List Char → List Char
  | a :: b :: c :: d :: rest => a :: b :: c :: (if d = '-' then [] else ['_']) ++ groups (d :: rest)
  | cs => cs

/-- The greatest number of permission bits. -/
def modeLimit : Nat := 0xffffffff

/-- A number as a message shows it: great whole ones in groups. -/
def shown (x : Num) : String :=
  match x with
  | .fin q =>
    if q.den = 1 ∧ modeLimit + 1 < q.num.natAbs then
      String.ofList (groups x.toText.toList.reverse).reverse
    else x.toText
  | _ => x.toText

/-- The failure of a call that is told permission bits which are no whole number, or one that is too
great or below zero. -/
def modeFailure? (mode : Num) : Option Failure :=
  let range :=
    match mode with
    | .fin q =>
      if q.den ≠ 1 then some "an integer"
      else if q < 0 ∨ (modeLimit : Rat) < q then some (">= 0 && <= " ++ toString modeLimit)
      else none
    | _ => some "an integer"
  range.map fun range =>
    ⟨.exception "RangeError" ("The value of \"mode\" is out of range. It must be " ++ range ++
      ". Received " ++ shown mode), []⟩

end Disk

end InodeGateway
