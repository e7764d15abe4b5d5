import InodeGateway.Operation
import InodeGateway.OrderedMap

/-!
# Counting requests and operations

How often each kind of request was answered, and each operation ended in each way.

## Main definitions

* `Metrics.RequestLabel` — under what a request is counted
* `Metrics.lines` — the counts, one to a line
-/

namespace InodeGateway.Http.Metrics

/-- Under what a request is counted. -/
structure RequestLabel where
  method : String
  route : String
  status : Nat
  deriving DecidableEq, Repr

abbrev Counts (κ : Type) [DecidableEq κ] := OrderedMap κ Nat

def count {κ : Type} [DecidableEq κ] (c : Counts κ) (k : κ) : Counts κ :=
  c.insert k ((c.get? k).getD 0 + 1)

def countAll {κ : Type} [DecidableEq κ] (ks : List κ) : Counts κ := ks.foldl count {}

/-- A character of a value as it stands between quotation marks. -/
def escape (c : Char) : List Char :=
  if c = '\\' then ['\\', '\\']
  else if c = '\n' then ['\\', 'n']
  else if c = '"' then ['\\', '"']
  else [c]

def label (name value : String) : String :=
  name ++ "=\"" ++ String.ofList (value.toList.flatMap escape) ++ "\""

/-- One line: a name, labels and a count. -/
def line (name : String) (labels : List (String × String)) (n : Nat) : String :=
  let written := ",".intercalate (labels.map fun l => label l.1 l.2)
  name ++ (if labels.isEmpty then "" else "\x7b" ++ written ++ "\x7d") ++ " " ++ toString n

def RequestLabel.pairs (l : RequestLabel) : List (String × String) :=
  [("method", l.method), ("route", l.route), ("status", toString l.status)]

def operationPairs (o : Operation × Outcome) : List (String × String) :=
  [("operation", o.1.text), ("outcome", o.2.text)]

/-- The counts, one to a line, in alphabetical order. -/
def lines (requests : Counts RequestLabel) (operations : Counts (Operation × Outcome))
    (inodes : Nat) : List String :=
  (requests.entries.map (fun e => line "gridvfs_http_requests_total" e.1.pairs e.2) ++
    requests.entries.map
      (fun e => line "gridvfs_http_request_duration_seconds_count" e.1.pairs e.2) ++
    operations.entries.map
      (fun e => line "gridvfs_vfs_operations_total" (operationPairs e.1) e.2) ++
    [line "gridvfs_inode_table_entries" [] inodes]).mergeSort fun a b => a ≤ b

end InodeGateway.Http.Metrics
