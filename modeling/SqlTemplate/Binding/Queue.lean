import SqlTemplate.Binding.Entry

/-! The queue of the entries of one statement, in the order of their places. Entries leave it at
the front, through drains that may be interleaved with each other and with additions. -/
namespace SqlTemplate

/-- The entries that wait to be bound. -/
abbrev Queue := List BindEntry

namespace Queue

def enqueue (queue : Queue) (entry : BindEntry) : Queue := queue ++ [entry]

/-- Adds one entry for each marker of a mapping. -/
def enqueueNamed (queue : Queue) (markers : List (Value × Value)) : Queue :=
  queue ++ markers.map fun (marker, value) => .inferred value marker

def isNamed (queue : Queue) : Bool := queue.any BindEntry.isNamed

def literal (queue : Queue) : Except FaultKind String :=
  (queue.mapM BindEntry.literal).map fun entries =>
    "BindingQueue([" ++ ", ".intercalate entries ++ "])"

/-- The entries with their places, counted from one. -/
def numbered (queue : Queue) : List (Nat × BindEntry) :=
  queue.zipIdx 1 |>.map fun (entry, place) => (place, entry)

end Queue

/-- An iteration that takes entries out of a queue one by one. It counts the entries that it took
itself, and once it has found the queue empty it is over for good. -/
structure Drain where
  taken : Nat
  finished : Bool
  deriving DecidableEq, Repr, Inhabited

namespace Drain

def start : Drain := { taken := 0, finished := false }

/-- Takes the next entry, with its place in this drain; what is left of the queue follows. -/
def next (drain : Drain) (queue : Queue) : Option (Nat × BindEntry) × Drain × Queue :=
  if drain.finished then (none, drain, queue)
  else
    match queue with
    | [] => (none, { drain with finished := true }, [])
    | entry :: rest =>
      (some (drain.taken + 1, entry), { drain with taken := drain.taken + 1 }, rest)

end Drain

end SqlTemplate
