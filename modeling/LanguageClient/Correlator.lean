import LanguageClient.Json.Access

/-!
Requests that wait for their answers. Ids count upward and are never given twice.
-/

namespace LanguageClient

/-- A request that was sent. Its place in the table is named by the id it was first taken for. -/
structure Pending (κ : Type) where
  key : Json.Key
  slot : Json
  id : Json
  method : Json
  handler : Option κ
  ticket : Nat
  timestamp : Float
  deadline : Option Float

structure Correlator (κ : Type) where
  lastId : Nat := 0
  pending : List (Pending κ) := []

namespace Correlator

variable {κ : Type}

def size (c : Correlator κ) : Nat := c.pending.length

def contains (c : Correlator κ) (key : Json.Key) : Bool := c.pending.any fun p => p.key = key

/-- The correlator whose last id is the next one. -/
def advance (c : Correlator κ) : Correlator κ := { c with lastId := c.lastId + 1 }

/-- An entry of the same key is replaced where it stands. -/
def insert (p : Pending κ) : List (Pending κ) → List (Pending κ)
  | [] => [p]
  | q :: qs => if q.key = p.key then { p with slot := q.slot } :: qs else q :: insert p qs

/-- The entry of a request that is sent at `now`. -/
def entry (id method : Json) (handler : Option κ) (ticket : Nat) (now : Float) (timeout : Json) :
    Checked (Pending κ) := do
  let deadline ← match timeout with
    | .null => pure none
    | seconds => do pure (some (now + (← seconds.toFloat)))
  let key ← id.key
  return ⟨key, id, id, method, handler, ticket, now, deadline⟩

def register (c : Correlator κ) (p : Pending κ) : Correlator κ :=
  { c with pending := insert p c.pending }

def find? (c : Correlator κ) (key : Json.Key) : Option (Pending κ) :=
  c.pending.find? fun p => p.key = key

def erase (c : Correlator κ) (key : Json.Key) : Correlator κ :=
  { c with pending := c.pending.filter fun p => p.key ≠ key }

/-- The key of an id that can answer a request: an integer or a text. -/
def answerKey? : Json → Option Json.Key
  | .bool b => (Json.bool b).key?
  | .int n => (Json.int n).key?
  | .text t => (Json.text t).key?
  | _ => none

/-- The request that an id answers. -/
def answered? (c : Correlator κ) (id : Json) : Option (Pending κ) :=
  (answerKey? id).bind c.find?

/-- Whether the deadline of a request has come. -/
def isOverdue (now : Json) (p : Pending κ) : Checked Bool :=
  match p.deadline with
  | none => .ok false
  | some deadline =>
    match now.number? with
    | some now => .ok ((Exact.ofFloat deadline).atMost now)
    | none => .error .wrongType

def overdue (c : Correlator κ) (now : Json) : Checked (List (Pending κ)) :=
  c.pending.filterM (isOverdue now)

end Correlator

end LanguageClient
