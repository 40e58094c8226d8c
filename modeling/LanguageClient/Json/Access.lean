import LanguageClient.Fault
import LanguageClient.Number.Read

/-!
Access to values of any shape: fields, paths and arithmetic on numbers.
-/

namespace LanguageClient.Json

mutual

/-- Whether no integer in a value is too long to be written. -/
def isWritable : Json → Bool
  | int n => n.natAbs < Nat.pow 10 Number.longestInteger
  | list items => areWritable items
  | object fields => fieldsAreWritable fields
  | _ => true

def areWritable : List Json → Bool
  | [] => true
  | v :: rest => isWritable v && areWritable rest

def fieldsAreWritable : Fields → Bool
  | [] => true
  | (_, v) :: rest => isWritable v && fieldsAreWritable rest

end

/-- A value that can be written. -/
def writable (v : Json) : Checked Json := if v.isWritable then .ok v else .error .longToWrite

def fields : Json → Checked Fields
  | object fields => .ok fields
  | _ => .error .notAnObject

/-- The value of a field of an object, if it is there. -/
def field? (v : Json) (key : Text) : Checked (Option Json) := do
  return Fields.get? (← v.fields) key

def fieldD (v : Json) (key : Text) (default : Json) : Checked Json := do
  return (← v.field? key).getD default

/-- The value of a field, null if it is missing. -/
def field (v : Json) (key : Text) : Checked Json := v.fieldD key .null

/-- The value of a mandatory field. -/
def mandatory (v : Json) (key : Text) : Checked Json :=
  match v with
  | object fields =>
    match Fields.get? fields key with
    | some w => .ok w
    | none => .error .missingField
  | _ => .error .wrongType

/-- The item of a list at an index; negative ones count from the end. -/
def item? (items : List Json) (i : Int) : Option Json :=
  let n : Int := items.length
  if -n ≤ i && i < n then items[(if i < 0 then i + n else i).toNat]? else none

/-- One step into a value: a field of an object by its name, or an item of a list by its index. -/
def child? : Json → Json → Option Json
  | object fields, text key => Fields.get? fields key
  | list items, int i => item? items i
  | list items, bool b => item? items (if b then 1 else 0)
  | _, _ => none

/-- The value at a path, if every step applies. -/
def walk? (v : Json) : List Json → Option Json
  | [] => some v
  | key :: keys => (v.child? key).bind fun w => w.walk? keys

/-- The value at a path, or `default` if a step does not apply or null is there. -/
def lookup (v : Json) (path : List Json) (default : Json) : Json :=
  match v.walk? path with
  | some null | none => default
  | some w => w

/-- The nearest floating point value of an integer, infinite beyond the largest one. -/
def nearestFloat (n : Int) : Float :=
  let x := Number.scale n.natAbs 0
  if n < 0 then -x else x

/-- The floating point value of an integer. -/
def floatOfInt (n : Int) : Checked Float :=
  if (nearestFloat n).isInf then .error .overflow else .ok (nearestFloat n)

/-- A number as a floating point value. -/
def toFloat : Json → Checked Float
  | bool b => .ok (if b then 1.0 else 0.0)
  | int n => floatOfInt n
  | float x => .ok x
  | _ => .error .wrongType

/-- A time in seconds that may be infinite; null is no limit. -/
def duration : Json → Checked (Option Float)
  | null => .ok none
  | bool b => .ok (some (if b then 1.0 else 0.0))
  | int n => .ok (some (nearestFloat n))
  | float x => .ok (some x)
  | _ => .error .wrongType

/-- A time that can be waited for: a number of nanoseconds below `2 ^ 63`. -/
def limit (timeout : Json) : Checked (Option Float) := do
  match ← timeout.duration with
  | none => return none
  | some x =>
    if x.isNaN then throw (.invalidValue "Invalid value NaN (not a number)")
    else if 9223372036854775808.0 ≤ x * 1000000000.0 then throw .overflow
    else return some x

/-- A number moved by a whole amount. -/
def shift (v : Json) (amount : Int) : Checked Json :=
  match v with
  | bool b => .ok (int ((if b then 1 else 0) + amount))
  | int n => .ok (int (n + amount))
  | float x => do return float (x + (← floatOfInt amount))
  | _ => .error .wrongType

/-- The items that a value yields one after the other: those of a list, the keys of an object, the
code points of a text. -/
def elements : Json → Checked (List Json)
  | list items => .ok items
  | object fields => .ok (fields.map fun (k, _) => text k)
  | text t => .ok (t.map fun c => text [c])
  | _ => .error .wrongType

/-- The number of those items. -/
def size (v : Json) : Checked Nat := do return (← v.elements).length

/-- The key of a value in a table. -/
def key (v : Json) : Checked Key :=
  match v.key? with
  | some k => .ok k
  | none => .error .wrongType

end LanguageClient.Json
