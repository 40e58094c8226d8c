import LanguageClient.Number.Exact
import LanguageClient.Text.Basic

/-!
JSON values. Integers and floating point numbers are told apart, and the fields of an object keep
their order.
-/

namespace LanguageClient

inductive Json where
  | null
  | bool (b : Bool)
  | int (n : Int)
  | float (x : Float)
  | text (t : Text)
  | list (items : List Json)
  | object (fields : List (Text × Json))
deriving Inhabited

abbrev Fields := List (Text × Json)

namespace Fields

def get? : Fields → Text → Option Json
  | [], _ => none
  | (k, v) :: rest, key => if k = key then some v else get? rest key

def getD (fields : Fields) (key : Text) (default : Json) : Json := (get? fields key).getD default

/-- A field that is there keeps its place and changes its value; a new one goes last. -/
def put : Fields → Text → Json → Fields
  | [], key, value => [(key, value)]
  | (k, v) :: rest, key, value =>
    if k = key then (k, value) :: rest else (k, v) :: put rest key value

end Fields

namespace Json

instance : Coe Text Json := ⟨.text⟩
instance : Coe String Json := ⟨fun s => .text s⟩

/-- Null, false, zero and everything empty do not hold. -/
def holds : Json → Bool
  | null => false
  | bool b => b
  | int n => n != 0
  | float x => x != 0.0
  | text t => !t.isEmpty
  | list items => !items.isEmpty
  | object fields => !fields.isEmpty

/-- The value itself if it holds, else the other one. -/
def orElse (a b : Json) : Json := if a.holds then a else b

def isNull : Json → Bool
  | null => true
  | _ => false

/-- The number a value stands for; the two truth values stand for one and zero. -/
def number? : Json → Option Exact
  | bool b => some (.ofInt (if b then 1 else 0))
  | int n => some (.ofInt n)
  | float x => some (.ofFloat x)
  | _ => none

/-- What a table finds its entries by: numbers of one value are one key. -/
inductive Key where
  | null
  | number (value : Exact)
  | text (t : Text)
deriving DecidableEq

/-- Lists and objects are no keys. -/
def key? : Json → Option Key
  | null => some .null
  | text t => some (.text t)
  | list _ | object _ => none
  | v => v.number?.map .number

mutual

/-- Equality inside lists and objects: numbers are compared by value, and fields without regard to
their order. -/
def alike : Json → Json → Bool
  | null, null => true
  | text a, text b => a = b
  | list as, list bs => alikeItems as bs
  | object as, object bs => as.length == bs.length && alikeFields as bs
  | bool a, b => b.number? == some (.ofInt (if a then 1 else 0))
  | int a, b => b.number? == some (.ofInt a)
  | float a, b => b.number? == some (.ofFloat a)
  | _, _ => false

def alikeItems : List Json → List Json → Bool
  | [], [] => true
  | a :: as, b :: bs => alike a b && alikeItems as bs
  | _, _ => false

def alikeFields : Fields → Fields → Bool
  | [], _ => true
  | (k, a) :: as, bs =>
    (match Fields.get? bs k with
      | some b => alike a b
      | none => false) && alikeFields as bs

end

/-- Equality; what is not a number does not equal itself. -/
def same (a b : Json) : Bool :=
  match a.number?, b.number? with
  | some x, some y => x.same y
  | _, _ => alike a b

def ofNat (n : Nat) : Json := int n

def ofOption : Option Json → Json
  | some v => v
  | none => null

end Json

end LanguageClient
