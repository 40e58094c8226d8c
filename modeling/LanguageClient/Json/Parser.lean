import LanguageClient.Json.Token

/-!
Reading JSON texts: tokens are taken one by one, and what is open around the current place is kept
on a stack.
-/

namespace LanguageClient.Json

inductive Rejection where
  | malformed
  | longInteger (digits : Nat)
  | nestedTooDeep
deriving DecidableEq

/-- What is open: the items of a list so far, the last one first, or the fields of an object so far
and the key whose value comes next. -/
inductive Frame where
  | items (before : List Json)
  | field (before : Fields) (key : Text)

inductive Progress where
  | value (outer : List Frame)
  | firstItem (outer : List Frame)
  | afterItem (items : List Json) (outer : List Frame)
  | firstKey (outer : List Frame)
  | nextKey (fields : Fields) (outer : List Frame)
  | afterKey (fields : Fields) (key : Text) (outer : List Frame)
  | afterField (fields : Fields) (outer : List Frame)
  | done (v : Json)

namespace Progress

/-- A complete value goes to what is open around it. -/
def supply (v : Json) : List Frame → Progress
  | [] => .done v
  | .items before :: outer => .afterItem (v :: before) outer
  | .field before key :: outer => .afterField (before.put key v) outer

/-- Lists and objects may be nested so deeply, where nothing else is said. -/
def depthLimit : Nat := 990

def startNested (limit? : Option Nat) (outer : List Frame) (progress : Progress) :
    Except Rejection Progress :=
  if limit?.any (· ≤ outer.length) then .error .nestedTooDeep else .ok progress

def startValue (limit? : Option Nat) (outer : List Frame) : Token → Except Rejection Progress
  | .openList => startNested limit? outer (.firstItem outer)
  | .openObject => startNested limit? outer (.firstKey outer)
  | .scalar v => .ok (supply v outer)
  | .longInteger digits => .error (.longInteger digits)
  | _ => .error .malformed

def step (limit? : Option Nat) : Progress → Token → Except Rejection Progress
  | .value outer, token => startValue limit? outer token
  | .firstItem outer, .closeList => .ok (supply (.list []) outer)
  | .firstItem outer, token => startValue limit? (.items [] :: outer) token
  | .afterItem items outer, .comma => .ok (.value (.items items :: outer))
  | .afterItem items outer, .closeList => .ok (supply (.list items.reverse) outer)
  | .firstKey outer, .closeObject => .ok (supply (.object []) outer)
  | .firstKey outer, .scalar (.text key) => .ok (.afterKey [] key outer)
  | .nextKey fields outer, .scalar (.text key) => .ok (.afterKey fields key outer)
  | .afterKey fields key outer, .colon => .ok (.value (.field fields key :: outer))
  | .afterField fields outer, .comma => .ok (.nextKey fields outer)
  | .afterField fields outer, .closeObject => .ok (supply (.object fields) outer)
  | _, _ => .error .malformed

end Progress

def ofTokens (limit? : Option Nat) (tokens : List Token) : Except Rejection Json := do
  match ← tokens.foldlM (Progress.step limit?) (.value []) with
  | .done v => return v
  | _ => throw .malformed

/-- The value that a text stands for. Without a limit it may be nested as deeply as one likes. -/
def parse (s : Text) (limit? : Option Nat := some Progress.depthLimit) : Except Rejection Json :=
  ofTokens limit? (Token.ofText s)

end LanguageClient.Json
