import LanguageClient.Json.Basic
import LanguageClient.Number.Read

/-!
Tokens of JSON texts. Reading stops at the first place where no token begins.
-/

namespace LanguageClient.Json

inductive Token where
  | openList
  | closeList
  | openObject
  | closeObject
  | comma
  | colon
  | scalar (v : Json)
  /-- An integer of so many digits that it is not read. -/
  | longInteger (digits : Nat)
  | illegal

namespace Token

def isSpace (c : CodePoint) : Bool := c = ' ' || c = '\t' || c = '\n' || c = '\r'

/-- An escaped high surrogate and the escaped low one after it are one code point. -/
def joinSurrogates : Text → Text
  | [] => []
  | [c] => [c]
  | a :: b :: rest =>
    if a.within 0xD800 0xDBFF && b.within 0xDC00 0xDFFF then
      .ofNat (0x10000 + (a.val - 0xD800) * 0x400 + (b.val - 0xDC00)) :: joinSurrogates rest
    else a :: joinSurrogates (b :: rest)

def hex4? (a b c d : CodePoint) : Option CodePoint := do
  let w ← a.hexDigit?
  let x ← b.hexDigit?
  let y ← c.hexDigit?
  let z ← d.hexDigit?
  return .ofNat (((w * 16 + x) * 16 + y) * 16 + z)

def simpleEscape? (c : CodePoint) : Option CodePoint :=
  if c = '"' || c = '\\' || c = '/' then some c
  else if c = 'b' then some '\x08'
  else if c = 'f' then some '\x0C'
  else if c = 'n' then some '\n'
  else if c = 'r' then some '\r'
  else if c = 't' then some '\t'
  else none

/-- The code points up to the closing quote, and what follows it. -/
def stringBody? : Text → Option (Text × Text)
  | [] => none
  | c :: rest =>
    if c = '"' then some ([], rest)
    else if c = '\\' then
      match rest with
      | [] => none
      | e :: rest =>
        if e = 'u' then
          match rest with
          | w :: x :: y :: z :: rest => do
            let v ← hex4? w x y z
            let (body, rest) ← stringBody? rest
            return (v :: body, rest)
          | _ => none
        else do
          let v ← simpleEscape? e
          let (body, rest) ← stringBody? rest
          return (v :: body, rest)
    else if c.val < 0x20 then none
    else (stringBody? rest).map fun (body, rest) => (c :: body, rest)

def takeDigits (s : Text) : Text × Text := s.span CodePoint.isDigit

/-- The fraction, with its point, if digits follow the point. -/
def fraction (s : Text) : Text × Text :=
  match s with
  | c :: rest =>
    if c = '.' then
      match takeDigits rest with
      | ([], _) => ([], s)
      | (ds, rest) => (ds, rest)
    else ([], s)
  | [] => ([], s)

/-- The power of ten, if digits follow the mark and its sign. -/
def power (s : Text) : Option Int × Text :=
  match s with
  | c :: rest =>
    if c = 'e' || c = 'E' then
      let (negative, rest) : Bool × Text :=
        match rest with
        | d :: after =>
          if d = '-' then (true, after) else if d = '+' then (false, after) else (false, rest)
        | [] => (false, rest)
      match takeDigits rest with
      | ([], _) => (none, s)
      | (ds, rest) =>
        let n : Int := Number.ofDigits ds
        (some (if negative then -n else n), rest)
    else (none, s)
  | [] => (none, s)

/-- The integer part is a zero, or digits of which the first is no zero. -/
def wholePart (s : Text) : Text × Text :=
  match s with
  | c :: rest => if c = '0' then ([c], rest) else takeDigits s
  | [] => ([], s)

def number (negative : Bool) (s : Text) : Token × Text :=
  match wholePart s with
  | ([], rest) => (.illegal, rest)
  | (whole, rest) =>
    let (decimals, rest) := fraction rest
    let (exponent, rest) := power rest
    if decimals.isEmpty && exponent.isNone then
      if whole.length > Number.longestInteger then (.longInteger whole.length, rest)
      else
        let n : Int := Number.ofDigits whole
        (.scalar (.int (if negative then -n else n)), rest)
    else
      let mantissa := Number.ofDigits (whole ++ decimals)
      let x := Number.scale mantissa (exponent.getD 0 - decimals.length)
      (.scalar (.float (if negative then -x else x)), rest)

/-- What follows `word`, if `s` begins with it. -/
def after? (word : Text) (s : Text) : Option Text :=
  match word, s with
  | [], s => some s
  | _ :: _, [] => none
  | a :: word, b :: s => if a = b then after? word s else none

def words : List (Text × Json) :=
  [("null", .null), ("true", .bool true), ("false", .bool false), ("NaN", .float (0.0 / 0.0)),
    ("Infinity", .float (1.0 / 0.0)), ("-Infinity", .float (-1.0 / 0.0))]

def word? (s : Text) : Option (Json × Text) :=
  words.findSome? fun (word, v) => (after? word s).map fun rest => (v, rest)

def punctuation? (c : CodePoint) : Option Token :=
  if c = '[' then some .openList
  else if c = ']' then some .closeList
  else if c = '{' then some .openObject
  else if c = '}' then some .closeObject
  else if c = ',' then some .comma
  else if c = ':' then some .colon
  else none

/-- The token at the head of a text that does not begin with a space. -/
def next (c : CodePoint) (rest : Text) : Token × Text :=
  match punctuation? c with
  | some token => (token, rest)
  | none =>
    if c = '"' then
      match stringBody? rest with
      | some (body, rest) => (.scalar (.text (joinSurrogates body)), rest)
      | none => (.illegal, [])
    else
      match word? (c :: rest) with
      | some (v, rest) => (.scalar v, rest)
      | none => if c = '-' then number true rest else number false (c :: rest)

/-- At most `fuel` tokens; every token takes at least one code point. -/
def scan : Nat → Text → List Token
  | 0, _ => []
  | fuel + 1, s =>
    match s.dropWhile isSpace with
    | [] => []
    | c :: rest =>
      match next c rest with
      | (.illegal, _) => [.illegal]
      | (token, rest) => token :: scan fuel rest

def ofText (s : Text) : List Token := scan s.length s

end Token

end LanguageClient.Json
