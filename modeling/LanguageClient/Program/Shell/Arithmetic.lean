import LanguageClient.Program.Shell.Basic

/-!
Arithmetic of a shell, on integers of 64 bits.
-/

namespace LanguageClient.Shell.Arithmetic

inductive Token where
  | number (n : Int)
  | name (t : Chars)
  | sign (t : Chars)
deriving DecidableEq

inductive Term where
  | number (n : Int)
  | name (t : Chars)
  | unary (sign : Chars) (a : Term)
  | binary (sign : Chars) (a b : Term)
  | choice (test a b : Term)
  | assign (name sign : Chars) (a : Term)

inductive Problem where
  | expectedPrimary
  | expectedEnd
  | expectedClosing
  | expectedColon
  | divisionByZero
  | illegalNumber (text : Chars)

def Problem.text : Problem → Chars
  | expectedPrimary => "expecting primary"
  | expectedEnd => "expecting EOF"
  | expectedClosing => "expecting ')'"
  | expectedColon => "expecting ':'"
  | divisionByZero => "division by zero"
  | illegalNumber t => "Illegal number: ".toList ++ t

def wrap (n : Int) : Int := n.bmod (Nat.pow 2 64)

/-- A number too large counts as the largest one. -/
def saturate (n : Nat) : Int := if n < Nat.pow 2 63 then n else Int.pow 2 63 - 1

def digit? (c : Char) : Option Nat := (CodePoint.ofChar c).hexDigit?

def digitsValue (base : Nat) (ds : Chars) : Nat :=
  ds.foldl (fun n c => n * base + (digit? c).getD 0) 0

/-- A number at the front: hexadecimal after `0x`, octal after a zero, decimal otherwise. -/
def cutNumber (text : Chars) : Int × Chars :=
  let isBelow (base : Nat) (c : Char) : Bool := (digit? c).any fun d => d < base
  let run (base : Nat) (t : Chars) : Int × Chars :=
    let ds := t.takeWhile (isBelow base)
    (saturate (digitsValue base ds), t.drop ds.length)
  match text with
  | '0' :: x :: d :: rest =>
    if (x = 'x' || x = 'X') && isBelow 16 d then run 16 (d :: rest) else run 8 text
  | '0' :: _ => run 8 text
  | _ => run 10 text

/-- Signs, the longer ones first. -/
def signs : List String :=
  ["<<=", ">>=", "<<", ">>", "<=", ">=", "==", "!=", "&&", "||", "+=", "-=", "*=", "/=", "%=",
    "&=", "|=", "^=", "+", "-", "*", "/", "%", "<", ">", "=", "!", "~", "&", "|", "^", "(", ")",
    "?", ":"]

def tokens : Nat → Chars → Except Problem (List Token)
  | 0, _ => .ok []
  | fuel + 1, text =>
    match text with
    | [] => .ok []
    | c :: rest =>
      if c = ' ' || c = '\t' || c = '\n' then tokens fuel rest
      else if c.isDigit then
        let (n, rest) := cutNumber text
        (tokens fuel rest).map (.number n :: ·)
      else if isNameStart c then
        let name := text.takeWhile isNameChar
        (tokens fuel (text.drop name.length)).map (.name name :: ·)
      else
        match signs.find? fun s => s.toList.isPrefixOf text with
        | some s => (tokens fuel (text.drop s.length)).map (.sign s.toList :: ·)
        | none => .error .expectedEnd

/-- How strongly signs bind, the weakest ones first. -/
def levels : List (List String) :=
  [["||"], ["&&"], ["|"], ["^"], ["&"], ["==", "!="], ["<", "<=", ">", ">="], ["<<", ">>"],
    ["+", "-"], ["*", "/", "%"]]

def assignSigns : List String :=
  ["=", "+=", "-=", "*=", "/=", "%=", "&=", "|=", "^=", "<<=", ">>="]

abbrev Reading := Except Problem (Term × List Token)

mutual

def assignment : Nat → List Token → Reading
  | 0, _ => .error .expectedPrimary
  | fuel + 1, ts =>
    match ts with
    | .name name :: .sign s :: rest =>
      if assignSigns.any (·.toList = s) then do
        let (a, rest) ← assignment fuel rest
        return (.assign name s a, rest)
      else choice fuel ts
    | ts => choice fuel ts

def choice : Nat → List Token → Reading
  | 0, _ => .error .expectedPrimary
  | fuel + 1, ts => do
    let (test, rest) ← binary fuel levels ts
    match rest with
    | .sign ['?'] :: rest =>
      let (a, rest) ← assignment fuel rest
      match rest with
      | .sign [':'] :: rest =>
        let (b, rest) ← choice fuel rest
        return (.choice test a b, rest)
      | _ => throw .expectedColon
    | rest => return (test, rest)

def binary : Nat → List (List String) → List Token → Reading
  | 0, _, _ => .error .expectedPrimary
  | fuel + 1, levels, ts =>
    match levels with
    | [] => unary fuel ts
    | level :: stronger => do
      let (a, rest) ← binary fuel stronger ts
      operands fuel level stronger a rest

def operands : Nat → List String → List (List String) → Term → List Token → Reading
  | 0, _, _, a, ts => .ok (a, ts)
  | fuel + 1, level, stronger, a, ts =>
    match ts with
    | .sign s :: rest =>
      if level.any (·.toList = s) then do
        let (b, rest) ← binary fuel stronger rest
        operands fuel level stronger (.binary s a b) rest
      else .ok (a, ts)
    | ts => .ok (a, ts)

def unary : Nat → List Token → Reading
  | 0, _ => .error .expectedPrimary
  | fuel + 1, ts =>
    match ts with
    | .number n :: rest => .ok (.number n, rest)
    | .name t :: rest => .ok (.name t, rest)
    | .sign ['('] :: rest => do
      let (a, rest) ← assignment fuel rest
      match rest with
      | .sign [')'] :: rest => return (a, rest)
      | _ => throw .expectedClosing
    | .sign s :: rest =>
      if s = ['!'] || s = ['~'] || s = ['-'] || s = ['+'] then do
        let (a, rest) ← unary fuel rest
        return (.unary s a, rest)
      else .error .expectedPrimary
    | [] => .error .expectedPrimary

end

def truth (b : Bool) : Int := if b then 1 else 0

def shift (n : Int) : Nat := (n % 64).toNat

def apply (sign : Chars) (a b : Int) : Except Problem Int :=
  let word (n : Int) : Nat := (n % Int.pow 2 64).toNat
  match String.ofList sign with
  | "+" => .ok (wrap (a + b))
  | "-" => .ok (wrap (a - b))
  | "*" => .ok (wrap (a * b))
  | "/" => if b = 0 then .error .divisionByZero else .ok (wrap (a.tdiv b))
  | "%" => if b = 0 then .error .divisionByZero else .ok (a.tmod b)
  | "<<" => .ok (wrap (a * Int.pow 2 (shift b)))
  | ">>" => .ok (a.fdiv (Int.pow 2 (shift b)))
  | "<" => .ok (truth (a < b))
  | "<=" => .ok (truth (a ≤ b))
  | ">" => .ok (truth (b < a))
  | ">=" => .ok (truth (b ≤ a))
  | "==" => .ok (truth (a = b))
  | "!=" => .ok (truth (a ≠ b))
  | "&" => .ok (wrap (word a &&& word b : Nat))
  | "|" => .ok (wrap (word a ||| word b : Nat))
  | "^" => .ok (wrap (word a ^^^ word b : Nat))
  | _ => .ok 0

abbrev Bindings := List (Chars × Chars)

/-- The number that the value of a variable writes; no value is zero. -/
def numberOf (value : Chars) : Except Problem Int :=
  let t := (value.dropWhile isBlankSign).reverse.dropWhile isBlankSign |>.reverse
  let (negative, digits) : Bool × Chars :=
    match t with
    | '-' :: ds => (true, ds)
    | '+' :: ds => (false, ds)
    | ds => (false, ds)
  match cutNumber digits with
  | (n, []) =>
    if digits.isEmpty && !t.isEmpty then .error (.illegalNumber value)
    else .ok (if negative then -n else n)
  | _ => .error (.illegalNumber value)
where
  isBlankSign (c : Char) : Bool := c = ' ' || c = '\t' || c = '\n'

def intText (n : Int) : Chars := (toString n).toList

def lookup (bs : Bindings) (name : Chars) : Except Problem Int :=
  numberOf ((bs.lookup name).getD [])

/-- The value of a term, and the variables with what was assigned. -/
def eval (bs : Bindings) : Term → Except Problem (Int × Bindings)
  | .number n => .ok (n, bs)
  | .name t => (lookup bs t).map fun n => (n, bs)
  | .unary sign a => do
    let (n, bs) ← eval bs a
    match sign with
    | ['!'] => return (truth (n = 0), bs)
    | ['~'] => return (-n - 1, bs)
    | ['-'] => return (wrap (-n), bs)
    | _ => return (n, bs)
  | .binary sign a b => do
    let (m, bs) ← eval bs a
    if sign = ['&', '&'] && m = 0 then return (0, bs)
    if sign = ['|', '|'] && m ≠ 0 then return (1, bs)
    let (n, bs) ← eval bs b
    if sign = ['&', '&'] || sign = ['|', '|'] then return (truth (n ≠ 0), bs)
    return (← apply sign m n, bs)
  | .choice test a b => do
    let (n, bs) ← eval bs test
    if n ≠ 0 then eval bs a else eval bs b
  | .assign name sign a => do
    let (n, bs) ← eval bs a
    let value ← if sign = ['='] then pure n else do apply sign.dropLast (← lookup bs name) n
    return (value, (name, intText value) :: bs)

/-- The value of a text, and the variables with what was assigned. -/
def run (bs : Bindings) (text : Chars) : Except Problem (Int × Bindings) := do
  let ts ← tokens (text.length + 1) text
  if ts.isEmpty then return (0, bs)
  let (a, rest) ← assignment (16 * ts.length + 16) ts
  if rest.isEmpty then eval bs a else throw .expectedEnd

end LanguageClient.Shell.Arithmetic
