import LanguageClient.Program.Shell.Arithmetic

/-!
Conditions on texts, numbers and files.
-/

namespace LanguageClient.Shell.Condition

inductive Problem where
  | unexpectedOperator (word : Chars)
  | expectedArgument (word : Chars)
  | expectedClosing
  | illegalNumber (word : Chars)

def Problem.text : Problem → Chars
  | unexpectedOperator w =>
    (if w.isEmpty then [] else w ++ ": ".toList) ++ "unexpected operator".toList
  | expectedArgument w => w ++ ": argument expected".toList
  | expectedClosing => "closing paren expected"
  | illegalNumber w => "Illegal number: ".toList ++ w

inductive Role where
  | unary
  | binary
  | both
  | either
  | negation
  | opening
  | closing
  | operand
deriving DecidableEq

def unaryNames : List String :=
  ["-n", "-z", "-f", "-d", "-e", "-r", "-w", "-x", "-s", "-L", "-h", "-p", "-S", "-b", "-c", "-t",
    "-g", "-u", "-k", "-O", "-G"]

def binaryNames : List String :=
  ["=", "!=", "<", ">", "-eq", "-ne", "-lt", "-le", "-gt", "-ge", "-nt", "-ot", "-ef"]

def nameRole (w : Chars) : Role :=
  let s := String.ofList w
  if unaryNames.contains s then .unary
  else if binaryNames.contains s then .binary
  else if s = "-a" then .both
  else if s = "-o" then .either
  else if s = "!" then .negation
  else if s = "(" then .opening
  else if s = ")" then .closing
  else .operand

/-- The role of the first of some words. Without an operand a sign is an operand itself. -/
def role : List Chars → Option Role
  | [] => none
  | w :: rest =>
    let r := nameRole w
    let isOperand :=
      match rest with
      | [] => true
      | [_] => false
      | x :: _ => nameRole x = .binary
    if (r = .unary && isOperand) || (r = .opening && rest.isEmpty) then some .operand else some r

/-- What is at a path: a directory, or a file of so many bytes that may be run. -/
inductive Found where
  | directory
  | file (size : Nat) (isProgram : Bool)

/-- What a condition can ask about the machine. -/
abbrev Look := Chars → Option Found

def number (w : Chars) : Except Problem Int :=
  let t := w.dropWhile (· = ' ') |>.reverse.dropWhile (· = ' ') |>.reverse
  let digits := if t.head? = some '-' || t.head? = some '+' then t.drop 1 else t
  if digits.isEmpty || !digits.all Char.isDigit then .error (.illegalNumber w)
  else
    let n : Int := Number.ofDigits (digits.map CodePoint.ofChar)
    .ok (if t.head? = some '-' then -n else n)

def isSmaller : Chars → Chars → Bool
  | [], [] => false
  | [], _ => true
  | _, [] => false
  | a :: as, b :: bs => a < b || (a = b && isSmaller as bs)

def holdsUnary (look : Look) (sign operand : Chars) : Bool :=
  match String.ofList sign, look operand with
  | "-n", _ => !operand.isEmpty
  | "-z", _ => operand.isEmpty
  | "-e", found | "-r", found | "-w", found | "-O", found | "-G", found => found.isSome
  | "-f", some (.file ..) => true
  | "-d", some .directory => true
  | "-s", some .directory => true
  | "-s", some (.file size _) => 0 < size
  | "-x", some .directory => true
  | "-x", some (.file _ isProgram) => isProgram
  | _, _ => false

def compare (sign a b : Chars) : Except Problem Bool := do
  match String.ofList sign with
  | "=" => return a = b
  | "!=" => return a ≠ b
  | "<" => return isSmaller a b
  | ">" => return isSmaller b a
  | "-nt" | "-ot" | "-ef" => return false
  | s =>
    let m ← number a
    let n ← number b
    match s with
    | "-eq" => return m = n
    | "-ne" => return m ≠ n
    | "-lt" => return m < n
    | "-le" => return m ≤ n
    | "-gt" => return m > n
    | _ => return m ≥ n

abbrev Answer := Except Problem (Bool × List Chars)

mutual

/-- Each part of a condition gives its truth and the words after it. -/
def disjunction (look : Look) : Nat → List Chars → Answer
  | 0, ws => .ok (false, ws)
  | fuel + 1, ws => do
    let (a, rest) ← conjunction look fuel ws
    if role rest = some .either then
      let (b, rest) ← disjunction look fuel (rest.drop 1)
      return (a || b, rest)
    else return (a, rest)

def conjunction (look : Look) : Nat → List Chars → Answer
  | 0, ws => .ok (false, ws)
  | fuel + 1, ws => do
    let (a, rest) ← negation look fuel ws
    if role rest = some .both then
      let (b, rest) ← conjunction look fuel (rest.drop 1)
      return (a && b, rest)
    else return (a, rest)

def negation (look : Look) : Nat → List Chars → Answer
  | 0, ws => .ok (false, ws)
  | fuel + 1, ws =>
    if role ws = some .negation then
      (negation look fuel (ws.drop 1)).map fun (a, rest) => (!a, rest)
    else primary look fuel ws

def primary (look : Look) : Nat → List Chars → Answer
  | 0, ws => .ok (false, ws)
  | fuel + 1, ws =>
    match role ws, ws with
    | some .opening, _ :: rest =>
      if role rest = some .closing then .ok (false, rest.drop 1)
      else do
        let (a, rest) ← disjunction look fuel rest
        if role rest = some .closing then return (a, rest.drop 1) else throw .expectedClosing
    | some .unary, sign :: rest =>
      match rest with
      | [] => .error (.expectedArgument sign)
      | operand :: rest => .ok (holdsUnary look sign operand, rest)
    | _, a :: rest =>
      match role rest, rest with
      | some .binary, sign :: rest =>
        match rest with
        | [] => .error (.expectedArgument sign)
        | b :: rest => (compare sign a b).map fun holds => (holds, rest)
      | _, _ => .ok (!a.isEmpty, rest)
    | _, [] => .ok (false, [])

end

/-- A condition that goes on after its end goes wrong at its last word. -/
def whole (look : Look) (ws : List Chars) : Except Problem Bool := do
  let (a, rest) ← disjunction look (5 * ws.length + 5) ws
  if rest.isEmpty then return a
  else throw (.unexpectedOperator (ws.getD (ws.length - rest.length - 1) []))

/-- The truth of a condition. A sign between two words compares them whatever they are. -/
def holds (look : Look) (ws : List Chars) : Except Problem Bool :=
  match ws with
  | [] => .ok false
  | [a, sign, b] =>
    if nameRole sign = .binary then compare sign a b
    else if a = "(".toList && b = ")".toList then whole look [sign]
    else if a = "!".toList then (whole look [sign, b]).map (!·)
    else whole look ws
  | [a, b, c, d] =>
    if a = "(".toList && d = ")".toList then whole look [b, c]
    else if a = "!".toList then (whole look [b, c, d]).map (!·)
    else whole look ws
  | ws => whole look ws

end LanguageClient.Shell.Condition
