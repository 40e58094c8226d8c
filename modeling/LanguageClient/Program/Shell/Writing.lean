import LanguageClient.Number.Read
import LanguageClient.Number.Scientific
import LanguageClient.Program.Shell.Arithmetic

/-!
Texts that are written: escapes, and formats whose places are filled by arguments.
-/

namespace LanguageClient.Shell.Writing

def octal? (c : Char) : Option Nat :=
  if '0' ≤ c && c ≤ '7' then some (c.toNat - '0'.toNat) else none

def simple? : Char → Option Char
  | 'a' => some '\x07'
  | 'b' => some '\x08'
  | 'e' => some '\x1b'
  | 'f' => some '\x0c'
  | 'n' => some '\n'
  | 'r' => some '\r'
  | 't' => some '\t'
  | 'v' => some '\x0b'
  | '\\' => some '\\'
  | _ => none

/-- The character of a number in octal digits. -/
def octalChar (ds : Chars) : Char :=
  Char.ofNat (ds.foldl (fun n c => n * 8 + (octal? c).getD 0) 0 % 256)

def octalDigits (most : Nat) (text : Chars) : Chars :=
  (text.take most).takeWhile fun c => (octal? c).isSome

/-- The character of an escape after its backslash, and what follows. -/
def escape? (text : Chars) : Option (Char × Chars) :=
  match text with
  | [] => none
  | c :: rest =>
    match simple? c, octal? c with
    | some d, _ => some (d, rest)
    | none, some _ =>
      let ds := octalDigits 3 text
      some (octalChar ds, text.drop ds.length)
    | none, none => if c = '"' then some (c, rest) else none

/-- Undoes escapes. A zero may stand in front of three octal digits, and `\c` ends all writing.
Gives the text and whether writing ended. -/
def unescape : Nat → Chars → Chars × Bool
  | 0, text => (text, false)
  | fuel + 1, text =>
    let go (front rest : Chars) : Chars × Bool :=
      let (t, ended) := unescape fuel rest
      (front ++ t, ended)
    match text with
    | [] => ([], false)
    | '\\' :: 'c' :: _ => ([], true)
    | '\\' :: '"' :: rest => go ['\\', '"'] rest
    | '\\' :: '0' :: rest =>
      let ds := octalDigits 3 rest
      go [octalChar ds] (rest.drop ds.length)
    | '\\' :: rest =>
      match escape? rest with
      | some (c, rest) => go [c] rest
      | none => go ['\\'] rest
    | c :: rest => go [c] rest

def unescaped (text : Chars) : Chars × Bool := unescape (text.length + 1) text

/-- What the shell echoes. -/
def echo (args : List Chars) : Chars :=
  let (args, newline) : List Chars × Bool :=
    match args with
    | ['-', 'n'] :: rest => (rest, false)
    | args => (args, true)
  let (text, ended) := unescaped (List.intercalate [' '] args)
  text ++ (if newline && !ended then ['\n'] else [])

/-- What the program of that name echoes: escapes count on demand only. -/
def plainEcho (args : List Chars) : Chars :=
  let isOption (a : Chars) : Bool :=
    match a with
    | '-' :: c :: rest => (c :: rest).all fun d => d = 'n' || d = 'e' || d = 'E'
    | _ => false
  let options := args.takeWhile isOption
  let letters := options.flatten
  let text := List.intercalate [' '] (args.drop options.length)
  let escapes := (letters.reverse.find? fun c => c = 'e' || c = 'E') = some 'e'
  let (text, ended) := if escapes then unescaped text else (text, false)
  text ++ (if letters.contains 'n' || ended then [] else ['\n'])

/-! Formats -/

structure Layout where
  left : Bool := false
  zeros : Bool := false
  plus : Bool := false
  space : Bool := false
  alternate : Bool := false
  width : Nat := 0
  precision? : Option Nat := none

def pad (l : Layout) (text : Chars) : Chars :=
  let fill := List.replicate (l.width - text.length) ' '
  if l.left then text ++ fill else fill ++ text

/-- A number with its sign or mark in front; zeros stand between them. -/
def padNumber (l : Layout) (mark digits : Chars) : Chars :=
  let digits := List.replicate (l.precision?.getD 0 - digits.length) '0' ++ digits
  if l.zeros && !l.left && l.precision?.isNone then
    mark ++ List.replicate (l.width - mark.length - digits.length) '0' ++ digits
  else pad l (mark ++ digits)

def natText (base : Nat) (n : Nat) : Chars := Nat.toDigits base n

/-- The sign in front of a number. -/
def mark (l : Layout) (isNegative : Bool) : Chars :=
  if isNegative then ['-'] else if l.plus then ['+'] else if l.space then [' '] else []

def decimal (l : Layout) (n : Int) : Chars := padNumber l (mark l (n < 0)) (natText 10 n.natAbs)

def unsigned (n : Int) : Nat := (n % Int.pow 2 64).toNat

/-- The number of an argument, and whether all of it was one. -/
def numberOf (arg : Chars) : Int × Bool :=
  match arg with
  | '"' :: c :: rest => (c.toNat, rest.isEmpty)
  | '\'' :: c :: rest => (c.toNat, rest.isEmpty)
  | arg =>
    let t := arg.dropWhile fun c => c = ' ' || c = '\t'
    let (negative, digits) : Bool × Chars :=
      match t with
      | '-' :: ds => (true, ds)
      | '+' :: ds => (false, ds)
      | ds => (false, ds)
    let (n, rest) := Arithmetic.cutNumber digits
    (if negative then -n else n, rest.isEmpty && !digits.isEmpty)

def natOf (ds : Chars) : Nat := Number.ofDigits (ds.map CodePoint.ofChar)

/-- The power of ten at the front of a text, and what follows it. -/
def cutExponent (text : Chars) : Int × Chars :=
  match text with
  | c :: rest =>
    if c = 'e' || c = 'E' then
      let (negative, t) : Bool × Chars :=
        match rest with
        | '-' :: t => (true, t)
        | '+' :: t => (false, t)
        | t => (false, t)
      let ds := t.takeWhile Char.isDigit
      if ds.isEmpty then (0, text)
      else (if negative then -natOf ds else natOf ds, t.drop ds.length)
    else (0, text)
  | [] => (0, [])

/-- The decimal number at the front of a text, and what follows it. -/
def cutDecimal? (text : Chars) : Option (Float × Chars) :=
  let t := text.dropWhile fun c => c = ' ' || ('\t' ≤ c && c ≤ '\r')
  let (negative, t) : Bool × Chars :=
    match t with
    | '-' :: t => (true, t)
    | '+' :: t => (false, t)
    | t => (false, t)
  let whole := t.takeWhile Char.isDigit
  let rest := t.drop whole.length
  let fraction := if rest.head? = some '.' then (rest.drop 1).takeWhile Char.isDigit else []
  if whole.isEmpty && fraction.isEmpty then none
  else
    let rest := if rest.head? = some '.' then rest.drop (fraction.length + 1) else rest
    let (exponent, rest) := cutExponent rest
    let x := Number.scale (natOf (whole ++ fraction)) (exponent - fraction.length)
    some (if negative then -x else x, rest)

structure Flow where
  text : Chars := []
  args : List Chars
  /-- What is wrong with arguments. -/
  problems : List Chars := []
  ended : Bool := false
  /-- A directive that is none; it is empty where a format ends too early. -/
  invalid? : Option Chars := none

def Flow.take (f : Flow) : Chars × Flow := (f.args.headD [], { f with args := f.args.drop 1 })

def Flow.write (f : Flow) (t : Chars) : Flow := { f with text := f.text ++ t }

def Flow.complain (f : Flow) (arg : Chars) (text : String) : Flow :=
  { f with problems := f.problems ++ [arg ++ ": ".toList ++ text.toList] }

/-- A number that is too large is taken as the nearest one that is not. -/
def isInRange (arg : Chars) (n : Int) : Bool :=
  n.natAbs < Nat.pow 2 63 - 1 || (Arithmetic.digitsValue 10 (arg.filter Char.isDigit)) ≤ Nat.pow 2 63

def Flow.takeNumber (f : Flow) : Int × Flow :=
  match f.args with
  | [] => (0, f)
  | arg :: rest =>
    let (n, complete) := numberOf arg
    let f := { f with args := rest }
    if complete && isInRange arg n then (n, f)
    else
      (n, f.complain arg (
        if complete then "Numerical result out of range"
        else if n = 0 && !(arg.any Char.isDigit) then "expected numeric value"
        else "not completely converted"))

def Flow.takeDecimal (f : Flow) : Float × Flow :=
  match f.args with
  | [] => (0.0, f)
  | arg :: rest =>
    let f := { f with args := rest }
    match cutDecimal? arg with
    | some (x, []) => (x, f)
    | some (x, _) => (x, f.complain arg "not completely converted")
    | none => (0.0, if arg.isEmpty then f else f.complain arg "expected numeric value")

/-- The text of a value in one of the three ways that a letter names. -/
def floatText (c : Char) (l : Layout) (x : Float) : Chars :=
  let places := l.precision?.getD 6
  let size := Float.abs x
  let t : Text :=
    match c.toLower with
    | 'e' => Scientific.text places size
    | 'g' => Scientific.general places size
    | _ => if places = 0 then (Fixed.text places size).dropLast else Fixed.text places size
  let t := t.map fun d => if c.isUpper then (Char.ofNat d.val).toUpper else Char.ofNat d.val
  let isNegative := x < 0.0 || 1.0 / x < 0.0
  padNumber { l with precision? := none } (mark l isNegative) t

/-- Fills one place. -/
def fillPlace (l : Layout) (f : Flow) (directive : Chars) (c : Char) : Flow :=
  let number (print : Int → Chars) : Flow :=
    let (n, f) := f.takeNumber
    f.write (print n)
  match c with
  | 'd' | 'i' => number (decimal l)
  | 'u' => number fun n => padNumber l [] (natText 10 (unsigned n))
  | 'o' => number fun n => padNumber l (if l.alternate then ['0'] else []) (natText 8 (unsigned n))
  | 'x' =>
    number fun n => padNumber l (if l.alternate then ['0', 'x'] else []) (natText 16 (unsigned n))
  | 'X' =>
    number fun n => padNumber l (if l.alternate then ['0', 'X'] else [])
      ((natText 16 (unsigned n)).map Char.toUpper)
  | 'f' | 'F' | 'e' | 'E' | 'g' | 'G' =>
    let (x, f) := f.takeDecimal
    f.write (floatText c l x)
  | 'c' =>
    let (arg, f) := f.take
    f.write (pad l [arg.headD '\x00'])
  | 's' =>
    let (arg, f) := f.take
    f.write (pad l (arg.take (l.precision?.getD arg.length)))
  | 'b' =>
    let (arg, f) := f.take
    let (t, ended) := unescaped arg
    { f.write (pad l (t.take (l.precision?.getD t.length))) with ended }
  | _ => { f with invalid? := some (directive ++ [c]) }

def setFlag (l : Layout) : Char → Option Layout
  | '-' => some { l with left := true }
  | '0' => some { l with zeros := true }
  | '+' => some { l with plus := true }
  | ' ' => some { l with space := true }
  | '#' => some { l with alternate := true }
  | _ => none

def flags (l : Layout) : Chars → Layout × Chars
  | c :: rest =>
    match setFlag l c with
    | some l => flags l rest
    | none => (l, c :: rest)
  | [] => (l, [])

/-- A number in a directive: digits, or a star for the next argument. -/
def size (f : Flow) (text : Chars) : Option Int × Flow × Chars :=
  match text with
  | '*' :: rest =>
    let (n, f) := f.takeNumber
    (some n, f, rest)
  | text =>
    let ds := text.takeWhile Char.isDigit
    (if ds.isEmpty then none else some (natOf ds), f, text.drop ds.length)

/-- One round through a format. -/
def fill : Nat → Flow → Chars → Flow
  | 0, f, _ => f
  | fuel + 1, f, text =>
    if f.ended || f.invalid?.isSome then f
    else
      match text with
      | [] => f
      | '\\' :: rest =>
        match escape? rest with
        | some (c, rest) => fill fuel (f.write [c]) rest
        | none => fill fuel (f.write ['\\']) rest
      | '%' :: '%' :: rest => fill fuel (f.write ['%']) rest
      | '%' :: rest =>
        let (l, afterFlags) := flags {} rest
        let (width, f, afterWidth) := size f afterFlags
        let l := { l with width := (width.getD 0).natAbs, left := l.left || width.getD 0 < 0 }
        let (l, f, place) : Layout × Flow × Chars :=
          match afterWidth with
          | '.' :: rest =>
            let (precision, f, rest) := size f rest
            ({ l with precision? := some (precision.getD 0).toNat }, f, rest)
          | rest => (l, f, rest)
        match place with
        | [] => { f with invalid? := some [] }
        | c :: after =>
          fill fuel (fillPlace l f ('%' :: rest.take (rest.length - place.length)) c) after
      | c :: rest => fill fuel (f.write [c]) rest

/-- The format again and again as long as it takes arguments. -/
def fillAll (format : Chars) : Nat → Flow → Flow
  | 0, f => f
  | fuel + 1, f =>
    let g := fill (format.length + 1) f format
    if g.ended || g.invalid?.isSome || g.args.isEmpty || g.args.length = f.args.length then g
    else fillAll format fuel g

def printf (format : Chars) (args : List Chars) : Flow :=
  fillAll format (args.length + 1) { args }

end LanguageClient.Shell.Writing
