import LanguageClient.Program.Files

/-!
How programs write the names that they complain about. A name that a shell would not take as it is
stands in quotes.
-/

namespace LanguageClient.Naming

/-- Characters that are written by a letter or a number. -/
def isControl (c : Char) : Bool := c < ' ' || c = '\x7f'

def letter? : Char → Option Char
  | '\x07' => some 'a'
  | '\x08' => some 'b'
  | '\t' => some 't'
  | '\n' => some 'n'
  | '\x0b' => some 'v'
  | '\x0c' => some 'f'
  | '\r' => some 'r'
  | _ => none

def escape (c : Char) : Chars :=
  match letter? c with
  | some l => ['\\', l]
  | none =>
    let digit (n : Nat) : Char := Char.ofNat ('0'.toNat + n % 8)
    ['\\', digit (c.toNat / 64), digit (c.toNat / 8), digit c.toNat]

/-- Characters that mean something to a shell wherever they stand. -/
def isSpecial (c : Char) : Bool :=
  isControl c || [' ', '!', '"', '$', '&', '\'', '(', ')', '*', ';', '<', '=', '>', '?', '[', '\\',
    '^', '\x60', '|', ':'].contains c

def needsQuotes (t : Chars) : Bool :=
  t.isEmpty || t.any isSpecial || t.head? = some '#' || t.head? = some '~' ||
    t = ['{'] || t = ['}']

/-- Characters that mean the same between double quotes. -/
def isPlainInDouble (c : Char) : Bool :=
  c.isAlphanum || c.toNat ≥ 128 ||
    ['%', '+', ',', '-', '.', '/', ':', ']', '_', ' ', '\''].contains c

/-- Between single quotes. Escapes stand in quotes of their own. -/
def single (escaping : Bool) : Chars → Chars
  | [] => ['\'']
  | c :: rest =>
    if isControl c then
      (if escaping then [] else ['\'', '$', '\'']) ++ escape c ++ single true rest
    else if c = '\'' then ['\'', '\\', '\'', '\''] ++ single false rest
    else (if escaping then ['\'', '\''] else []) ++ c :: single false rest

/-- In quotes, double ones if the name has a single quote and nothing that they would not keep. -/
def quoted (t : Chars) : Chars :=
  if t.contains '\'' && t.all isPlainInDouble then '"' :: t ++ ['"'] else '\'' :: single false t

/-- In quotes if a shell needs them. -/
def shown (t : Chars) : Chars := if needsQuotes t then quoted t else t

def opening : Chars := ['\xe2', '\x80', '\x98']

def closing : Chars := ['\xe2', '\x80', '\x99']

/-- A word of a call, in the quotes of written language. -/
def spoken (t : Chars) : Chars :=
  let written (c : Char) : Chars :=
    if isControl c then escape c else if c = '\\' then [c, c] else [c]
  opening ++ t.flatMap written ++ closing

end LanguageClient.Naming
