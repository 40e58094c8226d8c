import LanguageClient.Program.Files

/-!
Patterns of a shell: a star stands for any text, a question mark for one character, and brackets for
one of a class. Quoted characters stand for themselves.
-/

namespace LanguageClient.Shell

/-- A character, and whether it was quoted. -/
abbrev Marked := Char × Bool

namespace Glob

def isPlain (c : Char) (m : Marked) : Bool := m.1 = c && !m.2

/-- The names of classes in brackets. -/
def named? (name : Chars) : Option (Char → Bool) :=
  match String.ofList name with
  | "alpha" => some Char.isAlpha
  | "digit" => some Char.isDigit
  | "alnum" => some Char.isAlphanum
  | "upper" => some Char.isUpper
  | "lower" => some Char.isLower
  | "space" => some fun c => c = ' ' || ('\t' ≤ c && c ≤ '\r')
  | "blank" => some fun c => c = ' ' || c = '\t'
  | "punct" => some fun c => '!' ≤ c && c ≤ '~' && !c.isAlphanum
  | "xdigit" => some fun c => c.isDigit || ('a' ≤ c && c ≤ 'f') || ('A' ≤ c && c ≤ 'F')
  | _ => none

/-- A class after its opening bracket: whether it holds a character, and what follows it. -/
def membership (c : Char) : Nat → Bool → List Marked → Option (Bool × List Marked)
  | 0, _, _ => none
  | fuel + 1, isFirst, ms =>
    let go (holds : Bool) (rest : List Marked) :=
      (membership c fuel false rest).map fun (h, r) => (h || holds, r)
    match ms with
    | [] => none
    | a :: rest =>
      if isPlain ']' a && !isFirst then some (false, rest)
      else
        match a, rest with
        | ('[', false), (':', false) :: more =>
          let name := (more.takeWhile fun m => m.1 ≠ ':').map (·.1)
          match named? name, more.drop name.length with
          | some holds, (':', _) :: (']', _) :: rest => go (holds c) rest
          | _, _ => go (c = '[') rest
        | a, dash :: b :: rest' =>
          if isPlain '-' dash && !isPlain ']' b then go (a.1 ≤ c && c ≤ b.1) rest'
          else go (a.1 = c) rest
        | a, rest => go (a.1 = c) rest

def inBrackets (c : Char) (ms : List Marked) : Option (Bool × List Marked) :=
  match ms with
  | a :: rest =>
    if isPlain '!' a || isPlain '^' a then
      (membership c (ms.length + 1) true rest).map fun (h, r) => (!h, r)
    else membership c (ms.length + 1) true ms
  | [] => none

/-- Whether a whole text fits. The fuel bounds pattern and text together. -/
def fitsUpTo : Nat → List Marked → Chars → Bool
  | 0, _, _ => false
  | fuel + 1, pattern, text =>
    match pattern with
    | [] => text.isEmpty
    | m :: rest =>
      if isPlain '*' m then
        fitsUpTo fuel rest text ||
          match text with
          | [] => false
          | _ :: text => fitsUpTo fuel pattern text
      else
        match text with
        | [] => false
        | c :: text =>
          if isPlain '?' m then fitsUpTo fuel rest text
          else if isPlain '[' m then
            match inBrackets c rest with
            | some (holds, rest) => holds && fitsUpTo fuel rest text
            | none => c = '[' && fitsUpTo fuel rest text
          else m.1 = c && fitsUpTo fuel rest text

def fits (pattern : List Marked) (text : Chars) : Bool :=
  fitsUpTo (pattern.length + text.length + 1) pattern text

/-- The text without a piece at one end that fits: the shortest such piece, or the longest. -/
def cut (atEnd longest : Bool) (pattern : List Marked) (text : Chars) : Chars :=
  let sizes := List.range (text.length + 1)
  let sizes := if longest then sizes.reverse else sizes
  let piece (n : Nat) : Chars := if atEnd then text.drop (text.length - n) else text.take n
  match sizes.find? fun n => fits pattern (piece n) with
  | none => text
  | some n => if atEnd then text.take (text.length - n) else text.drop n

end Glob

end LanguageClient.Shell
