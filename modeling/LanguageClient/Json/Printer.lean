import LanguageClient.Json.Basic
import LanguageClient.Number.Shortest

/-!
JSON texts of values.
-/

namespace LanguageClient.Json

/-- How a text is laid out: with ASCII alone or with code points as they are, and on one line or
with every item on a line of its own, indented by so many spaces per level. -/
structure Layout where
  asciiOnly : Bool
  indent : Option Nat

def compact : Layout := ⟨true, none⟩
def wire : Layout := ⟨false, none⟩
def pretty : Layout := ⟨true, some 2⟩

def floatText (x : Float) : Text :=
  match Binary.ofFloat x with
  | .notANumber => "NaN"
  | .infinite negative => if negative then "-Infinity" else "Infinity"
  | .finite negative m e => Shortest.finiteText negative m e

def unicodeEscape (n : Nat) : Text := "\\u" ++ Text.hex 4 n

def escape (asciiOnly : Bool) (c : CodePoint) : Text :=
  if c = '"' || c = '\\' then ['\\', c]
  else if c = '\n' then "\\n"
  else if c = '\r' then "\\r"
  else if c = '\t' then "\\t"
  else if c.val = 0x0C then "\\f"
  else if c.val = 0x08 then "\\b"
  else if c.val < 0x20 then unicodeEscape c.val
  else if c.val < 0x7F || !asciiOnly then [c]
  else if c.val < 0x10000 then unicodeEscape c.val
  else
    let n := c.val - 0x10000
    unicodeEscape (0xD800 + n / 0x400) ++ unicodeEscape (0xDC00 + n % 0x400)

def quoted (asciiOnly : Bool) (t : Text) : Text :=
  "\"" ++ t.flatMap (escape asciiOnly) ++ "\""

namespace Layout

def newline (layout : Layout) (level : Nat) : Text :=
  match layout.indent with
  | none => []
  | some n => ('\n' : CodePoint) :: List.replicate (n * level) (' ' : CodePoint)

def between (layout : Layout) (level : Nat) : Text :=
  match layout.indent with
  | none => ", "
  | some _ => "," ++ layout.newline level

end Layout

mutual

def renderAt (layout : Layout) (level : Nat) : Json → Text
  | null => "null"
  | bool b => if b then "true" else "false"
  | int n => Text.ofInt n
  | float x => floatText x
  | text t => quoted layout.asciiOnly t
  | list [] => "[]"
  | list (v :: vs) =>
    "[" ++ layout.newline (level + 1) ++ renderAt layout (level + 1) v ++
      renderItems layout (level + 1) vs ++ layout.newline level ++ "]"
  | object [] => "\x7b\x7d"
  | object ((k, v) :: rest) =>
    "\x7b" ++ layout.newline (level + 1) ++ quoted layout.asciiOnly k ++ ": " ++
      renderAt layout (level + 1) v ++ renderFields layout (level + 1) rest ++
      layout.newline level ++ "\x7d"

def renderItems (layout : Layout) (level : Nat) : List Json → Text
  | [] => []
  | v :: vs => layout.between level ++ renderAt layout level v ++ renderItems layout level vs

def renderFields (layout : Layout) (level : Nat) : Fields → Text
  | [] => []
  | (k, v) :: rest =>
    layout.between level ++ quoted layout.asciiOnly k ++ ": " ++ renderAt layout level v ++
      renderFields layout level rest

end

def render (layout : Layout) (v : Json) : Text := renderAt layout 0 v

end LanguageClient.Json
