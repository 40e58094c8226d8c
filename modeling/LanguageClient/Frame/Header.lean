import LanguageClient.Number.Read

/-!
Headers of frames. Of several lengths the last one counts.
-/

namespace LanguageClient.Frame

inductive HeaderProblem where
  | notAscii
  | invalidLine
  | missingLength
  | invalidLength
deriving DecidableEq

def HeaderProblem.reason : HeaderProblem → Text
  | notAscii => "Header is not ASCII"
  | invalidLine => "Invalid header line"
  | missingLength => "Missing Content-Length"
  | invalidLength => "Invalid Content-Length"

/-- The lines between line ends; a line end is a carriage return before a line feed. -/
def splitLines : Text → List Text
  | [] => [[]]
  | [c] => [[c]]
  | c :: d :: rest =>
    if c = '\r' && d = '\n' then [] :: splitLines rest
    else match splitLines (d :: rest) with
      | [] => [[c]]
      | line :: lines => (c :: line) :: lines

/-- The name of a field in lower case, and its value. -/
def field? (line : Text) : Option (Text × Text) := do
  let (name, value) ← Text.cutAt ':' line
  return (Text.lowerAscii (Text.trim CodePoint.isBlank name), Text.trim CodePoint.isBlank value)

def fields? (header : Text) : Option (List (Text × Text)) :=
  ((splitLines header).filter (!·.isEmpty)).mapM field?

def lengthName : Text := "content-length"

def lastLength? (fields : List (Text × Text)) : Option Text :=
  (fields.reverse.find? fun (name, _) => name = lengthName).map (·.2)

/-- The number of bytes of the body. -/
def parseHeader (header : Bytes) : Except HeaderProblem Nat :=
  if header.any (· ≥ 0x80) then .error .notAscii
  else
    match fields? (header.map fun b => .ofNat b.toNat) with
    | none => .error .invalidLine
    | some fields =>
      match lastLength? fields with
      | none => .error .missingLength
      | some value =>
        match Number.integer? value with
        | some (.ofNat n) => .ok n
        | _ => .error .invalidLength

end LanguageClient.Frame
