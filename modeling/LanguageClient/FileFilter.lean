import LanguageClient.Json.Access
import LanguageClient.Pattern.Matching
import LanguageClient.Pattern.Parser

/-!
Which files a server is for.
-/

namespace LanguageClient.FileFilter

def occurs (fileName pattern : Json) : Checked Bool :=
  match pattern with
  | .text s => do
    let p ← Pattern.parse s
    match fileName with
    | .text t => return p.occursIn t
    | _ => throw .wrongType
  | _ => .error .wrongType

/-- Patterns after the first one that occurs are not read. -/
def occursAny (fileName : Json) : List Json → Checked Bool
  | [] => .ok false
  | p :: ps => do
    if ← occurs fileName p then return true else occursAny fileName ps

def admits (patterns fileName : Json) : Checked Bool := do
  occursAny fileName (← patterns.elements)

end LanguageClient.FileFilter
