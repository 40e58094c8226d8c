import LanguageClient.Json.Access

/-!
Locations that servers answer with: a plain one, or a link to a target.
-/

namespace LanguageClient.Location

/-- Line and column of the start of a range, both counted from one. -/
def selection (range : Json) : Checked (Json × Json) := do
  let line ← (range.lookup ["start", "line"] (.int 0)).shift 1
  let col ← (range.lookup ["start", "character"] (.int 0)).shift 1
  return (line, col)

/-- Of several locations the first one. -/
def firstOf : Json → Json
  | .list [] => .null
  | .list (v :: _) => v
  | v => v

def uri (location : Json) : Json :=
  (location.lookup ["uri"] .null).orElse (location.lookup ["targetUri"] .null)

def range (location : Json) : Json :=
  (location.lookup ["range"] .null).orElse (location.lookup ["targetSelectionRange"] .null)

end LanguageClient.Location
