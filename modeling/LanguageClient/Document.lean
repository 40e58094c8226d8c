import LanguageClient.Json.Access
import LanguageClient.Uri.Basic

/-!
Documents as a host gives them, and the parts of messages that speak of them. Hosts count lines and
columns from one.
-/

namespace LanguageClient.Document

def fileName (doc : Json) : Checked Json := doc.mandatory "filename"

def asPath : Json → Checked Text
  | .text p => .ok p
  | _ => .error .wrongType

def uri (doc : Json) : Checked Text := do
  Uri.ofPath (Path.resolve (← asPath (← fileName doc)))

def version (doc : Json) : Checked Json := doc.fieldD "version" (.int 0)

def content (doc : Json) : Checked Json := doc.fieldD "text" ""

/-- The language a document says it is in, or else the extension of its name. -/
def language (doc : Json) : Checked Json := do
  let said ← doc.field "languageId"
  if said.holds then return said
  return Path.extension (← asPath (← fileName doc))

def item (doc : Json) : Checked Json := do
  let uri ← uri doc
  let language ← language doc
  let version ← version doc
  let content ← content doc
  return .object [("uri", uri), ("languageId", language), ("version", version), ("text", content)]

def identifier (doc : Json) : Checked Json := do
  return .object [("uri", ← uri doc)]

def positionParams (doc line col : Json) : Checked Json := do
  let identifier ← identifier doc
  let line ← line.shift (-1)
  let col ← col.shift (-1)
  return .object [("textDocument", identifier),
    ("position", .object [("line", line), ("character", col)])]

/-- The whole content of a document as its only change. -/
def changeParams (doc : Json) : Checked Json := do
  let uri ← uri doc
  let version ← version doc
  let content ← content doc
  return .object [("textDocument", .object [("uri", uri), ("version", version)]),
    ("contentChanges", .list [.object [("text", content)]]), ("syncKind", .int 1)]

end LanguageClient.Document
