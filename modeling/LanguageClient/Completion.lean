import LanguageClient.Json.Access
import LanguageClient.Json.Display

/-!
Completion items as entries: what is inserted, and what is shown beside it.
-/

namespace LanguageClient.Completion

def kindNames : List Text :=
  ["Text", "Method", "Function", "Constructor", "Field", "Variable", "Class", "Interface", "Module",
    "Property", "Unit", "Value", "Enum", "Keyword", "Snippet", "Color", "File", "Reference",
    "Folder", "EnumMember", "Constant", "Struct", "Event", "Operator", "TypeParameter"]

/-- The name of a kind; kinds are numbered from one. -/
def kindName? (kind : Json) : Checked (Option Text) := do
  match ← kind.key with
  | .number (.finite q) =>
    return if q.den = 1 && 1 ≤ q.num then kindNames[q.num.toNat - 1]? else none
  | _ => return none

structure Entry where
  key : Json.Key
  label : Json
  info : Json

/-- A label that is there keeps its place and its spelling. -/
def put (e : Entry) : List Entry → List Entry
  | [] => [e]
  | d :: rest => if d.key = e.key then { d with info := e.info } :: rest else d :: put e rest

def labelOf (item : Fields) : Json :=
  ((item.getD "label" .null).orElse
    ((Json.object item).lookup ["textEdit", "newText"] .null)).orElse
    (item.getD "insertText" .null)

def infoOf (item : Fields) : Checked Json := do
  let detail := item.getD "detail" .null
  if detail.holds then return detail
  match ← kindName? (item.getD "kind" .null) with
  | some name => return name
  | none => return ""

/-- Whether the label says more than the text to insert, as one with a signature does. -/
def labelSaysMore (item : Fields) : Checked Bool := do
  let label := item.getD "label" .null
  let inserted := item.getD "insertText" .null
  if label.holds && inserted.holds then
    let n ← label.size
    let m ← inserted.size
    return m < n
  else return false

def entryOf (label info : Json) : Checked Entry := do
  return ⟨← label.key, label, info⟩

/-- The entry of an item, if it has a text to insert. -/
def entry? (item : Fields) : Checked (Option Entry) := do
  let label := labelOf item
  if !label.holds then return none
  let info ← infoOf item
  if ← labelSaysMore item then
    let shown := item.getD "label" .null
    let detail := item.getD "detail" .null
    let info : Json := if detail.holds then shown.display ++ ": " ++ detail.display else shown
    return some (← entryOf (item.getD "insertText" .null) info)
  else return some (← entryOf label info)

def addItem (entries : List Entry) (item : Json) : Checked (List Entry) :=
  match item with
  | .object item => do
    match ← entry? item with
    | some e => return put e entries
    | none => return entries
  | _ => .ok entries

/-- The last item with a given label wins. -/
def entries (items : Json) : Checked (List Entry) := do
  if !items.holds then return []
  (← items.elements).foldlM addItem []

end LanguageClient.Completion
