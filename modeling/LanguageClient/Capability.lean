import LanguageClient.Json.Access

/-!
What a server says it offers.
-/

namespace LanguageClient.Capability

/-- A provider is a truth value or an object of options; an empty one offers the feature too. -/
def enabled : Json → Bool
  | .null | .bool false => false
  | _ => true

def syncOptionsOf (openClose : Bool) (change : Json) : Json :=
  .object [("openClose", .bool openClose), ("change", change)]

/-- The options of document synchronisation, which a server may give as a number alone. -/
def syncOptions : Json → Json
  | .null => syncOptionsOf false (.int 0)
  | .bool b => syncOptionsOf b (.bool b)
  | .int n => syncOptionsOf (n != 0) (.int n)
  | options => options

/-- The methods with a provider of their own, and its name. -/
def providers : List (Text × Text) :=
  [("textDocument/completion", "completionProvider"),
    ("textDocument/definition", "definitionProvider"),
    ("textDocument/declaration", "declarationProvider"),
    ("textDocument/typeDefinition", "typeDefinitionProvider"),
    ("textDocument/implementation", "implementationProvider")]

def providerOf? (method : Json) : Option Text :=
  match method with
  | .text method => (providers.find? fun (m, _) => m = method).map (·.2)
  | _ => none

def isMethod (method : Json) (name : Text) : Bool :=
  match method with
  | .text method => method = name
  | _ => false

/-- Whether a method is supported; null while the capabilities are not known. -/
def supports (capabilities : Option Json) (method : Json) : Checked Json :=
  match capabilities with
  | none => .ok .null
  | some capabilities =>
    match providerOf? method with
    | some provider => do return .bool (enabled (← capabilities.field provider))
    | none =>
      if isMethod method "textDocument/didOpen" || isMethod method "textDocument/didClose" then do
        (syncOptions (← capabilities.field "textDocumentSync")).fieldD "openClose" (.bool false)
      else if isMethod method "textDocument/didChange" then do
        let options := syncOptions (← capabilities.field "textDocumentSync")
        return .bool (!(← options.fieldD "change" (.int 0)).same (.int 0))
      else .ok (.bool false)

end LanguageClient.Capability
