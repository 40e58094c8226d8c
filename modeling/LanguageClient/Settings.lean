import LanguageClient.Json.Access

/-!
Settings of the application.
-/

namespace LanguageClient.Settings

/-- A setting, or `missing` if it is not set or there are no settings. -/
def get (settings : Json) (key : Json) (missing : Json) : Checked Json := do
  match settings with
  | .null => return missing
  | _ =>
    let fields ← settings.fields
    match ← key.key with
    | .text key => return fields.getD key missing
    | _ => return missing

end LanguageClient.Settings
