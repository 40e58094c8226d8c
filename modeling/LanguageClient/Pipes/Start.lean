import LanguageClient.Pipes.Pump
import LanguageClient.Program.Command

/-!
Starting the process of a configured server.
-/

namespace LanguageClient.Pipes

/-- The name and the words of a configured command, and what is said before it is started. -/
def prepare (config : Json) : Checked (Text × List Text) × List Text :=
  match config.mandatory "name" with
  | .error f => (.error f, [])
  | .ok name =>
    match config.field "command" with
    | .error f => (.error f, [])
    | .ok command =>
      let name := name.display
      if !command.holds then
        (.error (.failure (.spawn (name ++ " - No command configured"))), [])
      else
        match Program.written command with
        | .error f => (.error f, [])
        | .ok written =>
          let said : List Text := ["Start " ++ name ++ " \x60" ++ written ++ "\x60"]
          match Program.words command with
          | .error f => (.error f, said)
          | .ok words =>
            match Program.problem? words with
            | some text =>
              (.error (.failure (.spawn
                (name ++ " - Failed to start server process: " ++ text))), said)
            | none => (.ok (name, words), said)

/-- Starts the process of a configured server under a number, and the pumps at its pipes. -/
def start (config id : Json) : Checked Pipes × List Event :=
  match prepare config with
  | (.error f, said) => (.error f, said.map (debug .client))
  | (.ok (name, words), said) =>
    let job : Job := { id := Chars.ofText id.display, words := words.map Chars.ofText }
    let process : Process := { id, program := .job job }
    let (p, launched) := launch name process.advance
    let (p, settled) := p.settle
    (.ok p,
      said.map (debug .client) ++
        .logged .client Level.info (name ++ " is up and running; PID " ++ id.display) ::
        (launched ++ settled))

end LanguageClient.Pipes
