import LanguageClient.Pipes.Pump

/-!
Closing a link: nothing more is written, and the process has some time to end before it is killed.
-/

namespace LanguageClient.Pipes

def info (text : Text) : Event := .logged .client Level.info text

/-- Data is refused from now on, and the writer stops after what is queued. -/
def refuse (p : Pipes) : Pipes := { p with closed := true, outgoing := p.outgoing ++ [none] }

def closeInput (p : Pipes) : Pipes × List Event :=
  ({ p with process := p.process.endInput }, [.inputClosed])

/-- Waits for the process, and kills it if it outlasts the timeout. -/
def awaitEnd (p : Pipes) (timeout : Json) (limit : Option Float) : Pipes × List Event :=
  match p.process.wait limit with
  | some process => ({ p with process := process }, [.awaited timeout])
  | none =>
    let killed := p.process.kill
    ({ p with process := (killed.wait none).getD killed },
      [.awaited timeout,
        info ("Terminate timeout expired; Will explicitly kill server " ++ p.name),
        .killed, .awaited .null])

/-- How long the writer, and then the process, are waited for. A writer that has stopped before is
not waited for, whatever the time. -/
def patience (p : Pipes) (timeout : Json) : Checked (Option Float) :=
  if p.writing then timeout.limit else timeout.duration

/-- Closes the link and gives the code that the process ended with. -/
def close (p : Pipes) (timeout : Json) : Checked Json × Pipes × List Event :=
  if p.closed then (.ok p.process.poll, p, [])
  else
    let patience := p.patience timeout
    let (p, written) := p.refuse.settleWriter
    match patience with
    | .error f => (.error f, p, written)
    | .ok limit =>
      let (p, closing) := p.closeInput
      let (p, ending) := p.awaitEnd timeout limit
      let code := p.process.poll
      (.ok code, p,
        written ++ closing ++
          debug .client ("Waiting for server " ++ p.name ++ " to terminate...") :: ending ++
          [info (p.name ++ " server terminated with returncode " ++ code.display)])

end LanguageClient.Pipes
