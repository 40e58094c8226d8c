import LanguageClient.Pipes.Basic
import LanguageClient.Text.Blank

/-!
The pumps at the pipes of a process. A step moves one item: the writer hands the next data to the
process, the reader takes what the process wrote, the listener takes what it complains about.
A pump stops at the end of its source or when its pipe fails.
-/

namespace LanguageClient.Pipes

/-! Writer -/

def brokenPipe : Text := "[Errno 32] Broken pipe"

/-- What the process does with data, and why it does not take it. -/
def offer (process : Process) (data : Bytes) : Process × List Event × Option Text :=
  match process.program with
  | .job _ =>
    if process.hasEnded then (process, [], some brokenPipe)
    else (process.receive data, [.written data], none)
  | .standIn .. =>
    match process.inputFault? .write with
    | some message => (process, [], some message)
    | none => (process, [.written data], process.inputFault? .flush)

def stopWriter (p : Pipes) : Pipes × List Event :=
  ({ p with writing := false }, [debug .writer (p.tag ++ "Writer stopped 🔴")])

def writeStep? (p : Pipes) : Option (Pipes × List Event) :=
  if !p.writing then none
  else
    match p.outgoing with
    | [] => none
    | none :: rest => some ({ p with outgoing := rest }.stopWriter)
    | some data :: rest =>
      match offer p.process data with
      | (process, events, none) => some ({ p with outgoing := rest, process := process }, events)
      | (process, events, some message) =>
        let complaint := p.tag ++ "Can't write to server's stdin (broken pipe): " ++ message
        let p := { p with outgoing := rest, process := process, broken := true }
        some (p.stopWriter.1, events ++ .logged .writer Level.error complaint :: p.stopWriter.2)

/-! Reader -/

def stopReader (p : Pipes) : Pipes × List Event :=
  ({ p with ended := true, reading := false }, [debug .reader (p.tag ++ "Reader stopped 🔴")])

/-- Nothing at all is the end of what a process writes. -/
def readStep? (p : Pipes) : Option (Pipes × List Event) :=
  if !p.reading then none
  else
    match p.process.output with
    | [] => none
    | chunk :: rest =>
      let p := { p with process := { p.process with output := rest } }
      match chunk with
      | .ends | .data [] => some p.stopReader
      | .data bytes => some ({ p with incoming := p.incoming ++ [bytes] }, [])
      | .fails message =>
        let (q, stopped) := p.stopReader
        if p.closed then some (q, stopped)
        else
          some (q, .logged .reader Level.error (p.tag ++ "Reader error: " ++ message) :: stopped)

/-! Listener -/

def lineText (line : Bytes) : Text := Text.trimEnd CodePoint.isBlank (Utf8.decodeLossy line)

def newline : UInt8 := 10

/-- The lines that end in some bytes, and what is left of the last one. -/
def cutLines (part : Bytes) : Bytes → List Bytes × Bytes
  | [] => ([], part)
  | b :: rest =>
    if b = newline then
      let (lines, left) := cutLines [] rest
      ((part ++ [b]) :: lines, left)
    else cutLines (part ++ [b]) rest

def listenStep? (p : Pipes) : Option (Pipes × List Event) :=
  if !p.listening then none
  else
    match p.process.complaints with
    | [] => none
    | chunk :: rest =>
      let p := { p with process := { p.process with complaints := rest } }
      match chunk with
      | .ends | .data [] =>
        let last := if p.partLine.isEmpty then [] else [lineText p.partLine]
        some ({ p with
          complaints := p.complaints ++ last, partLine := [], listening := false }, [])
      | .data bytes =>
        let (lines, left) := cutLines p.partLine bytes
        some ({ p with complaints := p.complaints ++ lines.map lineText, partLine := left }, [])
      | .fails _ => some ({ p with partLine := [], listening := false }, [])

/-! Rest -/

def pumpUpTo (step? : Pipes → Option (Pipes × List Event)) : Nat → Pipes → Pipes × List Event
  | 0, p => (p, [])
  | fuel + 1, p =>
    match step? p with
    | none => (p, [])
    | some (p, events) =>
      let (p, more) := pumpUpTo step? fuel p
      (p, events ++ more)

def settleWriter (p : Pipes) : Pipes × List Event := pumpUpTo writeStep? p.outgoing.length p

/-- Every pump moves what there is to move. -/
def settle (p : Pipes) : Pipes × List Event :=
  let (p, written) := p.settleWriter
  let (p, read) := pumpUpTo readStep? p.process.output.length p
  let (p, heard) := pumpUpTo listenStep? p.process.complaints.length p
  (p, written ++ read ++ heard)

end LanguageClient.Pipes
