import LanguageClient.Frame.Header
import LanguageClient.Frame.Writer
import LanguageClient.Json.Parser

/-!
Reading frames from bytes that arrive in pieces. A frame that cannot be read is dropped; after a
bad header reading goes on where the next length field begins.
-/

namespace LanguageClient.Frame

/-- A header without an end may have at most so many bytes. -/
def headerLimit : Nat := 4096

/-- The bytes that no one has taken yet, the length of the body that comes next if its header was
read, whether the next header is still to be found, and how deeply a body may be nested, if there
is a limit to it. -/
structure Reader where
  buffer : Bytes := []
  length? : Option Nat := none
  lost : Bool := false
  limit? : Option Nat := some Json.Progress.depthLimit

inductive Reading where
  | more
  | message (fields : Fields)
  | fault (f : Fault)

def Reading.malformed (reason : Text) (raw : Bytes) : Reading :=
  .fault (.failure (.malformed reason raw))

def Reading.oversized (raw : Bytes) : Reading := .malformed "Header too large" raw

/-- What `bs` is before and after the first place where `pattern` stands. -/
def cutAround (pattern : Bytes) : Bytes → Option (Bytes × Bytes)
  | [] => if pattern.isEmpty then some ([], []) else none
  | b :: bs =>
    if pattern.isPrefixOf (b :: bs) then some ([], (b :: bs).drop pattern.length)
    else (cutAround pattern bs).map fun (before, after) => (b :: before, after)

def lowerByte (b : UInt8) : UInt8 := if 0x41 ≤ b && b ≤ 0x5A then b + 0x20 else b

def lengthMark : Bytes := Utf8.encodeLossless "content-length:"

/-- The bytes from the first length field on. -/
def fromMark? : Bytes → Option Bytes
  | [] => none
  | b :: bs =>
    if lengthMark.isPrefixOf (((b :: bs).take lengthMark.length).map lowerByte) then some (b :: bs)
    else fromMark? bs

/-- The last bytes, in which a length field may have begun. -/
def tail (bs : Bytes) : Bytes := bs.drop (bs.length - (lengthMark.length - 1))

def decodeBody (limit? : Option Nat) (body : Bytes) : Reading :=
  match Utf8.decode? body with
  | none => .malformed "Failed to decode message" body
  | some t =>
    match Json.parse t limit? with
    | .ok (.object fields) => .message fields
    | .ok _ => .malformed "Message is not an object" body
    | .error .malformed => .malformed "Failed to decode message" body
    | .error (.longInteger digits) => .fault (.longToRead digits)
    | .error .nestedTooDeep => .fault .nestedTooDeep

namespace Reader

def feed (r : Reader) (data : Bytes) : Reader := { r with buffer := r.buffer ++ data }

def buffered (r : Reader) : Nat := r.buffer.length

/-- Drops bytes up to the next length field, if it is there. -/
def find (r : Reader) : Reader :=
  if !r.lost then r
  else
    match fromMark? r.buffer with
    | some bs => { r with buffer := bs, lost := false }
    | none => { r with buffer := tail r.buffer }

/-- Takes a body of a known length. -/
def takeBody (r : Reader) (n : Nat) : Reading × Reader :=
  if r.buffer.length < n then (.more, { r with length? := some n })
  else
    (decodeBody r.limit? (r.buffer.take n), { r with buffer := r.buffer.drop n, length? := none })

def takeFrame (r : Reader) : Reading × Reader :=
  match cutAround separator r.buffer with
  | none =>
    if r.buffer.length > headerLimit then
      (.oversized r.buffer, { r with buffer := [], lost := true })
    else (.more, r)
  | some (header, rest) =>
    match parseHeader header with
    | .ok n => ({ r with buffer := rest }).takeBody n
    | .error problem => (.malformed problem.reason header, { r with buffer := rest, lost := true })

/-- The next message or fault, or nothing while bytes are missing. -/
def next (r : Reader) : Reading × Reader :=
  let r := r.find
  if r.lost then (.more, r)
  else
    match r.length? with
    | some n => r.takeBody n
    | none => r.takeFrame

def drainUpTo : Nat → Reader → List Reading × Reader
  | 0, r => ([], r)
  | fuel + 1, r =>
    match r.next with
    | (.more, r) => ([], r)
    | (reading, r) =>
      let (readings, r) := drainUpTo fuel r
      (reading :: readings, r)

/-- Takes messages and faults until bytes are missing; each takes at least one byte. -/
def drain (r : Reader) : List Reading × Reader := drainUpTo (r.buffered + 1) r

/-- What comes of bytes that arrive piece by piece, piece by piece. -/
def receive (r : Reader) : List Bytes → List (List Reading) × Reader
  | [] => ([], r)
  | piece :: rest =>
    let (readings, r) := (r.feed piece).drain
    let (later, r) := r.receive rest
    (readings :: later, r)

end Reader

end LanguageClient.Frame
