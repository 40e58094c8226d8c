import LanguageClient.Text.Basic

/-!
UTF-8. Decoding reads one byte at a time and yields code points and ill-formed stretches, each as
long as some well-formed sequence begins that way.
-/

namespace LanguageClient.Utf8

def encodeScalar (n : Nat) : Bytes :=
  if n < 0x80 then [n.toUInt8]
  else if n < 0x800 then [(0xC0 + n / 0x40).toUInt8, (0x80 + n % 0x40).toUInt8]
  else if n < 0x10000 then
    [(0xE0 + n / 0x1000).toUInt8, (0x80 + n / 0x40 % 0x40).toUInt8, (0x80 + n % 0x40).toUInt8]
  else
    [(0xF0 + n / 0x40000).toUInt8, (0x80 + n / 0x1000 % 0x40).toUInt8,
      (0x80 + n / 0x40 % 0x40).toUInt8, (0x80 + n % 0x40).toUInt8]

def encodeLossless (t : Text) : Bytes := t.flatMap fun c => encodeScalar c.val

/-- A lone surrogate has no encoding. -/
def encode? (t : Text) : Option Bytes :=
  if t.any CodePoint.isSurrogate then none else some (encodeLossless t)

/-- The state between two bytes: how many continuation bytes are owed, the range of the next one,
and the bits read so far. -/
inductive State where
  | start
  | owed (more : Nat) (lo hi : UInt8) (bits : Nat)
deriving DecidableEq

/-- What decoding yields: a code point, or nothing for an ill-formed stretch. -/
abbrev Piece := Option CodePoint

def first (b : UInt8) : State × List Piece :=
  let n := b.toNat
  if n < 0x80 then (.start, [some (.ofNat n)])
  else if n < 0xC2 then (.start, [none])
  else if n < 0xE0 then (.owed 0 0x80 0xBF (n - 0xC0), [])
  else if n == 0xE0 then (.owed 1 0xA0 0xBF 0, [])
  else if n == 0xED then (.owed 1 0x80 0x9F 0xD, [])
  else if n < 0xF0 then (.owed 1 0x80 0xBF (n - 0xE0), [])
  else if n == 0xF0 then (.owed 2 0x90 0xBF 0, [])
  else if n < 0xF4 then (.owed 2 0x80 0xBF (n - 0xF0), [])
  else if n == 0xF4 then (.owed 2 0x80 0x8F 4, [])
  else (.start, [none])

def step (st : State) (b : UInt8) : State × List Piece :=
  match st with
  | .start => first b
  | .owed more lo hi bits =>
    if lo ≤ b && b ≤ hi then
      let bits := bits * 0x40 + (b.toNat - 0x80)
      match more with
      | 0 => (.start, [some (.ofNat bits)])
      | more + 1 => (.owed more 0x80 0xBF bits, [])
    else
      let (st, out) := first b
      (st, none :: out)

def finish : State → List Piece
  | .start => []
  | .owed .. => [none]

def piecesFrom : State → Bytes → List Piece
  | st, [] => finish st
  | st, b :: bs =>
    let (st, out) := step st b
    out ++ piecesFrom st bs

def pieces (bs : Bytes) : List Piece := piecesFrom .start bs

def decode? (bs : Bytes) : Option Text := (pieces bs).mapM id

def decodeLossy (bs : Bytes) : Text := (pieces bs).map fun u => u.getD CodePoint.replacement

end LanguageClient.Utf8
