import LanguageClient.Fault
import LanguageClient.Path
import LanguageClient.Text.Utf8
import LanguageClient.Uri.Host

/-!
URIs of files. Writing keeps letters, digits and a few marks and escapes every other byte; reading
finds the path among the parts of a URI and undoes the escapes.
-/

namespace LanguageClient.Uri

def isPlain (b : UInt8) : Bool :=
  let c := CodePoint.ofNat b.toNat
  c.isDigit || c.isAsciiLetter || c = '_' || c = '.' || c = '-' || c = '~' || c = '/'

def upperHex (n : Nat) : CodePoint := .ofNat (if n < 10 then 0x30 + n else 0x41 + (n - 10))

def escapeByte (b : UInt8) : Text :=
  if isPlain b then [.ofNat b.toNat]
  else ['%', upperHex (b.toNat / 16), upperHex (b.toNat % 16)]

def escape (bs : Bytes) : Text := bs.flatMap escapeByte

/-- The bytes of a file name. The surrogates from U+DC80 to U+DCFF stand for single bytes. -/
def fileNameBytes (p : Text) : Checked Bytes :=
  match p with
  | [] => .ok []
  | c :: rest => do
    let head : Bytes ←
      if c.within 0xDC80 0xDCFF then pure [(c.val - 0xDC00).toUInt8]
      else if c.isSurrogate then throw .unencodable
      else pure (Utf8.encodeScalar c.val)
    return head ++ (← fileNameBytes rest)

def ofPath (p : Text) : Checked Text := do
  if !Path.isAbsolute p then
    throw (.invalidValue "relative path can't be expressed as a file URI")
  return "file://" ++ escape (← fileNameBytes (Path.normalise p))

/-- Undoes the escapes of an ASCII text; a percent sign that begins no escape stands for itself. -/
def unescapeBytes : Text → Bytes
  | c :: a :: b :: rest =>
    match c == '%', a.hexDigit?, b.hexDigit? with
    | true, some x, some y => (x * 16 + y).toUInt8 :: unescapeBytes rest
    | _, _, _ => c.val.toUInt8 :: unescapeBytes (a :: b :: rest)
  | short => short.map fun c => c.val.toUInt8

/-- Undoes the escapes in every stretch of ASCII, each of which is decoded by itself. -/
def unescapeFrom (ascii : Text) : Text → Text
  | [] => Utf8.decodeLossy (unescapeBytes ascii.reverse)
  | c :: rest =>
    if c.isAscii then unescapeFrom (c :: ascii) rest
    else Utf8.decodeLossy (unescapeBytes ascii.reverse) ++ c :: unescapeFrom [] rest

def unescape (t : Text) : Text := unescapeFrom [] t

def isSchemeMark (c : CodePoint) : Bool :=
  c.isDigit || c.isAsciiLetter || c = '+' || c = '-' || c = '.'

/-- The scheme in lower case and what follows its colon; without a scheme the first is empty. -/
def cutScheme (t : Text) : Text × Text :=
  match Text.cutAt ':' t with
  | some (scheme, rest) =>
    if (scheme.head?.map CodePoint.isAsciiLetter).getD false && scheme.all isSchemeMark then
      (Text.lowerAscii scheme, rest)
    else ([], t)
  | none => ([], t)

def endsAuthority (c : CodePoint) : Bool := c = '/' || c = '?' || c = '#'

def cutAuthority (t : Text) : Text × Text :=
  match t with
  | a :: b :: rest => if a = '/' && b = '/' then rest.span (!endsAuthority ·) else ([], t)
  | _ => ([], t)

/-- Code points whose compatibility form holds a delimiter. -/
def disguisedDelimiters : List Nat :=
  [0x2047, 0x2048, 0x2049, 0x2100, 0x2101, 0x2105, 0x2106, 0x2A74, 0xFE13, 0xFE16, 0xFE55, 0xFE56,
    0xFE5F, 0xFE6B, 0xFF03, 0xFF0F, 0xFF1A, 0xFF1F, 0xFF20]

def invalidAddress : Fault := .invalidValue "Invalid IPv6 URL"

/-- The host of an authority: it follows the user's name, and a port may follow it. Of a host in
brackets nothing but the name stands before them, and nothing but a port after them. -/
def host (authority : Text) : Checked Text :=
  let place := (Text.splitAt '@' authority).getLastD []
  match Text.cutAt '[' place with
  | none => .ok (Text.before ':' place)
  | some (front, rest) =>
    let port := Text.after ']' rest
    if !front.isEmpty || !port.isEmpty && port.head? ≠ some ':' then .error invalidAddress
    else .ok (Text.before ']' rest)

/-- An authority with brackets holds both kinds, and its host is an address. -/
def checkBrackets (authority : Text) : Checked Unit := do
  let opens := authority.contains ('[' : CodePoint)
  let closes := authority.contains (']' : CodePoint)
  if opens != closes then throw invalidAddress
  if opens then
    if let some text := Host.complaint? (← host authority) then throw (.invalidValue text)

def checkDisguise (authority : Text) : Checked Unit :=
  if authority.any fun c => disguisedDelimiters.contains c.val then
    .error (.invalidValue ("netloc '" ++ authority ++
      "' contains invalid characters under NFKC normalization"))
  else .ok ()

/-- Schemes whose last path segment may have parameters; a URI without a scheme is among them. -/
def schemesWithParameters : List Text :=
  [[], "ftp", "hdl", "prospero", "http", "imap", "https", "shttp", "rtsp", "rtspu", "sip", "sips",
    "mms", "sftp", "tel"]

/-- Cuts the parameters off the last segment. -/
def cutParameters (path : Text) : Text :=
  let segment := Path.baseName path
  path.take (path.length - segment.length) ++ Text.before ';' segment

/-- Line breaks and tabs do not count, nor do controls and spaces in front. -/
def clean (t : Text) : Text :=
  (t.dropWhile (·.val ≤ 0x20)).filter fun c => c ≠ '\t' && c ≠ '\r' && c ≠ '\n'

/-- The path among the parts of a URI, with its escapes. -/
def rawPath (uri : Text) : Checked Text := do
  let (scheme, rest) := cutScheme (clean uri)
  let (authority, rest) := cutAuthority rest
  checkBrackets authority
  let path := Text.before '?' (Text.before '#' rest)
  checkDisguise authority
  return if schemesWithParameters.contains scheme then cutParameters path else path

def toPath (uri : Text) : Checked Text := do
  return unescape (← rawPath uri)

end LanguageClient.Uri
