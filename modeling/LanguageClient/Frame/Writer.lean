import LanguageClient.Json.Access
import LanguageClient.Json.Printer
import LanguageClient.Text.Utf8

/-!
Frames: a header that gives the number of bytes of the body, an empty line, and the body.
-/

namespace LanguageClient.Frame

def lineEnd : Bytes := [13, 10]

def separator : Bytes := lineEnd ++ lineEnd

def lengthField : Bytes := Utf8.encodeLossless "Content-Length: "

def header (length : Nat) : Bytes :=
  lengthField ++ Utf8.encodeLossless (Text.ofNat length) ++ separator

def frame (body : Bytes) : Bytes := header body.length ++ body

def encode (message : Json) : Checked Bytes :=
  if !message.isWritable then .error .longToWrite
  else
    match Utf8.encode? (message.render Json.wire) with
    | some body => .ok (frame body)
    | none => .error .unencodable

end LanguageClient.Frame
