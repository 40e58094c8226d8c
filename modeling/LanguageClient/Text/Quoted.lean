import LanguageClient.Text.Printable

/-!
Quoted texts and bytes. The quote is `'`, or `"` around a text that holds `'` and no `"`; the quote
and the backslash are escaped, and so is everything that cannot be printed.
-/

namespace LanguageClient.Quoted

def quoteFor (held : Char → Bool) : CodePoint := if held '\'' && !held '"' then '"' else '\''

def escape (quote : CodePoint) (printable : CodePoint → Bool) (c : CodePoint) : Text :=
  if c = quote || c = '\\' then ['\\', c]
  else if c = '\n' then "\\n"
  else if c = '\r' then "\\r"
  else if c = '\t' then "\\t"
  else if printable c then [c]
  else if c.val < 0x100 then "\\x" ++ Text.hex 2 c.val
  else if c.val < 0x10000 then "\\u" ++ Text.hex 4 c.val
  else "\\U" ++ Text.hex 8 c.val

def enclose (printable : CodePoint → Bool) (t : Text) : Text :=
  let quote := quoteFor fun c => t.contains (c : CodePoint)
  [quote] ++ t.flatMap (escape quote printable) ++ [quote]

def text (t : Text) : Text := enclose CodePoint.isPrintable t

/-- Bytes are shown as the code points of the same number, of which only ASCII is printable. -/
def bytes (bs : Bytes) : Text :=
  "b" ++ enclose (fun c => c.within 0x20 0x7E) (bs.map fun b => .ofNat b.toNat)

end LanguageClient.Quoted
