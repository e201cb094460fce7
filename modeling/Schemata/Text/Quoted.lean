import Schemata.Text.Printable

/-!
Quoted text. A text stands in single quotes, or in double quotes when it holds a single
quote and no double one; the quote in use, the backslash and everything unprintable is
escaped, with the shortest hexadecimal form that fits.
-/
namespace Schemata.Text

def quoteMark (text : List Char) : Char :=
  if text.contains '\'' && !text.contains '"' then '"' else '\''

/-- Lower-case hexadecimal digits, padded with zeros to the given width. -/
def hexDigits (width n : Nat) : List Char :=
  let digits := Nat.toDigits 16 n
  List.replicate (width - digits.length) '0' ++ digits

def escaped (quote c : Char) : List Char :=
  if c = quote ∨ c = '\\' then ['\\',c]
  else if c = '\n' then ['\\','n']
  else if c = '\r' then ['\\','r']
  else if c = '\t' then ['\\','t']
  else if isPrintable c then [c]
  else if c.toNat < 0x100 then ['\\','x'] ++ hexDigits 2 c.toNat
  else if c.toNat < 0x10000 then ['\\','u'] ++ hexDigits 4 c.toNat
  else ['\\','U'] ++ hexDigits 8 c.toNat

def quoted (text : String) : String :=
  let quote := quoteMark text.toList
  String.ofList (quote :: text.toList.flatMap (escaped quote) ++ [quote])

/-- A byte counts as the character of its code; only visible ASCII stands for itself. -/
def escapedByte (quote : Char) (byte : UInt8) : List Char :=
  let c := Char.ofNat byte.toNat
  if c.toNat < 0x7f then escaped quote c else ['\\','x'] ++ hexDigits 2 byte.toNat

def quotedBytes (bytes : List UInt8) : String :=
  let quote := quoteMark (bytes.map fun byte => Char.ofNat byte.toNat)
  String.ofList ('b' :: quote :: bytes.flatMap (escapedByte quote) ++ [quote])

end Schemata.Text
