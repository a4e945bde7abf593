import CommandLink.Octets

/-! # Quoted strings

A string between quotation marks. The mark, the backslash and the control characters below space
are escaped, five of them by a letter and the others by their code in four hexadecimal digits. All
else stands for itself. -/

namespace CommandLink
namespace Quoted

/-- The written form of a character. -/
def escape (c : Char) : List Char :=
  if c = '"' then ['\\', '"']
  else if c = '\\' then ['\\', '\\']
  else if c = '\n' then ['\\', 'n']
  else if c = '\r' then ['\\', 'r']
  else if c = '\t' then ['\\', 't']
  else if c = '\x08' then ['\\', 'b']
  else if c = '\x0c' then ['\\', 'f']
  else if c.toNat < 32 then ['\\', 'u', '0', '0', hexDigit (c.toNat / 16), hexDigit (c.toNat % 16)]
  else [c]

def encode (s : String) : String :=
  String.ofList ('"' :: (s.toList.flatMap escape ++ ['"']))

end Quoted

/-- The written form of a value in a record. -/
inductive FieldValue
  | number (n : Nat)
  | text (s : String)

def FieldValue.written : FieldValue → String
  | .number n => toString n
  | .text s => Quoted.encode s

/-- A record on one line: names and values between braces, in order. -/
def recordLine (fields : List (String × FieldValue)) : String :=
  let written := fields.map fun (name, value) => Quoted.encode name ++ ":" ++ value.written
  "\x7b" ++ String.intercalate "," written ++ "\x7d"

end CommandLink
