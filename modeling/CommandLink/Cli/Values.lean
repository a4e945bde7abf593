import CommandLink.Cli.Exit
import CommandLink.Text.Number

/-! # Values on the command line

Subsystems by name or number, lengths of time, and octets in hexadecimal. -/

namespace CommandLink

/-- A letter in lower case, if it is an ASCII letter. -/
def lowerAscii (c : Char) : Char :=
  if 'A' ≤ c ∧ c ≤ 'Z' then Char.ofNat (c.toNat + 32) else c

namespace Subsystem

/-- The octet of a subsystem given by its number or, in any letter case, by its name. -/
def parse (text : String) : Except String UInt8 :=
  match unsigned? 256 text.toList with
  | some n => .ok (UInt8.ofNat n)
  | none =>
    match all.find? fun s => s.name.toList == text.toList.map lowerAscii with
    | some s => .ok s.code
    | none => .error s!"unknown subsystem: {text}"

/-- The name of a subsystem, or its number if it has none. -/
def label (code : UInt8) : String :=
  match ofCode? code with
  | some s => s.name
  | none => toString code.toNat

end Subsystem

namespace Duration

/-- The number before a unit, and the nanoseconds of the unit. Seconds need no unit. -/
def splitUnit (text : List Char) : List Char × Nat :=
  match text.reverse with
  | 's' :: 'm' :: number => (number.reverse, 1000000)
  | 's' :: number => (number.reverse, 1000000000)
  | _ => (text, 1000000000)

/-- A number of units is below this. -/
def countBound : Nat := 18446744073709551616

/-- The length of time that a text such as `5s`, `500ms` or `3` writes. -/
def parse (text : String) : Except Cli.Failure Duration :=
  let trimmed := trimBlanks text.toList
  if trimmed.isEmpty then .error (.usage "duration must not be empty")
  else
    let (number, unit) := splitUnit trimmed
    match unsigned? countBound number with
    | none => .error (.usage s!"invalid duration value: {String.ofList trimmed}")
    | some 0 => .error (.usage "duration must be greater than zero")
    | some n => .ok ⟨n * unit⟩

end Duration

namespace Octets

/-- The octet that two digits write. A plus sign may stand for the first. -/
def parsePair? (a b : Char) : Option UInt8 :=
  match hexDigitValue? a, hexDigitValue? b with
  | some hi, some lo => some (UInt8.ofNat (16 * hi + lo))
  | none, some lo => if a = '+' then some (UInt8.ofNat lo) else none
  | _, none => none

/-- A pair of octets of a text as it is shown; two question marks if it is not text by itself. -/
def shownPair (a b : UInt8) : String :=
  (String.fromUTF8? ⟨#[a, b]⟩).getD "??"

/-- The octets that pairs of digits write. -/
def parsePairs : Octets → Except Cli.Failure Octets
  | [] => .ok []
  | [_] => .error (.usage "hex input has an odd number of digits")
  | a :: b :: rest =>
    match parsePair? (Char.ofNat a.toNat) (Char.ofNat b.toNat) with
    | none => .error (.usage s!"invalid hex byte: {shownPair a b}")
    | some octet =>
      match parsePairs rest with
      | .ok octets => .ok (octet :: octets)
      | .error e => .error e

/-- The octets that a text of hexadecimal digits writes. White space between digits is ignored. -/
def parse (text : String) : Except Cli.Failure Octets :=
  let digits := text.toUTF8.toList.filter (!isAsciiBlank ·)
  if digits.length % 2 = 0 then parsePairs digits
  else .error (.usage "hex input has an odd number of digits")

/-- A payload as it is shown: as text if it is text, else in hexadecimal. -/
def preview (octets : Octets) : String :=
  match String.fromUTF8? ⟨octets.toArray⟩ with
  | some text => text
  | none => s!"<binary {octets.length} bytes: {toHex octets}>"

end Octets
end CommandLink
