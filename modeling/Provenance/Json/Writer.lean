import Provenance.Json

/-!
# Json — Writer

JSON values as text of ASCII characters, on one line or indented by two spaces a level.
-/

namespace Provenance.Json

/-! ## Strings -/

/-- Four hexadecimal digits of a number. -/
def hex4 (n : Nat) : List Char :=
  [n / 4096 % 16, n / 256 % 16, n / 16 % 16, n % 16].map Nat.digitChar

/-- A character in a string. Outside printable ASCII it is written by its UTF-16 code units. -/
def writeChar (c : Char) : List Char :=
  if c = '"' then ['\\', '"']
  else if c = '\\' then ['\\', '\\']
  else if c = '\n' then ['\\', 'n']
  else if c = '\r' then ['\\', 'r']
  else if c = '\t' then ['\\', 't']
  else if c = '\x0c' then ['\\', 'f']
  else if c = '\x08' then ['\\', 'b']
  else
    let n := c.toNat
    if 0x20 ≤ n ∧ n ≤ 0x7e then [c]
    else if n < 0x10000 then '\\' :: 'u' :: hex4 n
    else
      let high := 0xd800 + (n - 0x10000) / 1024
      let low := 0xdc00 + (n - 0x10000) % 1024
      ('\\' :: 'u' :: hex4 high) ++ ('\\' :: 'u' :: hex4 low)

/-- A text in quotes. -/
def writeString (s : String) : String :=
  String.ofList ('"' :: (s.toList.flatMap writeChar ++ ['"']))

/-! ## Numbers -/

/-- An integer in decimal digits. -/
def writeInteger : Int → String
  | .ofNat n => Nat.repr n
  | .negSucc n => "-" ++ Nat.repr (n + 1)

/-- A fraction by its digits and its power of ten. -/
def writeFraction (f : Numeral.Fraction) : String :=
  (if f.negative then "-" else "") ++ Nat.repr f.digits ++ "e" ++ writeInteger f.exponent

/-- The name of a number without digits. -/
def writeName : Binary64 → String
  | .infinite false => "Infinity"
  | .infinite true => "-Infinity"
  | _ => "NaN"

/-! ## Values -/

def writeBool (b : Bool) : String := if b then "true" else "false"

mutual

/-- A value on one line. -/
def line : Json → String
  | .null => "null"
  | .bool b => writeBool b
  | .integer n => writeInteger n
  | .fraction f => writeFraction f
  | .named x => writeName x
  | .text s => writeString s
  | .list items => "[" ++ lineItems items ++ "]"
  | .object fields => "\x7b" ++ lineFields fields ++ "\x7d"

def lineItems : List Json → String
  | [] => ""
  | [x] => line x
  | x :: xs => line x ++ ", " ++ lineItems xs

def lineFields : List (String × Json) → String
  | [] => ""
  | [(name, x)] => writeString name ++ ": " ++ line x
  | (name, x) :: xs => writeString name ++ ": " ++ line x ++ ", " ++ lineFields xs

end

/-- The blanks in front of a line at some depth. -/
def indent (depth : Nat) : String := String.ofList (List.replicate (2 * depth) ' ')

mutual

/-- A value with each item and field on a line of its own. -/
def indented (depth : Nat) : Json → String
  | .null => "null"
  | .bool b => writeBool b
  | .integer n => writeInteger n
  | .fraction f => writeFraction f
  | .named x => writeName x
  | .text s => writeString s
  | .list [] => "[]"
  | .list (x :: xs) => "[\n" ++ indentedItems (depth + 1) (x :: xs) ++ "\n" ++ indent depth ++ "]"
  | .object [] => "\x7b\x7d"
  | .object (x :: xs) =>
    "\x7b\n" ++ indentedFields (depth + 1) (x :: xs) ++ "\n" ++ indent depth ++ "\x7d"

def indentedItems (depth : Nat) : List Json → String
  | [] => ""
  | [x] => indent depth ++ indented depth x
  | x :: xs => indent depth ++ indented depth x ++ ",\n" ++ indentedItems depth xs

def indentedFields (depth : Nat) : List (String × Json) → String
  | [] => ""
  | [(name, x)] => indent depth ++ writeString name ++ ": " ++ indented depth x
  | (name, x) :: xs =>
    indent depth ++ writeString name ++ ": " ++ indented depth x ++ ",\n" ++ indentedFields depth xs

end

end Provenance.Json
