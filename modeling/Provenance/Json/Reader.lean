import Provenance.Json

/-!
# Json — Reader

Reading JSON values from text. Every reader takes what it needs from the front of the text and hands
back the rest; a text is read as one value only when nothing but blanks is left.
-/

namespace Provenance.Json

/-! ## Strings -/

/-- The value of a hexadecimal digit. -/
def hexDigit? (c : Char) : Option Nat :=
  if c.isDigit then some (c.toNat - '0'.toNat)
  else if 'a' ≤ c ∧ c ≤ 'f' then some (c.toNat - 'a'.toNat + 10)
  else if 'A' ≤ c ∧ c ≤ 'F' then some (c.toNat - 'A'.toNat + 10)
  else none

/-- The value of four hexadecimal digits. -/
def hex4? (a b c d : Char) : Option Nat := do
  return 4096 * (← hexDigit? a) + 256 * (← hexDigit? b) + 16 * (← hexDigit? c) + (← hexDigit? d)

/-- The character that a letter behind a backslash stands for. -/
def escape? (c : Char) : Option Char :=
  match c with
  | '"' => some '"'
  | '\\' => some '\\'
  | '/' => some '/'
  | 'b' => some '\x08'
  | 'f' => some '\x0c'
  | 'n' => some '\n'
  | 'r' => some '\r'
  | 't' => some '\t'
  | _ => none

/-- The code point of a pair of surrogates. -/
def pairValue (high low : Nat) : Nat := 0x10000 + (high - 0xd800) * 1024 + (low - 0xdc00)

/-- The characters of a string whose opening quote has been read, and what follows the closing one.
`taken` holds the characters read so far, the last one first. A surrogate without its partner is
read as the replacement character. -/
def readString? (taken : List Char) : List Char → Option (List Char × List Char)
  | [] => none
  | '"' :: cs => some (taken.reverse, cs)
  | '\\' :: 'u' :: a :: b :: c :: d :: '\\' :: 'u' :: a' :: b' :: c' :: d' :: cs =>
    match hex4? a b c d, hex4? a' b' c' d' with
    | some n, some m =>
      if 0xd800 ≤ n ∧ n < 0xdc00 ∧ 0xdc00 ≤ m ∧ m < 0xe000 then
        readString? (Char.ofNat (pairValue n m) :: taken) cs
      else
        readString? ((if 0xd800 ≤ n ∧ n < 0xe000 then '\ufffd' else Char.ofNat n) :: taken)
          ('\\' :: 'u' :: a' :: b' :: c' :: d' :: cs)
    | _, _ => none
  | '\\' :: 'u' :: a :: b :: c :: d :: cs =>
    match hex4? a b c d with
    | some n =>
      readString? ((if 0xd800 ≤ n ∧ n < 0xe000 then '\ufffd' else Char.ofNat n) :: taken) cs
    | none => none
  | '\\' :: c :: cs =>
    match escape? c with
    | some e => readString? (e :: taken) cs
    | none => none
  | c :: cs => if c.toNat < 0x20 ∨ c = '\\' then none else readString? (c :: taken) cs

/-! ## Numbers -/

/-- Whether a character can stand in a number. -/
def isNumberChar (c : Char) : Bool :=
  c.isDigit || c == '-' || c == '+' || c == '.' || c == 'e' || c == 'E'

/-- The number that a text spells: no plus sign in front, no superfluous zero, digits on both sides
of a point. With a point or an exponent it is a fraction, otherwise an integer. -/
def number? (cs : List Char) : Option Json :=
  let unsigned := if cs.head? = some '-' then cs.drop 1 else cs
  let whole := unsigned.takeWhile Char.isDigit
  let rest := unsigned.dropWhile Char.isDigit
  if whole = [] ∨ (whole.head? = some '0' ∧ whole ≠ ['0']) then none
  else if rest = [] then (Numeral.plainInteger? cs).map .integer
  else match rest with
    | '.' :: more =>
      if more.head?.any Char.isDigit then (Numeral.fraction? cs).map .fraction else none
    | _ => (Numeral.fraction? cs).map .fraction

/-! ## Values -/

/-- Whether a character is blank between the tokens of JSON. -/
def isSpace (c : Char) : Bool := c == ' ' || c == '\t' || c == '\n' || c == '\r'

def skipSpace (cs : List Char) : List Char := cs.dropWhile isSpace

mutual

/-- Reads one value. The fuel bounds the count of values, items and fields in it. -/
def readValue? : Nat → List Char → Option (Json × List Char)
  | 0, _ => none
  | fuel + 1, cs =>
    match skipSpace cs with
    | 'n' :: 'u' :: 'l' :: 'l' :: rest => some (.null, rest)
    | 't' :: 'r' :: 'u' :: 'e' :: rest => some (.bool true, rest)
    | 'f' :: 'a' :: 'l' :: 's' :: 'e' :: rest => some (.bool false, rest)
    | 'N' :: 'a' :: 'N' :: rest => some (.named .notANumber, rest)
    | 'I' :: 'n' :: 'f' :: 'i' :: 'n' :: 'i' :: 't' :: 'y' :: rest =>
      some (.named (.infinite false), rest)
    | '-' :: 'I' :: 'n' :: 'f' :: 'i' :: 'n' :: 'i' :: 't' :: 'y' :: rest =>
      some (.named (.infinite true), rest)
    | '"' :: rest => (readString? [] rest).map fun (s, after) => (.text (String.ofList s), after)
    | '[' :: rest =>
      match skipSpace rest with
      | ']' :: after => some (.list [], after)
      | more => readItems? fuel [] more
    | '\x7b' :: rest =>
      match skipSpace rest with
      | '\x7d' :: after => some (.object [], after)
      | more => readFields? fuel [] more
    | rest =>
      (number? (rest.takeWhile isNumberChar)).map fun n => (n, rest.dropWhile isNumberChar)

/-- Reads the items of a list up to its closing bracket. -/
def readItems? : Nat → List Json → List Char → Option (Json × List Char)
  | 0, _, _ => none
  | fuel + 1, taken, cs =>
    match readValue? fuel cs with
    | none => none
    | some (value, rest) =>
      match skipSpace rest with
      | ',' :: more => readItems? fuel (value :: taken) more
      | ']' :: after => some (.list (value :: taken).reverse, after)
      | _ => none

/-- Reads the fields of an object up to its closing brace. -/
def readFields? : Nat → List (String × Json) → List Char → Option (Json × List Char)
  | 0, _, _ => none
  | fuel + 1, taken, cs =>
    match skipSpace cs with
    | '"' :: rest =>
      match readString? [] rest with
      | none => none
      | some (name, rest) =>
        match skipSpace rest with
        | ':' :: more =>
          match readValue? fuel more with
          | none => none
          | some (value, rest) =>
            let taken := (String.ofList name, value) :: taken
            match skipSpace rest with
            | ',' :: more => readFields? fuel taken more
            | '\x7d' :: after => some (.object taken.reverse, after)
            | _ => none
        | _ => none
    | _ => none

end

/-- The value that a text spells. -/
def ofString? (s : String) : Option Json :=
  let cs := s.toList
  match readValue? (2 * cs.length + 2) cs with
  | some (value, rest) => if skipSpace rest = [] then some value else none
  | none => none

end Provenance.Json
