import Provenance.Lexis.Keyword
import Provenance.Lexis.Literal
import Provenance.Text.Blank
import Provenance.Text.Digit
import Provenance.Text.Segment

/-!
# Lexis — Shape

The shape of a line of code: its tokens with every name, number and literal replaced by one symbol
for its kind. Two lines that differ only in their names and values have one shape.
-/

namespace Provenance.Lexis

open Text

/-! ## Tokens -/

/-- Whether a character can begin a name. -/
def isNameStart (c : Char) : Bool := c.isAlpha || c == '_'

/-- Whether a character can go on in a name. -/
def isNameChar (c : Char) : Bool := c.isAlphanum || c == '_'

/-- The operators of two characters that are one token. -/
def isOperator (c d : Char) : Bool :=
  (c, d) ∈ [('=', '='), ('!', '='), ('<', '='), ('>', '='), ('=', '>'), ('-', '>'), ('&', '&'),
    ('|', '|')]

/-- The fraction of a number at the start of a text: a point and at least one digit. -/
def fraction : List Char → List Char
  | '.' :: cs =>
    match cs.takeWhile isDecimal with
    | [] => []
    | digits => '.' :: digits
  | _ => []

/-- The tokens of a text: names, numbers, operators and single other characters. Blanks separate
tokens and are none. -/
def tokens : List Char → List (List Char)
  | [] => []
  | c :: cs =>
    if isNameStart c then
      have := length_dropWhile_le isNameChar cs
      (c :: cs.takeWhile isNameChar) :: tokens (cs.dropWhile isNameChar)
    else if isDecimal c then
      let rest := cs.dropWhile isDecimal
      have := length_dropWhile_le isDecimal cs
      have : (rest.drop (fraction rest).length).length ≤ rest.length := by simp
      (c :: (cs.takeWhile isDecimal ++ fraction rest)) :: tokens (rest.drop (fraction rest).length)
    else if isBlank c then tokens cs
    else match cs with
      | [] => [[c]]
      | d :: rest =>
        if isOperator c d then [c, d] :: tokens rest
        else [c] :: tokens (d :: rest)
termination_by cs => cs.length

/-! ## Symbols -/

/-- What a token contributes to the shape of its line. -/
inductive Symbol where
  | literal
  | number
  | name
  /-- A token that stands for itself: a keyword, an operator, a mark. -/
  | verbatim (token : List Char)
  deriving DecidableEq

/-- The text of a symbol. -/
def Symbol.text : Symbol → List Char
  | .literal => ['S']
  | .number => ['N']
  | .name => ['I']
  | .verbatim token => token

/-- The symbol of a token. -/
def Symbol.ofToken (token : List Char) : Symbol :=
  match token with
  | [] => .verbatim []
  | c :: _ =>
    if token = [literalMark] then .literal
    else if isDigit c then .number
    else if isLetter c || c == '_' then (if isKeyword token then .verbatim token else .name)
    else .verbatim token

/-- The shape of a line. -/
abbrev Shape := List Symbol

/-- The shape of a line of code. -/
def shape (line : List Char) : Shape := (tokens (markLiterals line)).map Symbol.ofToken

/-- A shape as text, its symbols separated by spaces. -/
def Shape.text (s : Shape) : String :=
  " ".intercalate (s.map fun symbol => String.ofList symbol.text)

end Provenance.Lexis
