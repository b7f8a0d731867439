import Provenance.Lexis.Shape
import Provenance.Text.Case

/-!
# Lexis — Name

The names on a line of code, the words a name is made of, and the convention that joins them.
-/

namespace Provenance.Lexis

open Text

/-! ## Names on a line -/

/-- Whether a word is spelled as a name: ASCII letters, digits and low lines, no digit in front. -/
def isNameSpelling : List Char → Bool
  | [] => false
  | c :: cs => isNameStart c && cs.all isNameChar

/-- The names on a line of code outside literals. A name is a whole word, so that a word with a
character of another script in it holds no name; keywords are no names. -/
def names (line : List Char) : List (List Char) :=
  (segments isWord isWord (emptyLiterals line)).filter fun word =>
    isNameSpelling word && !isKeyword word

/-! ## Words of a name -/

/-- The words of a name without low lines. A word is a stretch of lower-case letters with at most
one capital in front, a stretch of capitals up to the capital of such a word, or a stretch of
digits; other characters are skipped. -/
def wordsOfPart : List Char → List (List Char)
  | [] => []
  | c :: cs =>
    if c.isUpper then
      let capitals := cs.takeWhile Char.isUpper
      let rest := cs.dropWhile Char.isUpper
      let small := rest.takeWhile Char.isLower
      have := length_dropWhile_le Char.isUpper cs
      have := length_dropWhile_le Char.isLower (cs.dropWhile Char.isUpper)
      if small = [] then (c :: capitals) :: wordsOfPart rest
      else match capitals.getLast? with
        | none => (c :: small) :: wordsOfPart (rest.dropWhile Char.isLower)
        | some last =>
          (c :: capitals.dropLast) :: (last :: small) :: wordsOfPart (rest.dropWhile Char.isLower)
    else if c.isLower then
      have := length_dropWhile_le Char.isLower cs
      (c :: cs.takeWhile Char.isLower) :: wordsOfPart (cs.dropWhile Char.isLower)
    else if isDecimal c then
      have := length_dropWhile_le isDecimal cs
      (c :: cs.takeWhile isDecimal) :: wordsOfPart (cs.dropWhile isDecimal)
    else wordsOfPart cs
termination_by cs => cs.length

/-- The words of a name in lower case. Low lines separate words. -/
def wordsOfName (name : List Char) : List (List Char) :=
  ((name.splitOn '_').flatMap wordsOfPart).map fun word => word.map Char.toLower

/-! ## Conventions -/

/-- How the words of a name are joined. -/
inductive Convention where
  /-- There is at most one word. -/
  | simple
  | upperCase
  | snakeCase
  | camelCase
  | pascalCase
  | mixed
  deriving DecidableEq

namespace Convention

/-- The convention as it is written in reports. -/
def text : Convention → String
  | .simple => "simple"
  | .upperCase => "UPPER_CASE"
  | .snakeCase => "snake_case"
  | .camelCase => "camelCase"
  | .pascalCase => "PascalCase"
  | .mixed => "mixed"

/-- The convention of a name. Low lines at its ends do not count. -/
def ofName (name : List Char) : Convention :=
  match trim (· == '_') name with
  | [] => .simple
  | c :: cs =>
    let core := c :: cs
    let joined := core.contains '_'
    if (wordsOfName core).length < 2 then .simple
    else if isUpperText core then .upperCase
    else if joined && isLowerText core then .snakeCase
    else if !joined && isLower c then .camelCase
    else if !joined && isUpper c then .pascalCase
    else .mixed

end Convention

end Provenance.Lexis
