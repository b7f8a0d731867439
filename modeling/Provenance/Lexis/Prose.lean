import Provenance.Text.Blank
import Provenance.Text.Case
import Provenance.Text.Digit
import Provenance.Text.Segment

/-!
# Lexis — Prose

The text of a comment without its delimiters, the words of that text, and the template it follows.
-/

namespace Provenance.Lexis

open Text

/-! ## Delimiters -/

/-- What follows the opening comment delimiter of a text that has no blanks in front. -/
def afterOpener? : List Char → Option (List Char)
  | '/' :: '/' :: '/' :: cs => some cs
  | '/' :: '/' :: cs => some cs
  | '/' :: '*' :: cs => some (cs.dropWhile (· == '*'))
  | '#' :: cs => some (cs.dropWhile (· == '#'))
  | '-' :: '-' :: cs => some cs
  | '*' :: cs =>
    match cs.dropWhile (· == '*') with
    | '/' :: rest => some rest
    | rest => some rest
  | '"' :: '"' :: '"' :: cs => some cs
  | '\'' :: '\'' :: '\'' :: cs => some cs
  | '<' :: '!' :: '-' :: '-' :: cs => some cs
  | '=' :: 'b' :: 'e' :: 'g' :: 'i' :: 'n' :: cs => some cs
  | _ => none

/-- The closing comment delimiters. -/
def closers : List (List Char) :=
  ["*/".toList, "-->".toList, "\"\"\"".toList, "\'\'\'".toList]

/-- A text without the closing delimiter at its end. -/
def dropCloser (cs : List Char) : List Char :=
  match closers.find? fun closer => closer.isSuffixOf cs with
  | some closer => cs.take (cs.length - closer.length)
  | none => cs

/-- The text of a comment line without delimiters and without blanks at either end. -/
def commentText (line : List Char) : List Char :=
  strip (dropCloser (strip ((afterOpener? (trimLeft isBlank line)).getD line)))

/-! ## Words -/

/-- Whether a character is a lower-case letter of ASCII. -/
def isSmall (c : Char) : Bool := 'a' ≤ c && c ≤ 'z'

/-- The words of a prose text in lower case: stretches of ASCII letters and apostrophes that begin
with a letter. -/
def proseWords (cs : List Char) : List (List Char) :=
  segments isSmall (fun c => isSmall c || c == '\'') (lower cs)

/-! ## Templates -/

/-- The words that head a section of a documentation comment. -/
def sectionHeads : List String := [
  "args", "arguments", "parameters", "params", "return", "returns", "yields", "raises", "throws",
  "example", "examples", "note", "attributes", "@param", "@return", "@returns", "@throws", "@type",
  "@example", ":param", ":return", ":returns", ":raises"]

/-- The small letter that a character is read as where letter case is ignored. The dotless and the
dotted i are read as i, and the long s as s. -/
def foldCase (c : Char) : Char :=
  if c == 'İ' || c == 'ı' then 'i' else if c == 'ſ' then 's' else lowerOne c

/-- The head of the section that a comment opens, as it is spelled there. A head is a whole word,
with the sign that belongs to it in front. -/
def sectionHead? (comment : List Char) : Option (List Char) :=
  let sign := comment.takeWhile fun c => c == '@' || c == ':'
  let head := sign ++ (comment.drop sign.length).takeWhile isWord
  if sectionHeads.contains (String.ofList (head.map foldCase)) then some head else none

/-- What comments of one template have in common. -/
inductive Template where
  /-- The head of a section, in lower case and without its sign. -/
  | heading (head : List Char)
  /-- The first word of a sentence, and the count of its words. -/
  | sentence (first : List Char) (count : Nat)
  deriving DecidableEq

/-- The template of a comment text. A text with fewer words than `minWords` follows none. -/
def Template.of? (minWords : Nat) (comment : List Char) : Option Template :=
  match sectionHead? comment with
  | some head => some (.heading (trimLeft (fun c => c == '@' || c == ':') (lower head)))
  | none =>
    match proseWords comment with
    | [] => none
    | first :: rest =>
      if rest.length + 1 < minWords then none else some (.sentence first (rest.length + 1))

end Provenance.Lexis
