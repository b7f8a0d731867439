import Provenance.Grouping
import Provenance.Lexis.Name
import Provenance.Lexis.Prose
import Provenance.Number.Total
import Provenance.Pattern
import Provenance.Settings
import Provenance.Source.Line

/-!
# Detect — Comment

Two signals in comments. Templated comments follow one template many times: the head of a section of
a documentation comment, or a first word and a count of words. Restating comments say little that
the names on the next line of code do not say. A pattern covers its comments and the lines of code
they stand above.
-/

namespace Provenance.Detect.Comment

open Text Lexis

/-! ## Comments and the code they stand above -/

/-- The comment lines, each with the lines behind it. -/
def commentTails : List Line → List (Line × List Line)
  | [] => []
  | l :: rest => if l.isComment then (l, rest) :: commentTails rest else commentTails rest

/-- The line of code that a comment stands above, given the lines behind the comment: the next line
that is no comment, unless it is blank. -/
def codeBelow? : List Line → Option Line
  | [] => none
  | l :: rest =>
    match l.kind with
    | .code => some l
    | .blank => none
    | .comment => codeBelow? rest

/-- A comment with what a detector needs to know of it. -/
structure Remark where
  line : Line
  /-- Without delimiters. -/
  text : List Char
  code : Option Line

/-- The comments among some lines. -/
def comments (ls : List Line) : List Remark :=
  (commentTails ls).map fun (l, rest) => ⟨l, commentText l.text, codeBelow? rest⟩

/-- The lines that a pattern of some comments covers. -/
def coverage (cs : List Remark) : List Int :=
  cs.flatMap fun c => (c.line.number : Int) :: c.code.toList.map fun l => (l.number : Int)

/-- The confidence of a pattern of `matched` out of `total` comments. -/
def confidence (matched total : Nat) : Checked Int := do
  let share ← countQuotient (60 * matched : Nat) (max total 1 : Nat)
  (Binary64.atMost 90 (30 + share)).nearestInt.mapError .number

/-! ## Templated comments -/

/-- What the comments of a template are described as. -/
def describe (count : Nat) : Template → String
  | .heading head =>
    "Docstring section header '" ++ String.ofList head ++ "' repeated " ++ Nat.repr count ++
      " times"
  | .sentence first words =>
    "Templated comments starting with '" ++ String.ofList first ++ "' (" ++ Nat.repr words ++
      " words) repeated " ++ Nat.repr count ++ " times"

/-- What the comments of a template have in common. -/
def signature : Template → String
  | .heading head => String.ofList head
  | .sentence first words => String.ofList first ++ " ... (" ++ Nat.repr words ++ " words)"

/-- The comments of each template that is repeated often enough. -/
def repeatedTemplates (settings : CommentSettings) (cs : List Remark) :
    List (Template × List Remark) :=
  (group (cs.filterMap fun c =>
    (Template.of? settings.minWords.val c.text).map fun template => (template, c))).filter
      fun entry => decide (settings.minTemplateRepeats.val ≤ entry.2.length)

/-- The pattern of the comments of a template. -/
def templateFinding (confidence : Int) (template : Template) (members : List Remark) :
    Finding where
  kind := .comment
  description := describe members.length template
  confidence := confidence
  signature := signature template
  lines := coverage members

/-- A pattern for each template that is repeated often enough. The more comments follow such a
template, the higher the confidence. -/
def templated (settings : CommentSettings) (cs : List Remark) : Checked (List Finding) :=
  let found := repeatedTemplates settings cs
  let matched := total (found.map fun entry => entry.2.length)
  found.mapM fun (template, members) => do
    return templateFinding (← confidence matched cs.length) template members

/-! ## Restating comments -/

/-- Words that say nothing of the code below. -/
def stopWords : List String := [
  "the", "a", "an", "of", "to", "and", "or", "for", "in", "on", "at", "by", "with", "from", "this",
  "that", "is", "are", "be", "it", "its", "we", "our", "if", "then", "else", "when", "will", "can",
  "should", "into", "as"]

/-- The words of a comment that say something of the code below, without repetition. -/
def tellingWords (text : List Char) : List (List Char) :=
  ((proseWords text).filter fun w =>
    decide (3 ≤ w.length) && !stopWords.contains (String.ofList w)).eraseDups

/-- The words of the names on a line of code. -/
def codeWords (l : Line) : List (List Char) := (names l.text).flatMap wordsOfName

/-- A comment, if it restates the code below it: of two or more telling words at least the given
share are words of the code. -/
def restating? (settings : CommentSettings) (c : Remark) : Checked (Option Remark) :=
  let said := tellingWords c.text
  if said.length < 2 then .ok none
  else match c.code with
  | none => .ok none
  | some l => do
    let repeated := said.filter (codeWords l).contains
    let overlap ← countQuotient repeated.length said.length
    return if settings.restateOverlap.val ≤ overlap then some c else none

/-- The pattern of comments that restate the code below them. -/
def restatingFinding (confidence : Int) (first : Remark) (rest : List Remark) : Finding where
  kind := .comment
  description :=
    Nat.repr (first :: rest).length ++ " comment(s) restate the code line that follows"
  confidence := confidence
  signature := String.ofList first.text
  lines := coverage (first :: rest)

/-- One pattern for all comments that restate the code below them. -/
def restating (settings : CommentSettings) (cs : List Remark) : Checked (List Finding) := do
  match ← cs.filterMapM (restating? settings) with
  | [] => return []
  | first :: rest =>
    return [restatingFinding (← confidence (2 * (first :: rest).length) cs.length) first rest]

/-! ## The detector -/

/-- The patterns in the comments of a file. -/
def detect (settings : CommentSettings) (ls : List Line) : Checked (List Finding) := do
  return (← templated settings (comments ls)) ++ (← restating settings (comments ls))

end Provenance.Detect.Comment
