import Provenance.Text.Blank
import Provenance.Text.Segment

/-!
# Settings — Dotenv

Files of variable assignments: one `NAME=value` a line, with comments behind a hash sign, an
optional `export` in front, and values in single quotes, in double quotes or bare. A line that is no
assignment is passed over. A value can refer to a variable that is already known as `${NAME}`, with
a default behind `:-`. A name by itself unsets its variable.
-/

namespace Provenance.Dotenv

open Text

/-! ## Characters -/

/-- Whether a character ends a line of an assignment file. -/
def endsLine (c : Char) : Bool := c == '\n' || c == '\r'

/-- Whether a character is blank and does not end a line. -/
def isGap (c : Char) : Bool := isBlank c && !endsLine c

/-- Whether a character can stand in a bare name. -/
def isBareName (c : Char) : Bool := !isBlank c && c != '=' && c != '#'

/-! ## Values -/

/-- The interior of a quoted value behind its opening quote, and what follows the closing one. A
character behind a backslash does not close the value. -/
def closeValue? (quote : Char) : List Char → Option (List Char × List Char)
  | [] => none
  | '\\' :: c :: cs =>
    (closeValue? quote cs).map fun (interior, after) => ('\\' :: c :: interior, after)
  | c :: cs =>
    if c = quote then some ([], cs)
    else (closeValue? quote cs).map fun (interior, after) => (c :: interior, after)

/-- The character that a letter behind a backslash stands for in double quotes. -/
def escape? (c : Char) : Option Char :=
  match c with
  | '\\' => some '\\'
  | '\'' => some '\''
  | '"' => some '"'
  | 'a' => some '\x07'
  | 'b' => some '\x08'
  | 'f' => some '\x0c'
  | 'n' => some '\n'
  | 'r' => some '\r'
  | 't' => some '\t'
  | 'v' => some '\x0b'
  | _ => none

/-- The escapes of single quotes: the backslash and the quote. -/
def singleEscape? (c : Char) : Option Char := if c = '\\' ∨ c = '\'' then some c else none

/-- A text with its escapes replaced; a backslash in front of anything else stays. -/
def unescape (meaning : Char → Option Char) : List Char → List Char
  | '\\' :: c :: cs =>
    match meaning c with
    | some d => d :: unescape meaning cs
    | none => '\\' :: unescape meaning (c :: cs)
  | c :: cs => c :: unescape meaning cs
  | [] => []

/-- A bare value up to the comment behind it, which begins with a blank and a hash sign. -/
def withoutComment : List Char → List Char
  | [] => []
  | c :: cs =>
    if isBlank c && (cs.dropWhile isBlank).head? == some '#' then [] else c :: withoutComment cs

/-- The value behind an equals sign and what follows it. A quote that is not closed is no value. A
gap in front of a hash sign makes a comment of it also where the value is empty. -/
def value? (cs : List Char) : Option (List Char × List Char) :=
  match cs.dropWhile isGap with
  | '\'' :: quoted =>
    (closeValue? '\'' quoted).map fun (interior, after) => (unescape singleEscape? interior, after)
  | '"' :: quoted =>
    (closeValue? '"' quoted).map fun (interior, after) => (unescape escape? interior, after)
  | _ =>
    let part := cs.takeWhile fun c => !endsLine c
    some (strip (withoutComment part), cs.dropWhile fun c => !endsLine c)

/-! ## Assignments -/

/-- What follows the word `export` and the gap behind it, if they are there. -/
def dropExport : List Char → List Char
  | 'e' :: 'x' :: 'p' :: 'o' :: 'r' :: 't' :: c :: cs =>
    if isGap c then cs.dropWhile isGap else 'e' :: 'x' :: 'p' :: 'o' :: 'r' :: 't' :: c :: cs
  | cs => cs

/-- The name at the start of a text, if one can stand there, and what follows it. A comment has no
name. -/
def name? : List Char → Option (Option (List Char) × List Char)
  | '#' :: cs => some (none, '#' :: cs)
  | '\'' :: cs =>
    match cs.takeWhile (· != '\''), cs.dropWhile (· != '\'') with
    | [], _ => none
    | _, [] => none
    | name, _ :: after => some (some name, after)
  | cs =>
    match cs.takeWhile isBareName with
    | [] => none
    | name => some (some name, cs.dropWhile isBareName)

/-- What follows the comment at the head of a text, if there is one. -/
def dropComment (cs : List Char) : List Char :=
  match cs.dropWhile isGap with
  | '#' :: comment => comment.dropWhile fun c => !endsLine c
  | _ => cs

/-- What follows the end of a line, with an optional comment in front of it. -/
def lineEnd? (cs : List Char) : Option (List Char) :=
  match (dropComment cs).dropWhile isGap with
  | [] => some []
  | '\r' :: '\n' :: rest => some rest
  | c :: rest => if endsLine c then some rest else none

/-- What follows the line that a text begins in. -/
def skipLine (cs : List Char) : List Char :=
  match cs.dropWhile fun c => !endsLine c with
  | [] => []
  | _ :: rest => rest

/-- A line that names a variable. -/
structure Assignment where
  name : List Char
  /-- What the variable is set to; a name without an equals sign unsets it. -/
  value : Option (List Char)
  deriving DecidableEq

/-- One line: the assignment on it, if it is one, and what follows it. -/
def readLine (cs : List Char) : Option Assignment × List Char :=
  let start := dropExport cs
  match name? start with
  | none => (none, skipLine start)
  | some (name, rest) =>
    match rest.dropWhile isGap with
    | '=' :: rest =>
      match value? rest with
      | none => (none, skipLine rest)
      | some (value, behind) => finish name (some value) behind
    | behind => finish name none behind
where
  /-- The assignment of a value that the end of the line follows. -/
  finish (name value : Option (List Char)) (behind : List Char) : Option Assignment × List Char :=
    match lineEnd? behind with
    | some after => (name.map fun name => ⟨name, value⟩, after)
    | none => (none, skipLine behind)

/-- The assignments of a text, in order. The fuel bounds the count of its lines. -/
def readLines : Nat → List Char → List Assignment
  | 0, _ => []
  | fuel + 1, cs =>
    match cs.dropWhile isBlank with
    | [] => []
    | start =>
      match readLine start with
      | (some assignment, rest) => assignment :: readLines fuel rest
      | (none, rest) => readLines fuel rest

/-! ## References -/

/-- Variables by name, each with its value unless it is unset. -/
abbrev Variables := List (String × Option String)

/-- Variables with one of them set or unset. A variable that is there already keeps its place. -/
def assign (name : String) (value : Option String) : Variables → Variables
  | [] => [(name, value)]
  | (n, v) :: rest =>
    if n = name then (name, value) :: rest else (n, v) :: assign name value rest

/-- The value of a variable, the last one of its name. A variable that is unset is empty, and one
that is not there has none. -/
def lookUp? (known : Variables) (name : List Char) : Option (List Char) :=
  (known.reverse.find? fun entry => entry.1 == String.ofList name).map fun entry =>
    (entry.2.getD "").toList

/-- What a reference stands for whose opening brace has been read, and what follows it. -/
def reference? (known : Variables) (cs : List Char) : Option (List Char × List Char) :=
  let name := cs.takeWhile fun c => c != '\x7d' && c != ':'
  match cs.drop name.length with
  | '\x7d' :: after => some ((lookUp? known name).getD [], after)
  | ':' :: '-' :: rest =>
    let default := rest.takeWhile (· != '\x7d')
    match rest.drop default.length with
    | '\x7d' :: after => some ((lookUp? known name).getD default, after)
    | _ => none
  | _ => none

/-- A value with its references replaced. The fuel bounds the length of the value. -/
def expand (known : Variables) : Nat → List Char → List Char
  | 0, cs => cs
  | _, [] => []
  | fuel + 1, '$' :: '\x7b' :: cs =>
    match reference? known cs with
    | some (meaning, after) => meaning ++ expand known fuel after
    | none => '$' :: expand known fuel ('\x7b' :: cs)
  | fuel + 1, c :: cs => c :: expand known fuel cs

/-- A text without the byte order mark in front of it. -/
def withoutMark : List Char → List Char
  | '\ufeff' :: cs => cs
  | cs => cs

/-- The variables that the text of an assignment file sets. References see the variables of the
environment and those set on earlier lines, which win. -/
def read (environment : Variables) (text : String) : Variables :=
  let cs := withoutMark text.toList
  (readLines (cs.length + 1) cs).foldl (fun set a =>
    let value := a.value.map fun value =>
      String.ofList (expand (environment ++ set) value.length value)
    assign (String.ofList a.name) value set) []

end Provenance.Dotenv
