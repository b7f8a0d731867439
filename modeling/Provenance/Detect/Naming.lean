import Provenance.Grouping
import Provenance.Lexis.Name
import Provenance.Number.Decimal
import Provenance.Pattern
import Provenance.Settings
import Provenance.Source.Line

/-!
# Detect — Naming

Three signals in names. Placeholder names are stock words such as foo, and names that differ only in
the number at their end. Boilerplate names begin with a stock verb and have at least three words. A
uniform island is a block whose names follow one convention while the rest of the file has another.
-/

namespace Provenance.Detect.Naming

open Text Lexis

/-- A name and the line it stands on. -/
structure Use where
  name : List Char
  line : Nat
  deriving DecidableEq

/-- The names of some lines of code. -/
def uses (code : List Line) : List Use :=
  code.flatMap fun l => (names l.text).map fun name => ⟨name, l.number⟩

/-- The confidence that a share of names gives, on top of a base. -/
def confidence (base : Int) (share : Binary64) : Checked Int :=
  (Binary64.atMost 90 (Binary64.ofInt base + 200 * share)).nearestInt.mapError .number

/-- The first names of a list in order, as a pattern shows them. -/
def listed (ns : List (List Char)) : String :=
  ", ".intercalate (((ns.map String.ofList).mergeSort (fun a b => decide (a ≤ b))).take 8)

/-! ## Placeholder names -/

/-- Stock words that stand by themselves. -/
def stockWords : List String := ["foo", "bar", "baz", "qux", "quux", "stuff"]

/-- Stock words that a number may follow. -/
def countedWords : List String := ["tmp", "temp", "thing"]

/-- Stock words that anything may follow. -/
def openWords : List String := ["dummy", "placeholder", "example", "sample"]

/-- Possessive words that another word follows. -/
def possessives : List String := ["my", "some", "your"]

/-- What follows a word at the start of a name. -/
def behind? (word : String) (name : List Char) : Option (List Char) :=
  if word.toList.isPrefixOf name then some (name.drop word.length) else none

/-- Whether a text continues a name with another word. -/
def continuesName : List Char → Bool
  | '_' :: _ :: _ => true
  | c :: _ => c.isUpper
  | [] => false

/-- Whether a name is a stock placeholder. -/
def isPlaceholder (name : List Char) : Bool :=
  stockWords.contains (String.ofList name) ||
    countedWords.any (fun w => (behind? w name).any fun rest => rest.all Char.isDigit) ||
    openWords.any (fun w => (behind? w name).isSome) ||
    possessives.any (fun w => (behind? w name).any continuesName)

/-- The stem and the number of a name that ends with a number. A low line between them belongs to
neither; the stem ends with a letter and has no digit. -/
def numbered? (name : List Char) : Option (List Char × List Char) :=
  let digits := (name.reverse.takeWhile Char.isDigit).reverse
  let front := name.reverse.dropWhile Char.isDigit
  let stem := match front with
    | '_' :: rest => rest
    | rest => rest
  match stem with
  | [] => none
  | last :: _ =>
    if digits ≠ [] ∧ last.isAlpha ∧ stem.all (fun c => c.isAlpha || c == '_') then
      some (stem.reverse, digits)
    else none

/-- The stems that occur with more than one number. -/
def sequentialStems (us : List Use) : List (List Char) :=
  (group ((us.filterMap fun u => numbered? u.name).eraseDups)).filterMap fun (stem, numbers) =>
    if 2 ≤ numbers.length then some stem else none

/-- The uses of placeholder names. -/
def placeholderUses (us : List Use) : List Use :=
  let stems := sequentialStems us
  us.filter fun u =>
    isPlaceholder u.name || (numbered? u.name).any fun n => stems.contains n.1

/-- The pattern of some uses of placeholder names. -/
def placeholderFinding (confidence : Int) (found : List Use) : Finding :=
  let distinct := (found.map Use.name).eraseDups
  { kind := .naming
    description := "Placeholder or sequential identifiers (" ++ Nat.repr distinct.length ++
      " distinct names)"
    confidence := confidence
    signature := listed distinct
    lines := found.map fun u => (u.line : Int) }

/-- One pattern for all placeholder names of a file. -/
def placeholders (settings : NamingSettings) (us : List Use) : Checked (List Finding) := do
  let found := placeholderUses us
  if found.length < settings.minMatches.val then return []
  let share ← countQuotient found.length us.length
  return [placeholderFinding (← confidence 30 share) found]

/-! ## Boilerplate names -/

/-- Verbs that boilerplate names begin with. -/
def stockVerbs : List String := [
  "handle", "on", "get", "set", "fetch", "update", "create", "delete", "parse", "format", "process",
  "validate", "render", "initialize"]

/-- Whether a name begins with a stock verb and has at least three words. -/
def isBoilerplate (name : List Char) : Bool :=
  match wordsOfName name with
  | verb :: _ :: _ :: _ => stockVerbs.contains (String.ofList verb)
  | _ => false

/-- The pattern of the boilerplate names among some uses. -/
def boilerplateFinding (confidence : Int) (share : Binary64) (us : List Use)
    (found : List (List Char)) : Finding where
  kind := .naming
  description := "Boilerplate verb-prefixed names make up " ++ (share * 100).toFixed 0 ++
    "% of identifiers"
  confidence := confidence
  signature := listed found
  lines := (us.filter fun u => isBoilerplate u.name).map fun u => (u.line : Int)

/-- One pattern for all boilerplate names, if they are a large enough share of the names. -/
def boilerplate (settings : NamingSettings) (us : List Use) : Checked (List Finding) := do
  let distinct := (us.map Use.name).eraseDups
  let found := distinct.filter isBoilerplate
  if found.length < settings.minMatches.val then return []
  let share ← countQuotient found.length distinct.length
  if share < settings.verboseFraction.val then return []
  return [boilerplateFinding (← confidence 35 (share - settings.verboseFraction.val)) share us found]

/-! ## Uniform islands -/

/-- How many names follow each of the two conventions that are weighed against each other. -/
structure Tally where
  snake : Nat
  camel : Nat
  deriving DecidableEq

namespace Tally

def total (t : Tally) : Nat := t.snake + t.camel

def add (t u : Tally) : Tally := ⟨t.snake + u.snake, t.camel + u.camel⟩

def sum (ts : List Tally) : Tally := ts.foldr add ⟨0, 0⟩

/-- The count of one convention. -/
def count (t : Tally) : Convention → Nat
  | .snakeCase => t.snake
  | .camelCase => t.camel
  | _ => 0

/-- The convention that all counted names follow. -/
def only? (t : Tally) : Option Convention :=
  if t.snake ≠ 0 ∧ t.camel = 0 then some .snakeCase
  else if t.snake = 0 ∧ t.camel ≠ 0 then some .camelCase
  else none

/-- The tally of some names. -/
def ofNames (ns : List (List Char)) : Tally :=
  ⟨ns.countP fun n => Convention.ofName n == .snakeCase,
    ns.countP fun n => Convention.ofName n == .camelCase⟩

/-- The tally of a block; a name counts once a line. -/
def ofBlock (block : List Line) : Tally :=
  sum (block.map fun l => ofNames (names l.text).eraseDups)

end Tally

/-- The share of the names outside a block that follow another convention than the block does. -/
def contrast (convention : Convention) (rest : Tally) : Checked Binary64 := do
  return 1 - (← countQuotient (rest.count convention) rest.total)

/-- The confidence that a contrast gives. -/
def islandConfidence (contrast : Binary64) : Checked Int :=
  (Binary64.atMost 85 (35 + 50 * contrast)).nearestInt.mapError .number

/-- The pattern of a block whose names follow one convention. -/
def islandFinding (confidence : Int) (convention : Convention) (block : List Line) : Finding where
  kind := .naming
  description := "Block uses only " ++ convention.text ++
    " names while the rest of the file mixes conventions"
  confidence := confidence
  signature := convention.text
  lines := block.map fun l => (l.number : Int)

/-- The pattern of a block, given the tally of the rest of the file. -/
def island? (settings : NamingSettings) (block : List Line) (rest : Tally) :
    Checked (Option Finding) := do
  let own := Tally.ofBlock block
  match own.only? with
  | none => return none
  | some convention =>
    if own.total < settings.minNames.val ∨ rest.total = 0 then return none
    let contrast ← contrast convention rest
    if contrast < settings.minContrast.val then return none
    return some (islandFinding (← islandConfidence contrast) convention block)

/-- A pattern for each block that stands out by its convention. -/
def islands (settings : NamingSettings) (code : List Line) : Checked (List Finding) :=
  if code.length < settings.blockLines.val * 2 then .ok []
  else
    let blocks := chunks settings.blockLines.val code
    let tallies := blocks.map Tally.ofBlock
    blocks.zipIdx.filterMapM fun (block, i) =>
      island? settings block (Tally.sum (tallies.eraseIdx i))

/-! ## The detector -/

/-- The patterns in the names of a file. -/
def detect (settings : NamingSettings) (ls : List Line) : Checked (List Finding) := do
  let code := codeLines ls
  let us := uses code
  if us = [] then return []
  return (← placeholders settings us) ++ (← boilerplate settings us) ++ (← islands settings code)

end Provenance.Detect.Naming
