import Provenance.Json
import Provenance.Settings

/-!
# Settings — Schema

The names of the settings, how their values are read from JSON, and what is wrong with values that
are refused. All refused values are told, not only the first.
-/

namespace Provenance

/-! ## Complaints -/

/-- What is wrong with the value of a setting. -/
inductive Complaint where
  | notAbove
  | below
  | above
  | notAnInteger
  | notANumber
  | integerExpected
  | numberExpected
  | fractionForInteger
  | infiniteForInteger
  | tooLargeForInteger
  | listExpected
  | textExpected
  deriving DecidableEq

/-- The code of a complaint. -/
def Complaint.code : Complaint → String
  | .notAbove => "greater_than"
  | .below => "greater_than_equal"
  | .above => "less_than_equal"
  | .notAnInteger => "int_parsing"
  | .notANumber => "float_parsing"
  | .integerExpected => "int_type"
  | .numberExpected => "float_type"
  | .fractionForInteger => "int_from_float"
  | .infiniteForInteger => "finite_number"
  | .tooLargeForInteger => "int_parsing_size"
  | .listExpected => "list_type"
  | .textExpected => "string_type"

/-- A setting whose value is refused. -/
structure Refusal where
  field : String
  complaint : Complaint
  deriving DecidableEq

/-- A value, or all reasons that stand against it. -/
inductive Verdict (ε α : Type) where
  | accepted (value : α)
  | refused (reasons : List ε)

namespace Verdict

/-- Applies an accepted function to an accepted value; the reasons against both are joined. -/
def apply {ε α β : Type} : Verdict ε (α → β) → Verdict ε α → Verdict ε β
  | .accepted f, .accepted a => .accepted (f a)
  | .accepted _, .refused rs => .refused rs
  | .refused rs, .accepted _ => .refused rs
  | .refused rs, .refused rs' => .refused (rs ++ rs')

instance {ε : Type} : Applicative (Verdict ε) where
  pure := .accepted
  seq f a := apply f (a ())

/-- The verdict on a value that one reason can stand against. -/
def ofExcept {ε α : Type} : Except ε α → Verdict ε α
  | .ok a => .accepted a
  | .error reason => .refused [reason]

/-- The verdict with each reason restated. -/
def mapReasons {ε ε' α : Type} (f : ε → ε') : Verdict ε α → Verdict ε' α
  | .accepted a => .accepted a
  | .refused reasons => .refused (reasons.map f)

/-- The verdict on all items of a list. -/
def all {ε α β : Type} (judge : α → Verdict ε β) : List α → Verdict ε (List β)
  | [] => .accepted []
  | a :: as => List.cons <$> judge a <*> all judge as

end Verdict

/-! ## Values -/

/-- What a number without a fraction has to stay below to count as an integer. -/
def integerEnd : Nat := Nat.pow 2 63

/-- The integer that a value stands for. Text is read as a numeral, and a number without a fraction
counts as an integer unless it is very large. -/
def Json.toInteger : Json → Except Complaint Int
  | .integer n => .ok n
  | .bool b => .ok (if b then 1 else 0)
  | .fraction f =>
    match f.toBinary64.toRat? with
    | none => .error .infiniteForInteger
    | some q =>
      if q.den ≠ 1 then .error .fractionForInteger
      else if q.num.natAbs < integerEnd then .ok q.num
      else .error .tooLargeForInteger
  | .named _ => .error .infiniteForInteger
  | .text s =>
    match Numeral.spacedInteger? s.toList with
    | some n => .ok n
    | none => .error (if Numeral.isTooLong s.toList then .tooLargeForInteger else .notAnInteger)
  | _ => .error .integerExpected

/-- The number that a value stands for. An integer has to be in the range of finite numbers. -/
def Json.toNumber : Json → Except Complaint Binary64
  | .integer n =>
    match Binary64.ofInt n with
    | .infinite _ => .error .numberExpected
    | x => .ok x
  | .bool b => .ok (if b then 1 else 0)
  | .fraction f => .ok f.toBinary64
  | .named x => .ok x
  | .text s =>
    match Numeral.spacedReal? s.toList with
    | some x => .ok x
    | none => .error .notANumber
  | _ => .error .numberExpected

/-- The text that a value is. -/
def Json.toText : Json → Except Complaint String
  | .text s => .ok s
  | _ => .error .textExpected

/-- The texts that a value lists. Each item that is no text is told. -/
def Json.toTexts : Json → Verdict Complaint (List String)
  | .list items => Verdict.all (fun item => .ofExcept item.toText) items
  | _ => .refused [.listExpected]

/-! ## Fields -/

/-- Looks a field up and reads its value; without one the default holds. -/
def readField {α : Type} (values : List (String × Json)) (field : String) (default : α)
    (read : Json → Verdict Complaint α) : Verdict Refusal α :=
  match values.find? fun entry => entry.1 == field with
  | none => .accepted default
  | some (_, value) => (read value).mapReasons fun complaint => ⟨field, complaint⟩

/-- Reads a count. -/
def readCount (bound : Nat) (value : Json) : Verdict Complaint (AtLeast bound) := .ofExcept do
  let n ← value.toInteger
  if h : bound ≤ n.toNat then .ok ⟨n.toNat, h⟩ else .error .below

/-- Reads the edge of a band. -/
def readEdge (value : Json) : Verdict Complaint BandEdge := .ofExcept do
  let n ← value.toInteger
  if h : n.toNat ≤ 100 then
    if n < 0 then .error .below else .ok ⟨n.toNat, h⟩
  else .error .above

/-- Reads a number above zero. -/
def readAboveZero (value : Json) : Verdict Complaint AboveZero := .ofExcept do
  let x ← value.toNumber
  if h : 0 < x then .ok ⟨x, h⟩ else .error .notAbove

/-- Reads a share that is not zero. -/
def readPositiveShare (value : Json) : Verdict Complaint PositiveShare := .ofExcept do
  let x ← value.toNumber
  if h : x ≤ 1 then
    if h' : 0 < x then .ok ⟨x, h, h'⟩ else .error .notAbove
  else .error .above

/-- Reads a share. -/
def readShare (value : Json) : Verdict Complaint Share := .ofExcept do
  let x ← value.toNumber
  if h : x ≤ 1 then
    if h' : 0 ≤ x then .ok ⟨x, h, h'⟩ else .error .below
  else .error .above

/-! ## Settings -/

/-- The settings that hold lists of texts. -/
def listFields : List String := ["include_extensions", "exclude_patterns"]

/-- The names of all settings. -/
def settingNames : List String := [
  "comment_min_template_repeats", "comment_min_words", "comment_restate_overlap",
  "structure_min_repeats", "structure_window", "structure_min_tokens", "structure_block_lines",
  "structure_min_block_repeats", "naming_min_matches", "naming_block_lines",
  "naming_min_identifiers", "naming_min_contrast", "naming_verbose_fraction",
  "complexity_block_lines", "complexity_min_block_lines", "complexity_max_cv",
  "complexity_max_line_length", "complexity_max_depth", "complexity_min_shape",
  "include_extensions", "exclude_patterns", "max_file_size", "workers", "high_band",
  "medium_band"]

/-- The settings that named values make up. Values that no setting is named for are passed over. -/
def Settings.ofValues (values : List (String × Json)) : Verdict Refusal Settings :=
  let d := Settings.standard
  let comment := CommentSettings.mk
    <$> readField values "comment_min_template_repeats" d.comment.minTemplateRepeats (readCount 2)
    <*> readField values "comment_min_words" d.comment.minWords (readCount 1)
    <*> readField values "comment_restate_overlap" d.comment.restateOverlap readPositiveShare
  let structural := StructureSettings.mk
    <$> readField values "structure_min_repeats" d.structural.minRepeats (readCount 2)
    <*> readField values "structure_window" d.structural.window (readCount 2)
    <*> readField values "structure_min_tokens" d.structural.minTokens (readCount 1)
    <*> readField values "structure_block_lines" d.structural.blockLines (readCount 2)
    <*> readField values "structure_min_block_repeats" d.structural.minBlockRepeats (readCount 2)
  let naming := NamingSettings.mk
    <$> readField values "naming_min_matches" d.naming.minMatches (readCount 1)
    <*> readField values "naming_block_lines" d.naming.blockLines (readCount 4)
    <*> readField values "naming_min_identifiers" d.naming.minNames (readCount 2)
    <*> readField values "naming_min_contrast" d.naming.minContrast readShare
    <*> readField values "naming_verbose_fraction" d.naming.verboseFraction readPositiveShare
  let complexity := ComplexitySettings.mk
    <$> readField values "complexity_block_lines" d.complexity.blockLines (readCount 4)
    <*> readField values "complexity_min_block_lines" d.complexity.minBlockLines (readCount 4)
    <*> readField values "complexity_max_cv" d.complexity.maxVariation readAboveZero
    <*> readField values "complexity_max_line_length" d.complexity.maxLineLength (readCount 20)
    <*> readField values "complexity_max_depth" d.complexity.maxDepth (readCount 1)
    <*> readField values "complexity_min_shape" d.complexity.minShape readPositiveShare
  let discovery := DiscoverySettings.mk
    <$> readField values "include_extensions" d.discovery.includeExtensions Json.toTexts
    <*> readField values "exclude_patterns" d.discovery.excludePatterns Json.toTexts
    <*> readField values "max_file_size" d.discovery.maxFileSize (readCount 1)
    <*> readField values "workers" d.discovery.workers (readCount 1)
  let bands := BandSettings.mk
    <$> readField values "high_band" d.bands.high readEdge
    <*> readField values "medium_band" d.bands.medium readEdge
  Settings.mk <$> comment <*> structural <*> naming <*> complexity <*> discovery <*> bands

/-- The value of a setting. -/
inductive SettingValue where
  | count (n : Nat)
  | number (x : Binary64)
  | texts (ts : List String)

/-- All settings by name. -/
def Settings.toValues (s : Settings) : List (String × SettingValue) := [
  ("comment_min_template_repeats", .count s.comment.minTemplateRepeats),
  ("comment_min_words", .count s.comment.minWords),
  ("comment_restate_overlap", .number s.comment.restateOverlap),
  ("structure_min_repeats", .count s.structural.minRepeats),
  ("structure_window", .count s.structural.window),
  ("structure_min_tokens", .count s.structural.minTokens),
  ("structure_block_lines", .count s.structural.blockLines),
  ("structure_min_block_repeats", .count s.structural.minBlockRepeats),
  ("naming_min_matches", .count s.naming.minMatches),
  ("naming_block_lines", .count s.naming.blockLines),
  ("naming_min_identifiers", .count s.naming.minNames),
  ("naming_min_contrast", .number s.naming.minContrast),
  ("naming_verbose_fraction", .number s.naming.verboseFraction),
  ("complexity_block_lines", .count s.complexity.blockLines),
  ("complexity_min_block_lines", .count s.complexity.minBlockLines),
  ("complexity_max_cv", .number s.complexity.maxVariation),
  ("complexity_max_line_length", .count s.complexity.maxLineLength),
  ("complexity_max_depth", .count s.complexity.maxDepth),
  ("complexity_min_shape", .number s.complexity.minShape),
  ("include_extensions", .texts s.discovery.includeExtensions),
  ("exclude_patterns", .texts s.discovery.excludePatterns),
  ("max_file_size", .count s.discovery.maxFileSize),
  ("workers", .count s.discovery.workers),
  ("high_band", .count s.bands.high),
  ("medium_band", .count s.bands.medium)]

end Provenance
