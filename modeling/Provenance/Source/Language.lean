import Provenance.Path
import Provenance.Text.Case

/-!
# Source — Language

Families of languages by the way they delimit comments, and the family of a file by its suffix.
-/

namespace Provenance

/-! ## Comment syntax -/

/-- The delimiters of a block comment. -/
structure BlockDelimiters where
  opener : List Char
  closer : List Char
  opener_ne : opener ≠ [] := by decide
  closer_ne : closer ≠ [] := by decide

/-- How comments are delimited. -/
structure CommentSyntax where
  /-- What begins a comment that ends with its line. -/
  line : List (List Char)
  block : List BlockDelimiters

/-- A family of languages with one comment syntax. -/
inductive Language where
  | cStyle
  | python
  | hash
  | ruby
  | sql
  | lua
  | markup
  | css
  | php
  /-- Text without comments. -/
  | text
  deriving DecidableEq

namespace Language

/-- The block comments of C. -/
def slashStar : BlockDelimiters := ⟨['/', '*'], ['*', '/'], by decide, by decide⟩

/-- The comment syntax of a family. -/
def syntaxOf : Language → CommentSyntax
  | .cStyle => ⟨[['/', '/']], [slashStar]⟩
  | .python => ⟨[['#']],
      [⟨['"', '"', '"'], ['"', '"', '"'], by decide, by decide⟩,
        ⟨['\'', '\'', '\''], ['\'', '\'', '\''], by decide, by decide⟩]⟩
  | .hash => ⟨[['#']], []⟩
  | .ruby => ⟨[['#']],
      [⟨['=', 'b', 'e', 'g', 'i', 'n'], ['=', 'e', 'n', 'd'], by decide, by decide⟩]⟩
  | .sql => ⟨[['-', '-']], [slashStar]⟩
  | .lua => ⟨[['-', '-']], [⟨['-', '-', '[', '['], [']', ']'], by decide, by decide⟩]⟩
  | .markup => ⟨[], [⟨['<', '!', '-', '-'], ['-', '-', '>'], by decide, by decide⟩]⟩
  | .css => ⟨[], [slashStar]⟩
  | .php => ⟨[['/', '/'], ['#']], [slashStar]⟩
  | .text => ⟨[], []⟩

/-! ## Names -/

/-- The name of a family. -/
def name : Language → String
  | .cStyle => "c"
  | .python => "python"
  | .hash => "hash"
  | .ruby => "ruby"
  | .sql => "sql"
  | .lua => "lua"
  | .markup => "markup"
  | .css => "css"
  | .php => "php"
  | .text => "text"

/-- All families. -/
def all : List Language :=
  [.cStyle, .python, .hash, .ruby, .sql, .lua, .markup, .css, .php, .text]

/-- The family of a name; what names none is text. -/
def ofName (s : String) : Language := (all.find? fun l => l.name == s).getD .text

/-- A family is found by its name. -/
theorem ofName_name (l : Language) : ofName l.name = l := by cases l <;> decide

/-! ## Files -/

/-- The suffixes of each family, in lower case. -/
def suffixes : List (Language × List String) := [
  (.python, [".py", ".pyi"]),
  (.cStyle, [".js", ".jsx", ".mjs", ".cjs", ".ts", ".tsx", ".java", ".c", ".cc", ".cpp", ".h",
    ".hpp", ".cs", ".go", ".rs", ".swift", ".kt", ".scala", ".dart", ".scss", ".less"]),
  (.hash, [".sh", ".bash", ".zsh", ".r", ".pl", ".yaml", ".yml", ".toml"]),
  (.ruby, [".rb"]),
  (.sql, [".sql", ".hs"]),
  (.lua, [".lua"]),
  (.markup, [".html", ".htm", ".xml", ".vue", ".svg"]),
  (.css, [".css"]),
  (.php, [".php"])]

/-- The family of a file, by its suffix in any letter case. -/
def ofPath (path : String) : Language :=
  let suffix := String.ofList (Text.lower (Path.ofString path).suffix)
  match suffixes.find? fun entry => entry.2.contains suffix with
  | some (l, _) => l
  | none => .text

end Language

end Provenance
