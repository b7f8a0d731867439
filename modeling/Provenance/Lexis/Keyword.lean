/-!
# Lexis — Keyword

The words that name no thing of a program: keywords and built-in names of common languages.
-/

namespace Provenance.Lexis

/-- The keywords, in lower case. -/
def keywords : List String := [
  "if", "else", "elif", "for", "while", "do", "return", "break", "continue", "switch", "case",
  "default", "try", "catch", "except", "finally", "raise", "throw", "throws", "new", "delete",
  "def", "function", "fn", "func", "class", "struct", "enum", "interface", "trait", "impl",
  "public", "private", "protected", "static", "final", "const", "let", "var", "val", "import",
  "from", "export", "package", "using", "namespace", "as", "in", "is", "not", "and", "or", "true",
  "false", "null", "none", "nil", "self", "this", "super", "void", "async", "await", "yield",
  "lambda", "with", "pass", "type", "extends", "implements", "int", "float", "double", "bool",
  "boolean", "string", "char", "long", "short", "unsigned", "byte", "end", "then", "local",
  "elseif", "of", "typeof", "instanceof", "match", "mut", "pub", "use", "mod", "where", "go",
  "defer", "chan", "select", "range", "print", "println"]

/-- Whether a word is a keyword in any letter case. -/
def isKeyword (word : List Char) : Bool := keywords.contains (String.ofList (word.map Char.toLower))

end Provenance.Lexis
