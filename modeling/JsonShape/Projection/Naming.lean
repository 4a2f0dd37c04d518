import JsonShape.Text.Numeric
import JsonShape.Text.Uppercase
import JsonShape.Text.Lowercase
import JsonShape.Text.CaseMapping

/-!
# Names of fields and types

Any string can name a field of a JSON object, but a declaration wants identifiers.  The string is split
into words, which are joined in snake case for a field and in camel case for a type.

* `words` splits at everything that is neither letter nor number, and before a capital that follows a
  small letter or an ASCII digit; the words are in lower case.
* `fieldIdent` and `typeIdent` make identifiers of them.
-/

namespace JsonShape

/-- Puts a word before others, unless it is empty. -/
def addWord : List Char × List (List Char) → List (List Char)
  | ([], others) => others
  | (word, others) => word :: others

/-- What a text adds to the word before it, and the words after that; a capital at the front starts a
word if the word before it ends in a small letter or a digit. -/
def wordsFrom (small : Bool) : List Char → List Char × List (List Char)
  | [] => ([], [])
  | c :: rest =>
    if isAlphanumeric c then
      let (word, others) := wordsFrom (isLowercase c || c.isDigit) rest
      if isUppercase c && small then ([], addWord (lowercase c ++ word, others))
      else (lowercase c ++ word, others)
    else ([], addWord (wordsFrom false rest))

/-- The words of a string, in lower case. -/
def words (raw : List Char) : List (List Char) := addWord (wordsFrom false raw)

/-- The words that are no identifiers in the declarations, unless they are written as raw ones. -/
def keywords : List String :=
  ["as", "async", "await", "break", "const", "continue", "crate", "dyn", "else", "enum", "extern",
   "false", "fn", "for", "gen", "if", "impl", "in", "let", "loop", "match", "mod", "move", "mut",
   "pub", "ref", "return", "static", "struct", "trait", "true", "type", "unsafe", "use", "where",
   "while", "abstract", "become", "box", "do", "final", "macro", "override", "priv", "try",
   "typeof", "unsized", "virtual", "yield"]

/-- The words that cannot even be raw identifiers. -/
def pathKeywords : List String := ["self", "super", "crate", "Self"]

/-- The mark in front of a raw identifier. -/
def rawMark : String := "r#"

/-- Puts an underscore in front of a digit. -/
def underscoreDigit : List Char → List Char
  | [] => []
  | c :: rest => if c.isDigit then '_' :: c :: rest else c :: rest

/-- The words of a string in snake case, fit to begin an identifier. -/
def snakeCase (raw : String) : String :=
  let joined := List.intercalate ['_'] (words raw.toList)
  String.ofList (if joined.isEmpty then ['f', 'i', 'e', 'l', 'd'] else underscoreDigit joined)

/-- The identifier of a field. -/
def fieldIdent (raw : String) : String :=
  let ident := snakeCase raw
  if ident ∈ pathKeywords then ident ++ "_"
  else if ident ∈ keywords then rawMark ++ ident
  else ident

/-- A word with its first character in upper case. -/
def capitalized : List Char → List Char
  | [] => []
  | c :: rest => uppercase c ++ rest

/-- Puts a letter in front of a digit or of nothing. -/
def letterFirst : List Char → List Char
  | [] => ['T']
  | c :: rest => if c.isDigit then 'T' :: c :: rest else c :: rest

/-- The identifier of a type. -/
def typeIdent (raw : String) : String :=
  String.ofList (letterFirst ((words raw.toList).flatMap capitalized))

/-- An identifier without the mark of a raw one, even if the mark is repeated. -/
def unmarked (ident : String) : String :=
  String.ofList (go ident.toList)
where
  go : List Char → List Char
    | 'r' :: '#' :: rest => go rest
    | rest => rest

end JsonShape
