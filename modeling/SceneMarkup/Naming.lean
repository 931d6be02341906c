import SceneMarkup.Text
import SceneMarkup.Unicode.Alphanumeric

namespace SceneMarkup.Naming

def reservedWords : List String := [
  "do", "if", "in", "for", "let", "new", "try", "var", "case", "else", "enum", "eval", "null",
  "this", "true", "void", "with", "await", "break", "catch", "class", "const", "false", "super",
  "throw", "while", "yield", "delete", "export", "import", "public", "return", "static",
  "switch", "typeof", "default", "extends", "finally", "package", "private", "continue",
  "debugger", "function", "arguments", "interface", "protected", "implements", "instanceof"]

def startsIdentifier (c : Char) : Bool :=
  c == '$' || c == '_' || Unicode.isAlphabetic c

def continuesIdentifier (c : Char) : Bool :=
  startsIdentifier c || Unicode.isNumeral c || c == '\u200c' || c == '\u200d'

def hasIdentifierShape : List Char → Bool
  | [] => false
  | c :: rest => startsIdentifier c && rest.all continuesIdentifier

def isBareIdentifier (name : String) : Bool :=
  hasIdentifierShape name.toList && !reservedWords.contains name

def propertySuffix (name : String) : String :=
  if isBareIdentifier name then "." ++ name else "[" ++ Text.quote name ++ "]"

def propertyAccess (base name : String) : String := base ++ propertySuffix name

def accessPath (base : String) (names : List String) : String :=
  names.foldl propertyAccess base

def objectKey (name : String) : String :=
  if isBareIdentifier name then name else Text.quote name

def suffixed (base : String) (k : Nat) : String := base ++ toString k

/--
The base if it is free, else the base with the least free suffix from one on. The taken names,
one of which is the base itself, cannot cover more suffixes than there are of them.
-/
def unique (base : String) (taken : List String) : String :=
  if taken.contains base then
    let free k := !taken.contains (suffixed base k)
    suffixed base (((List.range' 1 taken.length).find? free).getD (taken.length + 1))
  else base

def uniqueAll (taken : List String) : List String → List String
  | [] => []
  | base :: rest =>
    let name := unique base taken
    name :: uniqueAll (name :: taken) rest

def fallbackDisplayName : String := "Part"

def displayChars (source : List Char) : List Char :=
  match source.filter Char.isAlpha with
  | [] => fallbackDisplayName.toList
  | c :: rest => c.toUpper :: rest

def displayBase (source : String) : String := String.ofList (displayChars source.toList)

end SceneMarkup.Naming
