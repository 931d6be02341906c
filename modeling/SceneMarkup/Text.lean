import SceneMarkup.Unicode.Printing

namespace SceneMarkup.Text

def closeLine : List Char → List Char
  | '\r' :: line => line.reverse
  | line => line.reverse

/-- The lines of a text whose current line already holds `line`, given backwards. -/
def linesFrom (line : List Char) : List Char → List (List Char)
  | [] => if line.isEmpty then [] else [line.reverse]
  | '\n' :: rest => closeLine line :: linesFrom [] rest
  | c :: rest => linesFrom (c :: line) rest

def lines (text : List Char) : List (List Char) := linesFrom [] text

def padding (depth : Nat) : List Char := List.replicate (2 * depth) ' '

def indentLine (depth : Nat) : List Char → List Char
  | [] => ['\n']
  | line => padding depth ++ line ++ ['\n']

/-- Every line moved right by `depth` levels and ended by a line feed; an empty line stays empty. -/
def indentChars (depth : Nat) (text : List Char) : List Char :=
  (lines text).flatMap (indentLine depth)

def indent (depth : Nat) (text : String) : String :=
  String.ofList (indentChars depth text.toList)

def pad (depth : Nat) : String := String.ofList (padding depth)

def braced (text : String) : String := "\x7b" ++ text ++ "\x7d"

def escapeChar : Char → List Char
  | '\\' => ['\\', '\\']
  | '\x27' => ['\\', '\x27']
  | '\n' => ['\\', 'n']
  | '\r' => ['\\', 'r']
  | c => [c]

def quoteChars (text : List Char) : List Char :=
  '\x27' :: (text.flatMap escapeChar ++ ['\x27'])

def quote (text : String) : String := String.ofList (quoteChars text.toList)

def shield : List Char → List Char
  | '*' :: '/' :: rest => '*' :: '\\' :: '/' :: shield rest
  | c :: rest => c :: shield rest
  | [] => []

def commentLine (line : List Char) : List Char := [' ', '*', ' '] ++ shield line ++ ['\n']

def commentChars (text : List Char) : List Char :=
  ['/', '*', '\n'] ++ (lines text).flatMap commentLine ++ [' ', '*', '/', '\n']

def comment (text : String) : String := String.ofList (commentChars text.toList)

def hexDigits (n : Nat) : String := String.ofList (Nat.toDigits 16 n)

/-- The halfwidth sound marks extend graphemes, but take a place of their own. -/
def isSoundMark (c : Char) : Bool := c == '\uff9e' || c == '\uff9f'

def isHidden (c : Char) : Bool :=
  Unicode.isUnprintable c || Unicode.extendsGrapheme c && !isSoundMark c

def diagnosticChar (c : Char) : String :=
  match c with
  | '"' => "\\\""
  | '\\' => "\\\\"
  | '\n' => "\\n"
  | '\r' => "\\r"
  | '\t' => "\\t"
  | '\x00' => "\\0"
  | c =>
    if isHidden c then "\\u\x7b" ++ hexDigits c.toNat ++ "\x7d" else c.toString

def diagnostic (text : String) : String :=
  "\"" ++ String.join (text.toList.map diagnosticChar) ++ "\""

end SceneMarkup.Text
