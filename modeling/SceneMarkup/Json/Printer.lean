import SceneMarkup.Json.Value
import SceneMarkup.Number.Numeral
import SceneMarkup.Text

namespace SceneMarkup.Json

def decimalText (d : Number.Decimal) : String :=
  let digits := toString d.digits
  let exponent : Int := digits.length + d.exponent - 1
  if -5 ≤ exponent && exponent < 16 then
    d.positional ++ if 0 ≤ d.exponent then ".0" else ""
  else
    let point := if digits.length = 1 then "" else "."
    let sign := if exponent < 0 then "-" else "+"
    String.ofList (digits.toList.take 1) ++ point ++ String.ofList (digits.toList.drop 1) ++
      "e" ++ sign ++ toString exponent.natAbs

def realText (x : Float) : String :=
  if x.isNaN || x.isInf then "null"
  else
    (if Number.isNegative x then "-" else "") ++
      if x == 0 then "0.0" else decimalText ((Number.Binary.ofFloat x).shortest .even)

def numberText : JsonNumber → String
  | .integer n => toString n
  | .real x => realText x

def hexDigit (n : Nat) : Char := Nat.digitChar n

def escapeChar (c : Char) : List Char :=
  match c with
  | '"' => ['\\', '"']
  | '\\' => ['\\', '\\']
  | '\x08' => ['\\', 'b']
  | '\x0c' => ['\\', 'f']
  | '\n' => ['\\', 'n']
  | '\r' => ['\\', 'r']
  | '\t' => ['\\', 't']
  | c =>
    if c.toNat < 0x20 then
      ['\\', 'u', '0', '0', hexDigit (c.toNat / 16), hexDigit (c.toNat % 16)]
    else [c]

def stringChars (s : String) : List Char := '"' :: (s.toList.flatMap escapeChar ++ ['"'])

def boolChars (b : Bool) : List Char := if b then "true".toList else "false".toList

mutual

def compactChars : Json → List Char
  | .null => "null".toList
  | .bool b => boolChars b
  | .number n => (numberText n).toList
  | .string s => stringChars s
  | .array items => '[' :: (compactItems items ++ [']'])
  | .object members => '{' :: (compactMembers members ++ ['}'])

def compactItems : List Json → List Char
  | [] => []
  | [j] => compactChars j
  | j :: rest => compactChars j ++ ',' :: compactItems rest

def compactMembers : List (String × Json) → List Char
  | [] => []
  | [(k, v)] => stringChars k ++ ':' :: compactChars v
  | (k, v) :: rest => stringChars k ++ ':' :: compactChars v ++ ',' :: compactMembers rest

end

mutual

def prettyChars (depth : Nat) : Json → List Char
  | .null => "null".toList
  | .bool b => boolChars b
  | .number n => (numberText n).toList
  | .string s => stringChars s
  | .array [] => ['[', ']']
  | .array (j :: rest) =>
    ['[', '\n'] ++ prettyItems (depth + 1) (j :: rest) ++ Text.padding depth ++ [']']
  | .object [] => ['{', '}']
  | .object (m :: rest) =>
    ['{', '\n'] ++ prettyMembers (depth + 1) (m :: rest) ++ Text.padding depth ++ ['}']

def prettyItems (depth : Nat) : List Json → List Char
  | [] => []
  | [j] => Text.padding depth ++ prettyChars depth j ++ ['\n']
  | j :: rest => Text.padding depth ++ prettyChars depth j ++ [',', '\n'] ++ prettyItems depth rest

def prettyMembers (depth : Nat) : List (String × Json) → List Char
  | [] => []
  | [(k, v)] => Text.padding depth ++ stringChars k ++ [':', ' '] ++ prettyChars depth v ++ ['\n']
  | (k, v) :: rest =>
    Text.padding depth ++ stringChars k ++ [':', ' '] ++ prettyChars depth v ++ [',', '\n'] ++
      prettyMembers depth rest

end

def compact (j : Json) : String := String.ofList j.compactChars

def pretty (j : Json) : String := String.ofList (j.prettyChars 0)

end SceneMarkup.Json
