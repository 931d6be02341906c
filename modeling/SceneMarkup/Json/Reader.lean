import SceneMarkup.Json.Value
import SceneMarkup.Number.Decimal

namespace SceneMarkup.Json.Reader

def isBlank (c : Char) : Bool := c == ' ' || c == '\n' || c == '\t' || c == '\r'

def skipBlanks (cs : List Char) : List Char := cs.dropWhile isBlank

structure Literal where
  negative : Bool
  whole : List Char
  fraction : List Char
  exponent : Option Int

def digitsValue (cs : List Char) : Nat := cs.foldl (fun n c => 10 * n + Number.digitValue c) 0

def digits? (cs : List Char) : Option (List Char × List Char) :=
  match cs.span Char.isDigit with
  | ([], _) => none
  | (ds, rest) => some (ds, rest)

def whole? : List Char → Option (List Char × List Char)
  | '0' :: rest => if (rest.head?.map Char.isDigit).getD false then none else some (['0'], rest)
  | cs => digits? cs

def fraction? : List Char → Option (List Char × List Char)
  | '.' :: rest => digits? rest
  | cs => some ([], cs)

def exponentSign : List Char → Bool × List Char
  | '-' :: rest => (true, rest)
  | '+' :: rest => (false, rest)
  | cs => (false, cs)

def exponent? : List Char → Option (Option Int × List Char)
  | c :: rest =>
    if c = 'e' ∨ c = 'E' then do
      let (negative, rest) := exponentSign rest
      let (ds, rest) ← digits? rest
      let n : Int := digitsValue ds
      return (some (if negative then -n else n), rest)
    else some (none, c :: rest)
  | [] => some (none, [])

def sign : List Char → Bool × List Char
  | '-' :: rest => (true, rest)
  | cs => (false, cs)

def literal? (cs : List Char) : Option (Literal × List Char) := do
  let (negative, rest) := sign cs
  let (whole, rest) ← whole? rest
  let (fraction, rest) ← fraction? rest
  let (exponent, rest) ← exponent? rest
  return (⟨negative, whole, fraction, exponent⟩, rest)

def Literal.isIntegral (l : Literal) : Bool := l.fraction.isEmpty && l.exponent.isNone

def Literal.decimal (l : Literal) : Number.Decimal :=
  .ofDigits l.whole l.fraction (l.exponent.getD 0)

def Literal.real? (l : Literal) : Option JsonNumber :=
  l.decimal.toFloat?.map fun x => .real (if l.negative then -x else x)

def Literal.integer (l : Literal) : Int :=
  let n : Int := digitsValue l.whole
  if l.negative then -n else n

def Literal.isInteger (l : Literal) : Bool :=
  l.isIntegral && -0x8000000000000000 ≤ l.integer && l.integer < 0x10000000000000000 &&
    (!l.negative || l.integer != 0)

def Literal.value? (l : Literal) : Option JsonNumber :=
  if l.isInteger then some (.integer l.integer) else l.real?

def hexValue? (c : Char) : Option Nat :=
  if '0' ≤ c ∧ c ≤ '9' then some (c.toNat - '0'.toNat)
  else if 'a' ≤ c ∧ c ≤ 'f' then some (c.toNat - 'a'.toNat + 10)
  else if 'A' ≤ c ∧ c ≤ 'F' then some (c.toNat - 'A'.toNat + 10)
  else none

def hexUnit? (a b c d : Char) : Option Nat := do
  return ((← hexValue? a) * 16 + (← hexValue? b)) * 256 + (← hexValue? c) * 16 + (← hexValue? d)

def shortEscape? : Char → Option Char
  | '"' => some '"'
  | '\\' => some '\\'
  | '/' => some '/'
  | 'b' => some '\x08'
  | 'f' => some '\x0c'
  | 'n' => some '\n'
  | 'r' => some '\r'
  | 't' => some '\t'
  | _ => none

def pointsFrom (before : List Nat) : List Char → Option (List Nat × List Char)
  | '"' :: rest => some (before.reverse, rest)
  | '\\' :: 'u' :: a :: b :: c :: d :: rest =>
    match hexUnit? a b c d with
    | some n => pointsFrom (n :: before) rest
    | none => none
  | '\\' :: c :: rest =>
    match shortEscape? c with
    | some e => pointsFrom (e.toNat :: before) rest
    | none => none
  | c :: rest => if c.toNat < 0x20 then none else pointsFrom (c.toNat :: before) rest
  | [] => none

def isLeading (n : Nat) : Bool := 0xd800 ≤ n && n < 0xdc00

def isTrailing (n : Nat) : Bool := 0xdc00 ≤ n && n < 0xe000

def charsFrom (before : List Char) : List Nat → Option (List Char)
  | [] => some before.reverse
  | [n] => if isLeading n || isTrailing n then none else some (Char.ofNat n :: before).reverse
  | m :: n :: rest =>
    if isLeading m && isTrailing n then
      charsFrom (Char.ofNat (0x10000 + (m - 0xd800) * 0x400 + (n - 0xdc00)) :: before) rest
    else if isLeading m || isTrailing m then none
    else charsFrom (Char.ofNat m :: before) (n :: rest)

def string? (cs : List Char) : Option (Option String × List Char) := do
  let (points, rest) ← pointsFrom [] cs
  return ((charsFrom [] points).map String.ofList, rest)

mutual

def value? : Nat → List Char → Option (Document × List Char)
  | 0, _ => none
  | fuel + 1, cs =>
    match skipBlanks cs with
    | 'n' :: 'u' :: 'l' :: 'l' :: rest => some (.null, rest)
    | 't' :: 'r' :: 'u' :: 'e' :: rest => some (.bool true, rest)
    | 'f' :: 'a' :: 'l' :: 's' :: 'e' :: rest => some (.bool false, rest)
    | '"' :: rest => (string? rest).map fun (s, rest) => (.string s, rest)
    | '[' :: rest =>
      match skipBlanks rest with
      | ']' :: rest => some (.array [], rest)
      | rest => (items? fuel rest).map fun (items, rest) => (.array items, rest)
    | '{' :: rest =>
      match skipBlanks rest with
      | '}' :: rest => some (.object [], rest)
      | rest => (members? fuel rest).map fun (members, rest) => (.object members, rest)
    | rest => (literal? rest).map fun (l, rest) => (.number l.value?, rest)

def items? : Nat → List Char → Option (List Document × List Char)
  | 0, _ => none
  | fuel + 1, cs =>
    match value? fuel cs with
    | none => none
    | some (item, rest) =>
      match skipBlanks rest with
      | ',' :: rest => (items? fuel rest).map fun (items, rest) => (item :: items, rest)
      | ']' :: rest => some ([item], rest)
      | _ => none

def members? : Nat → List Char → Option (List (Option String × Document) × List Char)
  | 0, _ => none
  | fuel + 1, cs =>
    match member? fuel cs with
    | none => none
    | some (member, rest) =>
      match skipBlanks rest with
      | ',' :: rest => (members? fuel rest).map fun (members, rest) => (member :: members, rest)
      | '}' :: rest => some ([member], rest)
      | _ => none

def member? : Nat → List Char → Option ((Option String × Document) × List Char)
  | 0, _ => none
  | fuel + 1, cs =>
    match skipBlanks cs with
    | '"' :: rest =>
      match string? rest with
      | none => none
      | some (key, rest) =>
        match skipBlanks rest with
        | ':' :: rest => (value? fuel rest).map fun (item, rest) => ((key, item), rest)
        | _ => none
    | _ => none

end

/-- Every step into a value takes a character, and no more than three calls are made for it. -/
def fuel (cs : List Char) : Nat := 3 * cs.length + 3

def document? (cs : List Char) : Option Document :=
  match value? (fuel cs) cs with
  | some (d, rest) => if (skipBlanks rest).isEmpty then some d else none
  | none => none

end SceneMarkup.Json.Reader

namespace SceneMarkup

def Document.read? (text : String) : Option Document := Json.Reader.document? text.toList

def Json.maxDepth : Nat := 127

def Json.read? (text : String) : Option Json :=
  (Document.read? text).bind (Document.toJson? Json.maxDepth)

end SceneMarkup
