import SceneMarkup.Options
import SceneMarkup.Text

namespace SceneMarkup.CommandLine

inductive Switch
  | instancing
  | instanceAll
  | keepNames
  | keepGroups
  | debug
  | types
  | shadows
  | metadata
  | noLightRotation
  deriving DecidableEq

namespace Switch

def all : List Switch := [
  .instancing, .instanceAll, .keepNames, .keepGroups, .debug, .types, .shadows, .metadata,
  .noLightRotation]

def text : Switch → String
  | instancing => "--instance"
  | instanceAll => "--instance-all"
  | keepNames => "--keep-names"
  | keepGroups => "--keep-groups"
  | debug => "--debug"
  | types => "--types"
  | shadows => "--shadows"
  | metadata => "--meta"
  | noLightRotation => "--no-light-rotation"

def ofText? (t : String) : Option Switch := all.find? (·.text == t)

def apply (o : Options) : Switch → Options
  | instancing => { o with instancing := true }
  | instanceAll => { o with instanceAll := true }
  | keepNames => { o with keepNames := true }
  | keepGroups => { o with keepGroups := true }
  | debug => { o with debug := true }
  | types => { o with types := true }
  | shadows => { o with shadows := true }
  | metadata => { o with metadata := true }
  | noLightRotation => { o with lightRotationControls := false }

end Switch

inductive PathOption
  | scene
  | options
  | output
  | contextOut
  | savedContext
  deriving DecidableEq

namespace PathOption

def all : List PathOption := [.scene, .options, .output, .contextOut, .savedContext]

def text : PathOption → String
  | scene => "--scene"
  | options => "--options"
  | output => "--output"
  | contextOut => "--context-out"
  | savedContext => "--saved-context"

def ofText? (t : String) : Option PathOption := all.find? (·.text == t)

end PathOption

def precisionText : String := "--precision"

inductive Token
  | switch (s : Switch)
  | path (o : PathOption)
  | precision

def Token.ofText? (t : String) : Option Token :=
  (Switch.ofText? t).map .switch <|> (PathOption.ofText? t).map .path <|>
    if t = precisionText then some .precision else none

inductive NumberError
  | empty
  | invalidDigit
  | tooLarge
  deriving DecidableEq

def NumberError.message : NumberError → String
  | empty => "cannot parse integer from empty string"
  | invalidDigit => "invalid digit found in string"
  | tooLarge => "number too large to fit in target type"

def digitsBelow (bound n : Nat) : List Char → Except NumberError Nat
  | [] => .ok n
  | c :: rest =>
    if c.isDigit then
      let n := 10 * n + (c.toNat - '0'.toNat)
      if n < bound then digitsBelow bound n rest else .error .tooLarge
    else .error .invalidDigit

def number (t : String) : Except NumberError Nat :=
  match t.toList with
  | [] => .error .empty
  | ['+'] => .error .invalidDigit
  | '+' :: digits => digitsBelow 0x100000000 0 digits
  | digits => digitsBelow 0x100000000 0 digits

inductive ArgumentError
  | missingValue (option : String)
  | invalidPrecision (value : String) (cause : NumberError)
  | unknown (argument : String)
  deriving DecidableEq

namespace ArgumentError

def supported : String :=
  "--scene <scene.json>, --options <options.json>, --output <file>, --context-out <file>, " ++
    "--saved-context <file>, --precision <n>, " ++ ", ".intercalate (Switch.all.map Switch.text)

def message : ArgumentError → String
  | missingValue option => "missing value for " ++ option
  | invalidPrecision value cause =>
    "invalid " ++ precisionText ++ " " ++ Text.diagnostic value ++ ": " ++ cause.message
  | unknown argument => "unknown argument: " ++ argument ++ " (supported: " ++ supported ++ ")"

end ArgumentError

structure Arguments where
  scene : Option String := none
  options : Option String := none
  output : Option String := none
  contextOut : Option String := none
  savedContext : Option String := none
  precision : Option Nat := none
  switches : List Switch := []
  deriving DecidableEq

namespace Arguments

def setPath (a : Arguments) (value : String) : PathOption → Arguments
  | .scene => { a with scene := some value }
  | .options => { a with options := some value }
  | .output => { a with output := some value }
  | .contextOut => { a with contextOut := some value }
  | .savedContext => { a with savedContext := some value }

def setPrecision (a : Arguments) (value : String) : Except ArgumentError Arguments :=
  match number value with
  | .ok n => .ok { a with precision := some n }
  | .error e => .error (.invalidPrecision value e)

def add (a : Arguments) : List String → Except ArgumentError Arguments
  | [] => .ok a
  | t :: rest =>
    match Token.ofText? t with
    | none => .error (.unknown t)
    | some (.switch s) => add { a with switches := a.switches ++ [s] } rest
    | some (.path o) =>
      match rest with
      | [] => .error (.missingValue t)
      | value :: rest => add (a.setPath value o) rest
    | some .precision =>
      match rest with
      | [] => .error (.missingValue t)
      | value :: rest =>
        match a.setPrecision value with
        | .ok a => add a rest
        | .error e => .error e

def parse (args : List String) : Except ArgumentError Arguments := add {} args

def adjust (a : Arguments) (o : Options) : Options :=
  let o := match a.precision with
    | some n => { o with precision := n }
    | none => o
  a.switches.foldl Switch.apply o

end Arguments

end SceneMarkup.CommandLine
