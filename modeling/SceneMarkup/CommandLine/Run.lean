import SceneMarkup.CommandLine.Arguments
import SceneMarkup.CommandLine.Program
import SceneMarkup.Scene.Read
import SceneMarkup.Text
import SceneMarkup.Unit

/-!
A run of the command line. It reads the files that the arguments name, generates the unit, and then
writes it to files or prints it.
-/

namespace SceneMarkup.CommandLine

inductive Source
  | scene
  | options
  | savedContext
  deriving DecidableEq

def Source.text : Source → String
  | scene => "scene json"
  | options => "options json"
  | savedContext => "saved context"

inductive CommandError
  | argument (e : ArgumentError)
  | noScene
  | unreadable (source : Source) (path : String)
  | malformed (source : Source) (path : String)
  | invalidScene (e : SceneError)
  | unwritable (path : String)
  deriving DecidableEq

namespace CommandError

def message : CommandError → String
  | argument e => e.message
  | noScene => "--scene <scene.json> is required"
  | unreadable source path => "failed to read " ++ source.text ++ " at " ++ path
  | malformed source path => "failed to parse " ++ source.text ++ " at " ++ path
  | invalidScene _ => "scene failed validation"
  | unwritable path => "failed to write " ++ path

def causeText : CommandError → String
  | invalidScene e =>
    let lines := (e.message.toList.splitOn '\n').map fun l => "    " ++ String.ofList l
    "\n\nCaused by:\n" ++ "\n".intercalate lines
  | _ => ""

def report (e : CommandError) : String := "Error: " ++ e.message ++ e.causeText ++ "\n"

end CommandError

open Program

def decode (source : Source) (parse? : String → Option α) (path : String) :
    Option String → Except CommandError α
  | none => .error (.unreadable source path)
  | some text =>
    match parse? text with
    | some a => .ok a
    | none => .error (.malformed source path)

def load (source : Source) (parse? : String → Option α) (path : String) :
    Program CommandError α := do
  ofExcept (decode source parse? path (← readFile path))

def loadScene : String → Program CommandError Scene := load .scene Scene.read?

def loadOptions : String → Program CommandError Options := load .options Options.read?

def loadSaved : String → Program CommandError Json := load .savedContext Json.read?

def loadAny (read : String → Program CommandError α) :
    Option String → Program CommandError (Option α)
  | none => return none
  | some path => return some (← read path)

def optionsOf (a : Arguments) : Program CommandError Options := do
  return a.adjust ((← loadAny loadOptions a.options).getD {})

def resolveOptions (reading : Reading) (a : Arguments) : Except CommandError Options :=
  (optionsOf a).answer reading

def parseArguments (args : List String) : Except CommandError Arguments :=
  (Arguments.parse args).mapError .argument

def requireScene (a : Arguments) : Except CommandError String :=
  match a.scene with
  | some path => .ok path
  | none => .error .noScene

def prepare (args : List String) : Program CommandError (Arguments × SourceUnit) := do
  let a ← ofExcept (parseArguments args)
  let path ← ofExcept (requireScene a)
  let scene ← loadScene path
  let options ← optionsOf a
  let saved ← loadAny loadSaved a.savedContext
  let unit ← ofExcept ((generate scene options saved).mapError .invalidScene)
  return (a, unit)

def deliverText (text : String) : Option String → Program CommandError Unit
  | some path => writeFile path text (.unwritable path)
  | none => printText text

def deliverContext (blob : String) : Option String → Program CommandError Unit
  | some path => writeFile path blob (.unwritable path)
  | none => return

def deliver (a : Arguments) (unit : SourceUnit) : Program CommandError Unit := do
  deliverText unit.text a.output
  deliverContext unit.context.blob a.contextOut

def program (args : List String) : Program CommandError Unit := do
  let (a, unit) ← prepare args
  deliver a unit

structure Outcome (σ : Type) extends World σ where
  error : Option CommandError

namespace Outcome

def of : Except CommandError Unit × World σ → Outcome σ
  | (.ok (), w) => { w with error := none }
  | (.error e, w) => { w with error := some e }

def exitCode (o : Outcome σ) : Nat := if o.error.isSome then 1 else 0

end Outcome

def runOn (fs : FileSystem σ) (args : List String) (files : σ) : Outcome σ :=
  .of ((program args).exec fs ⟨"", files⟩)

def run (args : List String) (d : Directory) : Outcome Directory :=
  runOn Directory.fileSystem args d

end SceneMarkup.CommandLine
