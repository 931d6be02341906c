import SceneMarkup.Json.Value

namespace SceneMarkup.CommandLine

inductive Program (ε α : Type) : Type
  | done (a : α)
  | fail (e : ε)
  | read (path : String) (next : Option String → Program ε α)
  | print (text : String) (next : Program ε α)
  | write (path content : String) (next : Bool → Program ε α)

namespace Program

def bind : Program ε α → (α → Program ε β) → Program ε β
  | done a, f => f a
  | fail e, _ => fail e
  | read path next, f => read path fun content => (next content).bind f
  | print text next, f => print text (next.bind f)
  | write path content next, f => write path content fun written => (next written).bind f

instance : Monad (Program ε) where
  pure := done
  bind := bind

def ofExcept : Except ε α → Program ε α
  | .ok a => done a
  | .error e => fail e

def readFile (path : String) : Program ε (Option String) := read path done

def printText (text : String) : Program ε Unit := print text (done ())

def writeFile (path content : String) (e : ε) : Program ε Unit :=
  write path content fun written => if written then done () else fail e

end Program

abbrev Reading := String → Option String

/-- What a program comes to where files can be read, but not written. -/
def Program.answer (reading : Reading) : Program ε α → Except ε α
  | done a => .ok a
  | fail e => .error e
  | read path next => (next (reading path)).answer reading
  | print _ next => next.answer reading
  | write _ _ next => (next false).answer reading

structure FileSystem (σ : Type) where
  read? : σ → Reading
  write? : σ → (path content : String) → Option σ

structure World (σ : Type) where
  stdout : String
  directory : σ

def Program.exec (fs : FileSystem σ) : Program ε α → World σ → Except ε α × World σ
  | done a, w => (.ok a, w)
  | fail e, w => (.error e, w)
  | read path next, w => (next (fs.read? w.directory path)).exec fs w
  | print text next, w => next.exec fs { w with stdout := w.stdout ++ text }
  | write path content next, w =>
    match fs.write? w.directory path content with
    | some d => (next true).exec fs { w with directory := d }
    | none => (next false).exec fs w

structure Directory where
  files : List (String × String)
  deriving DecidableEq

namespace Directory

def nameOf? : List (List Char) → Option String
  | [] => none
  | [part] =>
    if part = [] ∨ part = ['.'] ∨ part = ['.', '.'] then none else some (String.ofList part)
  | part :: next :: rest =>
    if part = ['.'] ∨ part = [] then nameOf? (next :: rest) else none

def fileName? (path : String) : Option String :=
  if path.startsWith "/" then none else nameOf? (path.toList.splitOn '/')

def read? (d : Directory) (path : String) : Option String :=
  (fileName? path).bind (Json.member? · d.files)

def put (name content : String) : List (String × String) → List (String × String)
  | [] => [(name, content)]
  | (n, c) :: rest => if n = name then (n, content) :: rest else (n, c) :: put name content rest

def write? (d : Directory) (path content : String) : Option Directory :=
  (fileName? path).map fun name => ⟨put name content d.files⟩

def fileSystem : FileSystem Directory := ⟨read?, write?⟩

end Directory

end SceneMarkup.CommandLine
