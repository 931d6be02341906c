import SceneMarkup.CommandLine.Run

namespace SceneMarkup.CommandLine

def readFile? (path : String) : IO (Option String) := do
  try return some (← IO.FS.readFile path)
  catch _ => return none

def tryWrite (path content : String) : IO Bool := do
  try IO.FS.writeFile path content; return true
  catch _ => return false

def Program.perform : Program ε α → IO (Except ε α)
  | done a => return .ok a
  | fail e => return .error e
  | read path next => do perform (next (← readFile? path))
  | print text next => do
    IO.print text
    perform next
  | write path content next => do perform (next (← tryWrite path content))

def execute (args : List String) : IO UInt32 := do
  match ← (program args).perform with
  | .ok () => return 0
  | .error e =>
    IO.eprint e.report
    return 1

end SceneMarkup.CommandLine

def main (args : List String) : IO UInt32 := SceneMarkup.CommandLine.execute args
