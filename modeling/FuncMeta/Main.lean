import FuncMeta.Command.Read
import FuncMeta.Command.Run

/-!
# The program

Reads the command line and the files that it names, runs the command, and writes what the run
leaves behind.
-/

namespace FuncMeta

/-- What stands under a path of the file system. -/
def readFile (path : String) : IO File := do
  match ← (IO.FS.readBinFile path).toBaseIO with
  | .ok bytes =>
    match Region.ofBytes? bytes with
    | some region => return .present region
    | none => return .unreadable "file too large"
  | .error (.noFileOrDirectory ..) => return .missing
  | .error e => return .unreadable (toString e)

/-- Whether output is coloured: the environment may forbid or force it, and otherwise only a
terminal shows colours. -/
def wantsColour : IO Bool := do
  if (← IO.getEnv "NO_COLOR").isSome then return false
  match ← IO.getEnv "CLICOLOR_FORCE" with
  | some value => if value ≠ "0" then return true else (← IO.getStdout).isTty
  | none => (← IO.getStdout).isTty

/-- Runs a command on the files that it names. -/
def runCommand (c : Command) : IO UInt32 := do
  let paths := c.input.path :: c.config.toList
  let files ← paths.mapM fun path ↦ return (path, ← readFile path)
  let transcript := c.run (fun path ↦ (files.lookup path).getD .missing) (← wantsColour)
  for record in transcript.log do
    IO.eprintln s!"[{record.level.name}] {record.text}"
  IO.print transcript.output
  IO.eprint transcript.complaint
  return .ofNat transcript.exitCode

end FuncMeta

/-- The program: exits with zero unless the command line holds no command or the command fails. -/
def main (arguments : List String) : IO UInt32 := do
  match FuncMeta.Command.read arguments with
  | .ok c => FuncMeta.runCommand c
  | .error e =>
    if e.isRequest then IO.println e.message else IO.eprintln e.message
    return e.exitCode
