import ImageText.Bridge
import ImageText.CommandLine.Reader
import ImageText.Log.Filter

/-!
# The program

From the command line to the exit code: the arguments are read, the log is set up if it was asked
for, and the image is recognized through the bridge. The log goes to the error stream, line by line,
and the text alone to the output.

If the error stream refuses a line of the log, a complaint about that is due on the same stream, and a
complaint that is refused as well would end the process at once, with code 101. That end is left out: a
line that cannot be written is lost, and the run goes on. So what is said of exit codes says nothing of runs
that were asked for a log and cannot write it.
-/

namespace ImageText.Program

variable {m : Type → Type} [Monad m]

/-- What the program is given. -/
structure Surroundings where
  arguments : List Bytes
  /-- The environment variable that names the interpreter. -/
  interpreter : Option Bytes
  /-- The environment variable that holds the log filter. -/
  logFilter : Option Bytes
  /-- The environment variable that forbids colours. -/
  noColour : Option Bytes
  /-- The environment variable that asks for colours. -/
  forceColour : Option Bytes
  deriving Repr

/-- The name of the environment variable that holds the log filter. -/
def logVariable : String := "RUST_LOG"

/-- The name of the environment variable that forbids colours. -/
def noColourVariable : String := "NO_COLOR"

/-- The name of the environment variable that asks for colours. -/
def forceColourVariable : String := "CLICOLOR_FORCE"

/-- What is said about the command line is in colour only if it is asked for, by any value but `0`,
and not forbidden, by any value but an empty one. -/
def Surroundings.coloured (given : Surroundings) : Bool :=
  (given.noColour.getD []).isEmpty && given.forceColour.any (· ≠ utf8 "0")

/-- Where records go: to the error stream if the filter admits them. A line that cannot be written
is lost. -/
def logTo (err : Outlet m) (time : m String) (filter : Log.Filter) (r : Record) : m Unit := do
  if filter.admits r then
    let now ← time
    let _ ← err.write (utf8 (Log.line now r))
  else pure ()

/-- Where records go unless a log was asked for. -/
def silently (_ : Record) : m Unit := pure ()

/-- Do what accepted settings say. -/
def serve (host : Host m) (out err : Outlet m) (note : Record → m Unit)
    (s : CommandLine.Settings) : m UInt8 := do
  let bridge : Bridge := ⟨s.interpreter, s.bridge⟩
  note ⟨.debug, Record.programTarget, "Engine: " ++ bridge.detail⟩
  Report.run note out err (bridge.recognizer host note) ⟨s.input, s.lang⟩

/-- The whole program. -/
def run (host : Host m) (out err : Outlet m) (time : m String) (given : Surroundings) :
    m UInt8 := do
  match CommandLine.read given.arguments given.interpreter with
  | .error answer =>
    let _ ← (if answer.isError then err else out).write
      (utf8 ((answer.styled given.interpreter).output given.coloured))
    return answer.exitCode
  | .ok settings =>
    serve host out err
      (if settings.log then logTo err time (.ofVariable given.logFilter) else silently) settings

end ImageText.Program
