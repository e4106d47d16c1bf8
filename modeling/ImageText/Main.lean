import ImageText.Program

/-!
# The command

`main` ties the program to the system: its arguments and its environment, its two streams, and what
a file is. The system library offers no way to start another program, so every launch of the engine
is refused as a call that the system does not have, and the program says so like any other failure.
-/

namespace ImageText

namespace Console

/-- The error number of a failed call, if it has one. -/
def errorNumber? : IO.Error → Option UInt32
  | .alreadyExists _ n _ | .invalidArgument _ n _ | .permissionDenied _ n _
  | .resourceExhausted _ n _ | .inappropriateType _ n _ | .noSuchThing _ n _
  | .interrupted _ n _ | .noFileOrDirectory _ n _ | .otherError n _ | .resourceBusy n _
  | .resourceVanished n _ | .unsupportedOperation n _ | .hardwareFault n _
  | .unsatisfiedConstraints n _ | .illegalOperation n _ | .protocolError n _
  | .timeExpired n _ => some n
  | .unexpectedEof | .userError _ => none

/-- A failed call as an error of the system. -/
def systemError (e : IO.Error) : SystemError :=
  (errorNumber? e).elim (.reason e.toString) fun n => .number n.toNat

/-- Do something that may fail. -/
def attempt (act : IO Unit) : IO (Except SystemError Unit) := do
  try
    act
    return .ok ()
  catch e => return .error (systemError e)

/-- A stream as an outlet. -/
def outlet (stream : IO.FS.Stream) : Outlet IO where
  write bytes := attempt (stream.write ⟨bytes.toArray⟩)
  flush := attempt stream.flush

/-- Whether a path leads to something that can be read, which a directory cannot. -/
def isReadable (path : Path) : IO Bool := do
  try
    let file ← IO.FS.Handle.mk (shown path) .read
    let _ ← file.read 1
    return true
  catch _ => return false

/-- The system does not have the call. -/
def notImplemented : Int := 38

/-- The system that the command runs on. -/
def host : Host IO where
  isFile := isReadable
  launch _ := return .error (.number notImplemented)

/-- The time of a record: seconds since some moment in the past. -/
def now : IO String := do
  let milliseconds ← IO.monoMsNow
  let digits := toString (milliseconds % 1000)
  return toString (milliseconds / 1000) ++ "." ++ "".pushn '0' (3 - digits.length) ++ digits ++ "s"

/-- What the command is given. -/
def surroundings (arguments : List String) : IO Program.Surroundings := do
  return {
    arguments := arguments.map utf8
    interpreter := (← IO.getEnv CommandLine.interpreterVariable).map utf8
    logFilter := (← IO.getEnv Program.logVariable).map utf8
    noColour := (← IO.getEnv Program.noColourVariable).map utf8
    forceColour := (← IO.getEnv Program.forceColourVariable).map utf8 }

end Console

end ImageText

/-- Recognize the text of an image. -/
def main (arguments : List String) : IO UInt32 := do
  let out := ImageText.Console.outlet (← IO.getStdout)
  let err := ImageText.Console.outlet (← IO.getStderr)
  let given ← ImageText.Console.surroundings arguments
  let code ← ImageText.Program.run ImageText.Console.host out err ImageText.Console.now given
  let _ ← out.flush
  return code.toUInt32
