import ImageText.Child
import ImageText.Failure
import ImageText.Json.Reader
import ImageText.Log
import ImageText.Options
import ImageText.Report
import ImageText.Text.Blank

/-!
# The engine behind a child process

The recognition engine lives in a process of its own, the bridge: an interpreter that runs either
the built-in program or a script of the user. It is asked in one of two modes. `probe` only finds
out whether the engine is there; `recognize` gets the path of an image and the options as JSON, and
writes its answer as one JSON document to its output. Its exit code tells an engine that is not
there (2) from one that failed, and the last line of its error stream that is not blank says why.
-/

namespace ImageText

open Json (Value)

/-- What the program needs of the system it runs on. -/
structure Host (m : Type → Type) where
  /-- Whether a path leads to a regular file. -/
  isFile : Path → m Bool
  /-- Run a child process to its end. -/
  launch : Command → m (Except SystemError Finished)

/-- How to start the engine's process. -/
structure Bridge where
  interpreter : Path
  /-- A script to run instead of the built-in program. -/
  script : Option Path := none
  deriving DecidableEq, Repr

namespace Bridge

/-- The name of the engine. -/
def engineName : String := "PaddleOCR"

/-- The exit code that says that the engine is not there. -/
def unavailableCode : Nat := 2

/-- The child process for one mode. -/
def command (b : Bridge) (mode : String) (arguments : List Bytes) : Command :=
  ⟨b.interpreter, b.script, utf8 mode :: arguments⟩

/-- The message of a child that failed. -/
def complaint (f : Finished) : String :=
  ((Text.lastLine? (Text.lossy f.stderr)).map String.ofList).getD
    ("bridge exited with " ++ f.exit.text)

/-- What a child that ended has to say: its output, or why there is none. -/
def outcome (f : Finished) : Except Failure Bytes :=
  if f.exit.success then .ok f.stdout
  else if f.exit = .code unavailableCode then .error (.unavailable engineName (complaint f))
  else .error (.recognition (complaint f))

/-- The record of a child's error stream, unless it is blank. -/
def stderrRecord? (f : Finished) : Option Record :=
  let text := Text.lossy f.stderr
  if (Text.trim text).isEmpty then none
  else some ⟨.debug, Record.engineTarget,
    "bridge stderr:\n" ++ String.ofList (Text.trimEnd text)⟩

/-- A bridge in full. -/
def detail (b : Bridge) : String :=
  "PaddleBridge \x7b python: " ++ String.ofList (Text.quotedPath b.interpreter) ++ ", script: "
    ++ b.script.elim "None" (fun s => "Some(" ++ String.ofList (Text.quotedPath s) ++ ")")
    ++ " \x7d"

variable {m : Type → Type} [Monad m] (host : Host m) (note : Record → m Unit)

/-- Run a child process: its output and how long it took. -/
def execute (command : Command) : m (Except Failure (Bytes × String)) := do
  match ← host.launch command with
  | .error error =>
    return .error (.unavailable engineName
      ("cannot start " ++ shown command.interpreter ++ ": " ++ error.message))
  | .ok finished =>
    match stderrRecord? finished with
    | some record => note record
    | none => pure ()
    return (outcome finished).map fun stdout => (stdout, finished.elapsed)

/-- Find out whether the engine is there. -/
def probe (b : Bridge) : m (Except Failure Unit) := do
  note ⟨.debug, Record.engineTarget,
    "Probing " ++ engineName ++ " via " ++ shown b.interpreter⟩
  match ← execute host note (b.command "probe" []) with
  | .error failure => return .error failure
  | .ok _ => return .ok ()

/-- Recognize an image that must be a regular file. -/
def recognize (b : Bridge) (image : Path) (o : Options) : m (Except Failure Value) := do
  if ← host.isFile image then
    note ⟨.info, Record.engineTarget,
      "Recognizing " ++ String.ofList (Text.quotedPath image) ++ " (lang=" ++ o.lang ++ ")"⟩
    match ← execute host note (b.command "recognize" [image, o.encode]) with
    | .error failure => return .error failure
    | .ok (stdout, elapsed) =>
      note ⟨.debug, Record.engineTarget,
        engineName ++ " finished in " ++ elapsed ++ ", " ++ toString stdout.length
          ++ " bytes of output"⟩
      return (Json.readDocument stdout).mapError .unreadable
  else
    return .error (.recognition ("input image not found: " ++ shown image))

/-- The bridge as a recognizer. -/
def recognizer (b : Bridge) : Recognizer m where
  name := engineName
  load := b.probe host note
  recognize := b.recognize host note

end Bridge

end ImageText
