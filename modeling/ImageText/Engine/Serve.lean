import ImageText.Child
import ImageText.Engine.Dump
import ImageText.Engine.Load
import ImageText.Engine.Plain

/-!
# The built-in bridge

What the interpreter does when it runs the built-in program. The program sets its output aside for
the result before it does anything else, so that whatever the engine writes, at whatever level,
lands on the error stream. `probe` only imports the engine; `recognize` also builds it with the
options, has it read the image, and writes the plain form of the answer as one JSON document.

An engine that cannot be imported ends the process with code 2, and every other failure with code
1, provided it is an ordinary exception; an exception that passes by the handlers ends the process
in its own way.
-/

namespace ImageText

/-- What an engine does: every step writes something and comes to a value or an exception. -/
structure Engine where
  importing : Engine.Turn Unit
  /-- Building it with named options. -/
  building : List (Engine.Datum × Engine.Datum) → Engine.Turn Unit
  /-- Its answer to an image, after it was built with named options. -/
  answering : List (Engine.Datum × Engine.Datum) → Engine.CodePoints → Engine.Turn Engine.Datum

namespace Engine

/-- The exit code for an engine that cannot be imported. -/
def unavailableCode : Nat := 2

/-- The exit code for every other failure. -/
def failedCode : Nat := 1

/-- An ended process whose error stream is not in bytes yet. -/
structure Ending where
  stdout : Bytes
  written : List Noise
  exit : Exit
  deriving DecidableEq, Repr

/-- An ended process. Of its running time nothing is known here. -/
def Ending.finished (errors : Encoding) (e : Ending) : Finished :=
  ⟨e.stdout, e.written.flatMap (Noise.bytes errors), e.exit, ""⟩

/-- The last code that a process can exit with. -/
def codeBound : Int := 256

/-- The exit code for a number; one that is too great for the machine counts as the last code. -/
def exitCodeOf (n : Int) : Nat :=
  if -0x8000000000000000 ≤ n ∧ n < 0x8000000000000000 then (n % codeBound).toNat else 255

/-- The end of a process by an exception that nobody handles. -/
def escaped (noise : List Noise) (r : Raised) : Escape → Ending
  | .exit value =>
    match value with
    | .null => ⟨[], noise, .code 0⟩
    | .int n => ⟨[], noise, .code (exitCodeOf n)⟩
    | .bool b => ⟨[], noise, .code (if b then 1 else 0)⟩
    -- a value without a text leaves an empty line
    | other =>
      ⟨[], noise ++ [.line ((other.text maxCalls).toOption.getD [])], .code failedCode⟩
  | .interrupt => ⟨[], noise ++ report, .signal 2⟩
  | .failure => ⟨[], noise ++ report, .code failedCode⟩
where
  report : List Noise :=
    [.line (ofString "Traceback (most recent call last):"),
      .line (r.name ++ if r.message.isEmpty then [] else ofString ": " ++ r.message)]

/-- The end of a process whose engine cannot be imported. -/
def unimportable (noise : List Noise) (r : Raised) : Ending :=
  match r.escape with
  | some e => escaped noise r e
  | none =>
    ⟨[], noise ++ [.line (ofString "cannot import paddleocr: " ++ r.message)],
      .code unavailableCode⟩

/-- The end of a process in which an exception was raised after the engine had been imported. -/
def failed (noise : List Noise) (r : Raised) : Ending :=
  match r.escape with
  | some e => escaped noise r e
  | none => ⟨[], noise ++ [.line (r.name ++ ofString ": " ++ r.message)], .code failedCode⟩

/-- The exception for an engine that is not installed. -/
def notInstalled : Raised :=
  ⟨ofString "ModuleNotFoundError", ofString "No module named 'paddleocr'", none⟩

/-- Import the engine. -/
def start (engine : Option Engine) : Turn Engine :=
  match engine with
  | none => ⟨[], .error notInstalled⟩
  | some e => ⟨e.importing.noise, e.importing.result.map fun _ => e⟩

/-- Named options from the value of the options argument. -/
def named : Datum → Except Raised (List (Datum × Datum))
  | .dict entries => .ok entries
  | x => .error (Raised.typeError
      ("paddleocr.PaddleOCR() argument after ** must be a mapping, not " ++ x.typeName))

/-- The written form of an answer. -/
def written (answer : Datum) : Except Raised Bytes :=
  answer.listed.bind fun answer => (answer.plain programRoom).bind fun data =>
    (data.dump documentRoom).map Text.encode

/-- Build an engine, have it read an image and write down its answer. -/
def recognizing (e : Engine) (image options : CodePoints) : Turn Bytes :=
  match (load options).bind named with
  | .error raised => ⟨[], .error raised⟩
  | .ok o =>
    let built := e.building o
    match built.result with
    | .error raised => ⟨built.noise, .error raised⟩
    | .ok () =>
      let answered := e.answering o image
      ⟨built.noise ++ answered.noise, answered.result.bind written⟩

/-- The usage of the program. -/
def usage : String :=
  "PaddleOCR bridge for ocrtext.\n\nUsage:\n    paddle_ocr_bridge.py probe\n"
    ++ "    paddle_ocr_bridge.py recognize <image> <options-json>\n\n"
    ++ "Exit status 2 means paddleocr could not be imported, 1 any other failure.\n"
    ++ "The recognition result is written to stdout as ASCII JSON; everything else\n"
    ++ "the engine prints, at the Python or file-descriptor level, goes to stderr.\n\n"

/-- The process in mode `probe`. -/
def probe (engine : Option Engine) : Ending :=
  let started := start engine
  match started.result with
  | .error raised => unimportable started.noise raised
  | .ok _ => ⟨[], started.noise, .code 0⟩

/-- The process in mode `recognize`. -/
def recognize (engine : Option Engine) (image options : CodePoints) : Ending :=
  let started := start engine
  match started.result with
  | .error raised => unimportable started.noise raised
  | .ok e =>
    let done := recognizing e image options
    let noise := started.noise ++ done.noise
    match done.result with
    | .error raised => failed noise raised
    | .ok result => ⟨result, noise, .code 0⟩

/-- The end of a process that was not asked properly. -/
def unasked : Ending := ⟨[], [.text (ofString usage)], .code failedCode⟩

/-- How the built-in program ends with its arguments. -/
def ending (engine : Option Engine) (arguments : List Bytes) : Ending :=
  match arguments.map ofArgument with
  | [mode] => if mode = ofString "probe" then probe engine else unasked
  | [mode, image, options] =>
    if mode = ofString "recognize" then recognize engine image options else unasked
  | _ => unasked

/-- The process of the built-in program with its arguments, and with the encoding of its error
stream. -/
def serve (errors : Encoding) (engine : Option Engine) (arguments : List Bytes) : Finished :=
  (ending engine arguments).finished errors

end Engine

end ImageText
