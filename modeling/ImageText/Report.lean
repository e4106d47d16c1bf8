import ImageText.Failure
import ImageText.Fragment
import ImageText.Invocation
import ImageText.Log
import ImageText.Outlet

/-!
# From an invocation to an exit code

`extract` loads a recognizer, has it recognize one image and takes the text out of its answer.
`run` is the behaviour of the whole program towards its two outlets: a text that is not empty goes
to `out` with a line feed behind it, and a failure goes to `err` as one message. Both are told how to
keep records, and neither looks at what becomes of them.
-/

namespace ImageText

/-- Something that recognizes the text of images. -/
structure Recognizer (m : Type → Type) where
  name : String
  /-- Make it ready, or find out that it cannot be used. -/
  load : m (Except Failure Unit)
  /-- Its answer to one image. -/
  recognize : Path → Options → m (Except Failure Json.Value)

namespace Recognizer

variable {m : Type → Type} [Monad m]

/-- The text of one image, possibly empty. -/
def extract (recognizer : Recognizer m) (note : Record → m Unit) (i : Invocation) :
    m (Except Failure String) := do
  match ← recognizer.load with
  | .error failure => return .error failure
  | .ok () =>
    note ⟨.debug, Record.apiTarget, recognizer.name ++ " loaded"⟩
    match ← recognizer.recognize i.image i.options with
    | .error failure => return .error failure
    | .ok answer => return .ok (Fragment.flatten answer)

end Recognizer

namespace Report

variable {m : Type → Type} [Monad m]

/-- The line feed. -/
def lineEnd : Bytes := utf8 "\n"

/-- Write a message for the user. That this fails has no further consequence. -/
def complain (err : Outlet m) (message : List String) : m Unit := do
  let _ ← err.writePieces ((utf8 "error: ") :: message.map utf8 ++ [lineEnd])

/-- Write a text with a line feed behind it, and flush it. -/
def print (out : Outlet m) (text : String) : m (Except SystemError Unit) := do
  match ← out.writePieces [utf8 text, lineEnd] with
  | .error error => return .error error
  | .ok () => out.flush

/-- Tell the outcome of an extraction, and the exit code for it. -/
def tell (note : Record → m Unit) (out err : Outlet m) (image : Path) :
    Except Failure String → m UInt8
  | .error failure => do
    note ⟨.warn, Record.apiTarget, failure.detail⟩
    complain err [failure.message]
    return failure.exitCode
  | .ok text => do
    if text.isEmpty then
      note ⟨.debug, Record.apiTarget,
        "No text found in " ++ String.ofList (Text.quotedPath image)⟩
      return 0
    else match ← print out text with
      | .ok () => return 0
      | .error error =>
        complain err ["cannot write output: ", error.message]
        return 1

/-- Extract the text of one image and tell the outcome. -/
def run (note : Record → m Unit) (out err : Outlet m) (recognizer : Recognizer m)
    (i : Invocation) : m UInt8 := do
  tell note out err i.image (← recognizer.extract note i)

end Report

end ImageText
