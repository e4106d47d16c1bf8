import ImageText.Json.Fault
import ImageText.SystemError

/-!
# Failures

Everything that can go wrong between an image and its text, sorted by what a caller can do about
it: `exitCode` tells an engine that is not there from every other failure.
-/

namespace ImageText

/-- Why there is no text. -/
inductive Failure where
  /-- The engine cannot be used at all. -/
  | unavailable (engine message : String)
  /-- The engine can be used and did not recognize the image. -/
  | recognition (message : String)
  /-- A call to the system failed. -/
  | system (error : SystemError)
  /-- The engine's answer is no JSON document. -/
  | unreadable (refusal : Json.Refusal)
  deriving DecidableEq, Repr

namespace Failure

/-- The words for a failure. -/
def message : Failure → String
  | unavailable engine message => engine ++ " is not available: " ++ message
  | recognition message => "recognition failed: " ++ message
  | system error => "I/O error: " ++ error.message
  | unreadable refusal => "unreadable engine output: " ++ refusal.message

/-- A failure in full, for a log. -/
def detail : Failure → String
  | unavailable engine message =>
    "CapabilityUnavailable \x7b engine: " ++ Text.quotedString engine ++ ", message: "
      ++ Text.quotedString message ++ " \x7d"
  | recognition message => "Recognition(" ++ Text.quotedString message ++ ")"
  | system error => "Io(" ++ error.detail ++ ")"
  | unreadable refusal =>
    "Json(Error(" ++ Text.quotedString refusal.fault.message ++ ", line: "
      ++ toString refusal.line ++ ", column: " ++ toString refusal.column ++ "))"

/-- The words for what lies beneath a failure, if it wraps something. -/
def source? : Failure → Option String
  | system error => some error.message
  | unreadable refusal => some refusal.message
  | _ => none

/-- The exit code for a failure: 2 when the engine cannot be used, 1 otherwise. -/
def exitCode : Failure → UInt8
  | unavailable _ _ => 2
  | _ => 1

end Failure

end ImageText
