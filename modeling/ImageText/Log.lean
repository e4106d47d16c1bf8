/-!
# Log records

What the program says about its own work, for whoever asked to listen. A record has a level, the
part of the program that it comes from, and a message. Where records go is decided elsewhere.
-/

namespace ImageText

/-- How urgent a record is. -/
inductive Level where
  | error
  | warn
  | info
  | debug
  | trace
  deriving DecidableEq, Repr

namespace Level

/-- The place among the levels, the most urgent first. -/
def rank : Level → Nat
  | error => 1
  | warn => 2
  | info => 3
  | debug => 4
  | trace => 5

/-- The name as it is shown. -/
def name : Level → String
  | error => "ERROR"
  | warn => "WARN"
  | info => "INFO"
  | debug => "DEBUG"
  | trace => "TRACE"

end Level

/-- One record. -/
structure Record where
  level : Level
  target : String
  message : String
  deriving DecidableEq, Repr

namespace Record

/-- The names of a record's fields. -/
def fields : List String := ["message"]

/-- The part that turns an invocation into text. -/
def apiTarget : String := "ocrtext::api"

/-- The part that talks to the engine. -/
def engineTarget : String := "ocrtext::engine::paddle"

/-- The part that serves the command line. -/
def programTarget : String := "ocrtext::cli::runner"

end Record

end ImageText
