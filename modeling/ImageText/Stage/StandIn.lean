import ImageText.Engine.Classes
import ImageText.Engine.Serve

/-!
# A stand-in engine

An engine that does what it is told: lines to write and exceptions to raise at each step, and either
an answer of its own or an echo of what it was given.
-/

namespace ImageText.Stage

open Engine (Datum Raised Turn CodePoints ofString)

/-- What a stand-in engine is told to do. -/
structure StandIn where
  /-- Lines written while it is imported. -/
  noise : List String := []
  importError : Option Raised := none
  initError : Option Raised := none
  /-- Lines written while it works, beneath the interpreter. -/
  nativeNoise : List String := []
  ocrError : Option Raised := none
  /-- Answer with the image and the options it was given. -/
  echo : Bool := false
  result : Except Raised Datum := .ok .null

namespace StandIn

/-- Nothing, unless an exception is to be raised. -/
def orRaise (error : Option Raised) : Except Raised Unit := error.elim (.ok ()) .error

/-- One record whose texts are the image and the options as JSON, which the engine writes in a call of
its own. -/
def echoed (named : List (Datum × Datum)) (image : CodePoints) : Except Raised Datum :=
  ((Datum.dict named).dump (Engine.documentRoom - 1)).map fun options =>
    .list [.dict [(.str (ofString "rec_texts"),
      .list [.str image, .str (Engine.ofChars options)])]]

/-- The name under which the engine itself is handed to its builder, so no option may have it. -/
def reserved : Datum := .str (ofString "self")

/-- Build the engine with named options. -/
def build (s : StandIn) (named : List (Datum × Datum)) : Except Raised Unit :=
  if named.any fun entry => reserved.sameKey entry.1 then
    .error (Raised.typeError "PaddleOCR.__init__() got multiple values for argument 'self'")
  else orRaise s.initError

/-- The engine that does so. -/
def engine (s : StandIn) : Engine where
  importing := ⟨s.noise.map fun l => .line (ofString l), orRaise s.importError⟩
  building named := ⟨[], s.build named⟩
  answering named image :=
    ⟨s.nativeNoise.map fun l => .raw (utf8 (l ++ "\n")),
      (orRaise s.ocrError).bind fun _ => if s.echo then echoed named image else s.result⟩

end StandIn

end ImageText.Stage
