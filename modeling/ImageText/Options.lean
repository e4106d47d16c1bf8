import ImageText.Json.Printer

/-!
# Options of a recognition

What the engine is told besides the image: the language, and three preparatory steps that are all
left out unless asked for. They travel to the engine as one compact JSON object whose members keep
the order of the declaration.
-/

namespace ImageText

/-- The language unless another is given. -/
def defaultLang : String := "en"

/-- The options of a recognition. -/
structure Options where
  lang : String := defaultLang
  /-- Find out which way up the page is. -/
  orientation : Bool := false
  /-- Flatten a bent page. -/
  unwarping : Bool := false
  /-- Find out which way up each line is. -/
  lineOrientation : Bool := false
  deriving DecidableEq, Repr, Inhabited

namespace Options

/-- The key of the language. -/
def langKey : String := "lang"

/-- The key of `orientation`. -/
def orientationKey : String := "use_doc_orientation_classify"

/-- The key of `unwarping`. -/
def unwarpingKey : String := "use_doc_unwarping"

/-- The key of `lineOrientation`. -/
def lineOrientationKey : String := "use_textline_orientation"

/-- The options as members, in the order of the declaration. -/
def members (o : Options) : List (String × Json.Value) :=
  [(langKey, .string o.lang), (orientationKey, .bool o.orientation),
    (unwarpingKey, .bool o.unwarping), (lineOrientationKey, .bool o.lineOrientation)]

/-- The options as a JSON object. -/
def chars (o : Options) : List Char :=
  '\x7b' :: (Json.memberChars o.members ++ ['\x7d'])

/-- The options as a JSON object, ready to be an argument. -/
def encode (o : Options) : Bytes := Text.encode o.chars

end Options

end ImageText
