import ImageText.Options
import ImageText.Path
import ImageText.Text.Quoted

/-!
# Invocations

One request for the text of an image: the path and the language.
-/

namespace ImageText

/-- A request for the text of one image. -/
structure Invocation where
  image : Path
  lang : String := defaultLang
  deriving DecidableEq, Repr

namespace Invocation

/-- The same language for the same path, however it is spelled. -/
def same (a b : Invocation) : Bool := Path.same a.image b.image && a.lang == b.lang

/-- The options of the recognition: the language, and no preparatory step. -/
def options (i : Invocation) : Options := { lang := i.lang }

/-- An invocation in full. -/
def detail (i : Invocation) : String :=
  "Invocation \x7b input_path: " ++ String.ofList (Text.quotedPath i.image) ++ ", lang: "
    ++ Text.quotedString i.lang ++ " \x7d"

end Invocation

end ImageText
