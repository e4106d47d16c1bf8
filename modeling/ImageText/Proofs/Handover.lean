import ImageText.Proofs.Crossing
import ImageText.Proofs.Json.Printer

/-!
# How the options are handed over

The options go to the engine's process as one argument. An argument cannot hold a zero byte, and a
language can: it is written as an escape, like every other character below `20`, so the argument holds
none of them. On the other side it is decoded, read as JSON, and its members become the named options
that the engine is built with. Nothing is lost on the way:

> `options_handed`: the engine is built with the four options as they were given, and for an
> invocation these are its language and no preparatory step.
-/

namespace ImageText

namespace Engine

/-- The named options for a language, code point for code point, and three steps. -/
def keywords (lang : List Char) (orientation unwarping lineOrientation : Bool) :
    List (Datum × Datum) :=
  [(.str (ofString "lang"), .str (lang.map Char.toNat)),
    (.str (ofString "use_doc_orientation_classify"), .bool orientation),
    (.str (ofString "use_doc_unwarping"), .bool unwarping),
    (.str (ofString "use_textline_orientation"), .bool lineOrientation)]

/-- Build an engine with named options, have it read an image and write down its answer. -/
def asked (e : Engine) (given : List (Datum × Datum)) (image : CodePoints) : Turn Bytes :=
  match (e.building given).result with
  | .error raised => ⟨(e.building given).noise, .error raised⟩
  | .ok () =>
    ⟨(e.building given).noise ++ (e.answering given image).noise,
      (e.answering given image).result.bind written⟩

theorem namedOptions_eq (o : Options) :
    namedOptions o = keywords o.lang.toList o.orientation o.unwarping o.lineOrientation :=
  rfl

/-- What is read of the options is what the engine is built with and asked with. -/
theorem recognizing_named {options : CodePoints} {given : List (Datum × Datum)}
    (h : load options = .ok (.dict given)) (e : Engine) (image : CodePoints) :
    recognizing e image options = e.asked given image := by
  have hnamed : (load options).bind named = .ok given := by
    rw [h]
    rfl
  rw [recognizing, hnamed]
  rfl

end Engine

/-- The argument for the options holds no control character. -/
theorem Options.printable_encode (o : Options) : ∀ b ∈ o.encode, 0x20 ≤ b :=
  Json.printable_encode (Json.printable_enclosed (by decide) (Json.printable_members o.members)
    (by decide))

namespace Bridge

variable {σ : Type}

/-- An extraction starts the probe, and besides it only a recognition with its own options. -/
theorem Course.launched {b : Bridge} {i : Invocation} {result : Except Failure String}
    {seen : List Event} (h : Course b i result seen) {c : Command}
    {reply : Except SystemError Finished} (hmem : .launched c reply ∈ seen) :
    c.arguments = [utf8 "probe"]
      ∨ c.arguments = [utf8 "recognize", i.image, i.options.encode] := by
  have hprobing : b.probing.arguments = [utf8 "probe"] := rfl
  have hrecognizing : (b.recognizing i.image i.options).arguments
      = [utf8 "recognize", i.image, i.options.encode] := rfl
  cases h with
  | unprobed ha =>
    simp only [List.mem_cons, List.not_mem_nil, or_false, Event.launched.injEq] at hmem
    rw [hmem.1]
    exact Or.inl hprobing
  | missing ha =>
    simp only [List.mem_cons, List.not_mem_nil, or_false, Event.launched.injEq, reduceCtorEq] at hmem
    rw [hmem.1]
    exact Or.inl hprobing
  | recognized ended ha =>
    simp only [List.mem_cons, List.not_mem_nil, or_false, Event.launched.injEq, reduceCtorEq,
      false_or] at hmem
    rcases hmem with ⟨rfl, -⟩ | ⟨rfl, -⟩
    · exact Or.inl hprobing
    · exact Or.inr hrecognizing

/-- **The options reach the engine as they are.** For all options, the argument that carries them holds
no zero byte and no control character; the engine's side reads in it a dictionary of the four options,
the language code point for code point; and these are the named options that any engine is built with
and asked with. Whatever the system of an extraction does, a process that is started is the probe, or a
recognition whose options are the language of the invocation and no preparatory step. -/
theorem options_handed (o : Options) (engine : Option Engine) (e : Engine) (image : Path)
    (host : Host (StateM σ)) (note : Record → StateM σ Unit) (b : Bridge) (i : Invocation) (s : σ) :
    let given := Engine.keywords o.lang.toList o.orientation o.unwarping o.lineOrientation
    let options := Engine.ofArgument o.encode
    let run := (b.recognizer host.recorded (aside note)).extract (aside note) i (s, [])
    ((0 : UInt8) ∉ o.encode ∧ ∀ byte ∈ o.encode, 0x20 ≤ byte)
      ∧ Engine.load options = .ok (.dict given)
      ∧ Engine.ending engine (b.recognizing image o).arguments
          = Engine.recognize engine (Engine.ofArgument image) options
      ∧ Engine.recognizing e (Engine.ofArgument image) options
          = e.asked given (Engine.ofArgument image)
      ∧ ∀ c reply, .launched c reply ∈ run.2.2 →
          c.arguments = [utf8 "probe"]
          ∨ ∃ argument, c.arguments = [utf8 "recognize", i.image, argument]
            ∧ Engine.load (Engine.ofArgument argument)
              = .ok (.dict (Engine.keywords i.lang.toList false false false)) := by
  intro given options run
  have hload : ∀ o : Options, Engine.load (Engine.ofArgument o.encode)
      = .ok (.dict (Engine.keywords o.lang.toList o.orientation o.unwarping o.lineOrientation)) := by
    intro o
    rw [Engine.load_options, Engine.namedOptions_eq]
  refine ⟨⟨?_, o.printable_encode⟩, hload o, Engine.ending_recognize engine image o.encode,
    Engine.recognizing_named (hload o) e _, ?_⟩
  · intro hzero
    exact absurd (o.printable_encode 0 hzero) (by decide)
  · intro c reply hmem
    obtain ⟨result, last, seen, hrun, hcourse⟩ := extract_course host note b i s
    have hseen : run.2.2 = seen := by
      show ((b.recognizer host.recorded (aside note)).extract (aside note) i (s, [])).2.2 = seen
      rw [hrun]
    rw [hseen] at hmem
    rcases hcourse.launched hmem with hprobe | hrecognize
    · exact Or.inl hprobe
    · exact Or.inr ⟨i.options.encode, hrecognize, hload i.options⟩

end Bridge

end ImageText
