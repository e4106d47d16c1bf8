import ImageText.Engine.Serve
import ImageText.Proofs.Bridge
import ImageText.Proofs.Engine.Ascii
import ImageText.Proofs.Engine.Options
import ImageText.Proofs.Engine.RoundTrip
import ImageText.Stage.StandIn

/-!
# From the engine to the text

The whole way of an answer: the built-in program reads the options, builds the engine and has it read
the image, what it answers is made plain and written down, and on this side it is read again and put
together to a text.

> `extract_carried`: an answer that JSON can carry comes through as its tree.

The engine is any engine, and the system any system on which the child processes are those of the
built-in program. How long they run and what else changes in the system is left open.
-/

namespace ImageText

open Json (Value)

namespace Engine

/-! ## What is written -/

namespace Datum

/-- An answer that JSON can carry: nothing, or values in a list, in a tuple, or one by one. -/
def Carried : Datum → Prop
  | null => True
  | list items | tuple items | generator items => AllPortable items
  | _ => False

/-- Such an answer is a list of values that JSON can carry. -/
theorem carried_listed {answer : Datum} (h : answer.Carried) :
    ∃ d : Datum, answer.listed = .ok d ∧ d.Portable ∧ d.depth = answer.depth
      ∧ d.tree = answer.tree := by
  cases answer with
  | null => exact ⟨null, rfl, trivial, rfl, rfl⟩
  | list items => exact ⟨list items, rfl, h, rfl, rfl⟩
  | tuple items => exact ⟨tuple items, rfl, h, rfl, rfl⟩
  | generator items => exact ⟨list items, rfl, h, rfl, rfl⟩
  | _ => exact absurd h id

end Datum

/-- What it takes to write down an answer: its plain data, and what is written for them. -/
theorem written_ok {answer : Datum} {bytes : Bytes} (h : written answer = .ok bytes) :
    ∃ (d data : Datum) (cs : List Char), answer.listed = .ok d ∧ d.plain programRoom = .ok data
      ∧ data.dump documentRoom = .ok cs ∧ bytes = Text.encode cs := by
  obtain ⟨d, hlisted, h⟩ := bind_ok h
  obtain ⟨data, hdata, h⟩ := bind_ok h
  obtain ⟨cs, hcs, rfl⟩ := map_ok h
  exact ⟨d, data, cs, hlisted, hdata, hcs, rfl⟩

theorem written_listed {answer d : Datum} (hlisted : answer.listed = .ok d) :
    written answer
      = (d.plain programRoom).bind fun data => (data.dump documentRoom).map Text.encode := by
  rw [written, hlisted]
  rfl

theorem written_eq {answer d data : Datum} {cs : List Char} (hlisted : answer.listed = .ok d)
    (hdata : d.plain programRoom = .ok data) (hcs : data.dump documentRoom = .ok cs) :
    written answer = .ok (Text.encode cs) := by
  rw [written_listed hlisted, hdata]
  show (data.dump documentRoom).map Text.encode = _
  rw [hcs]
  rfl

theorem ascii_written {answer : Datum} {bytes : Bytes} (h : written answer = .ok bytes) :
    ∀ b ∈ bytes, b < 0x80 := by
  obtain ⟨d, data, cs, -, -, hcs, rfl⟩ := written_ok h
  exact fun b hb => lt_of_mem_encode (Datum.ascii_dump data hcs) hb

/-- **What is written for an answer that JSON can carry is read as its tree.** For 127 containers in one
another there is room in the interpreter. -/
theorem written_carried {answer : Datum} (h : answer.Carried) (hdepth : answer.depth ≤ 127) :
    ∃ bytes, written answer = .ok bytes ∧ Json.readDocument bytes = .ok answer.tree := by
  obtain ⟨d, hlisted, hportable, hd, htree⟩ := Datum.carried_listed h
  rw [← hd] at hdepth
  have hcalls : 2 * 127 + 3 ≤ programRoom := by decide
  obtain ⟨data, hdata⟩ : ∃ data, d.plain programRoom = .ok data :=
    Datum.exists_plain hportable (by omega)
  have hcarries : data.Carries (127 + 1) d.tree :=
    Datum.carries_plain d hportable (Nat.lt_succ_of_le hdepth) hdata
  obtain ⟨cs, hcs⟩ : ∃ cs, data.dump documentRoom = .ok cs := hcarries.written (by decide)
  have hread := Datum.readDocument_dump hcarries.proper hcs
  rw [show Json.bracketBudget = 127 + 1 from rfl, hcarries.read, htree] at hread
  refine ⟨Text.encode cs, written_eq hlisted hdata hcs, ?_⟩
  cases hdoc : Json.readDocument (Text.encode cs) with
  | error refusal => rw [hdoc] at hread; cases hread
  | ok v => rw [hdoc] at hread; cases hread; rfl

/-! ## The two processes -/

theorem ofArgument_utf8 (s : String) : ofArgument (utf8 s) = ofString s := ofArgument_encode _

theorem ending_probe (engine : Option Engine) : ending engine [utf8 "probe"] = probe engine := by
  rw [ending, List.map_singleton, ofArgument_utf8]
  exact if_pos rfl

theorem ending_recognize (engine : Option Engine) (image options : Bytes) :
    ending engine [utf8 "recognize", image, options]
      = recognize engine (ofArgument image) (ofArgument options) := by
  rw [ending, List.map_cons, ofArgument_utf8]
  exact if_pos rfl

theorem serve_recognize (errors : Encoding) (engine : Option Engine) (image options : Bytes) :
    (serve errors engine [utf8 "recognize", image, options]).stdout
        = (recognize engine (ofArgument image) (ofArgument options)).stdout
      ∧ (serve errors engine [utf8 "recognize", image, options]).exit
        = (recognize engine (ofArgument image) (ofArgument options)).exit := by
  rw [serve, ending_recognize]
  exact ⟨rfl, rfl⟩

/-- What an engine does with an image and options when nothing is raised. -/
structure Answers (e : Engine) (image : Path) (o : Options) (answer : Datum) : Prop where
  imported : e.importing.result = .ok ()
  built : (e.building (namedOptions o)).result = .ok ()
  answered : (e.answering (namedOptions o) (ofArgument image)).result = .ok answer

section Answers

variable {e : Engine} {image : Path} {o : Options} {answer : Datum}

theorem start_answers (h : e.Answers image o answer) : (start (some e)).result = .ok e := by
  rw [start, h.imported]
  rfl

theorem probe_answers (h : e.Answers image o answer) : (probe (some e)).exit = .code 0 := by
  rw [probe, start_answers h]

theorem load_named (o : Options) : (load (ofArgument o.encode)).bind named = .ok (namedOptions o) := by
  rw [load_options]
  rfl

/-- What the engine comes to is what is written for its answer. -/
theorem recognizing_answers (h : e.Answers image o answer) :
    (recognizing e (ofArgument image) (ofArgument o.encode)).result = written answer := by
  rw [recognizing, load_named]
  dsimp only
  rw [h.built]
  dsimp only
  rw [h.answered]
  rfl

/-- An answer that can be written is what the process puts out. -/
theorem recognize_answers (h : e.Answers image o answer) {bytes : Bytes}
    (hwritten : written answer = .ok bytes) :
    (recognize (some e) (ofArgument image) (ofArgument o.encode)).stdout = bytes
      ∧ (recognize (some e) (ofArgument image) (ofArgument o.encode)).exit = .code 0 := by
  have hdone := recognizing_answers h
  rw [hwritten] at hdone
  rw [recognize, start_answers h]
  dsimp only
  rw [hdone]
  exact ⟨rfl, rfl⟩

end Answers

end Engine

/-- The same end of a process that ran for another time. -/
def Finished.lasting (f : Finished) (elapsed : String) : Finished :=
  ⟨f.stdout, f.stderr, f.exit, elapsed⟩

namespace Bridge

variable {σ : Type}

/-- A system on which the built-in program runs with an engine, and where an image is a file. -/
structure Serves (host : Host (StateM σ)) (b : Bridge) (image : Path) (o : Options)
    (errors : Engine.Encoding) (engine : Option Engine) : Prop where
  embedded : b.script = none
  file : ∀ s, (host.isFile image s).1 = true
  child : ∀ c, c = b.probing ∨ c = b.recognizing image o → ∀ s, ∃ elapsed next,
    host.launch c s = (.ok ((Engine.serve errors engine c.arguments).lasting elapsed), next)

section Serves

variable {host : Host (StateM σ)} {b : Bridge} {image : Path} {o : Options}
  {errors : Engine.Encoding} {engine : Option Engine}

/-- Recognition comes to what the process has written. -/
theorem recognize_serves (h : Serves host b image o errors engine) (note : Record → StateM σ Unit)
    (s : σ) :
    ∃ elapsed, (b.recognize host note image o s).1 = reading (b.recognizing image o)
      (.ok ((Engine.serve errors engine (b.recognizing image o).arguments).lasting elapsed)) := by
  obtain ⟨found, next, hfile, hcases⟩ := recognize_run host note b image o s
  have hfound : found = true := by
    have := h.file s
    rwa [hfile] at this
  rcases hcases with ⟨hmissing, -⟩ | ⟨-, before, after, ended, last, hlaunch, hrun⟩
  · rw [hfound] at hmissing
    cases hmissing
  · obtain ⟨elapsed, next', hserve⟩ := h.child _ (Or.inr rfl) (noted note before next)
    obtain ⟨hended, -⟩ := Prod.mk.inj (hserve.symm.trans hlaunch)
    exact ⟨elapsed, by rw [hrun, ← hended]⟩

/-- With an engine that is there, an extraction comes to what the second process has written. -/
theorem extract_serves {i : Invocation} (h : Serves host b i.image i.options errors engine)
    (hprobe : (Engine.probe engine).exit = .code 0) (note : Record → StateM σ Unit) (s : σ) :
    ∃ elapsed,
      ((b.recognizer host note).extract note i s).1
        = (reading (b.recognizing i.image i.options)
            (.ok ((Engine.serve errors engine
              (b.recognizing i.image i.options).arguments).lasting elapsed))).map
                Fragment.flatten := by
  obtain ⟨before, after, probed, s₁, hlaunch, hcases⟩ := extract_run host note b i s
  obtain ⟨elapsed, next, hserve⟩ := h.child _ (Or.inl rfl) (noted note before s)
  obtain ⟨hprobed, -⟩ := Prod.mk.inj (hserve.symm.trans hlaunch)
  have hpassed : ((Engine.serve errors engine b.probing.arguments).lasting elapsed).exit
      = .code 0 := by
    show (Engine.ending engine [utf8 "probe"]).exit = .code 0
    rw [Engine.ending_probe, hprobe]
  have hanswer := answer_passed b.probing hpassed
  rw [hprobed] at hanswer
  rcases hcases with ⟨failure, ha, -⟩ | ⟨out, -, found, s₂, hfile, hcases⟩
  -- the probe passed
  · cases hanswer.symm.trans ha
  · have hfound : found = true := by
      have := h.file (noted note after s₁)
      rwa [hfile] at this
    rcases hcases with ⟨hmissing, -⟩ | ⟨-, between, last, ended, s₃, hrec, hrun⟩
    · rw [hfound] at hmissing
      cases hmissing
    · obtain ⟨elapsed, next, hserve⟩ := h.child _ (Or.inr rfl) (noted note between s₂)
      obtain ⟨hended, -⟩ := Prod.mk.inj (hserve.symm.trans hrec)
      exact ⟨elapsed, by rw [hrun, ← hended]⟩

end Serves

/-- **An answer comes through.** For every engine whose answer is made of what JSON can carry, with at
most 127 containers open at once, the process of the built-in program succeeds and writes ASCII that is
read as the tree of the answer, and the text of the image is the text of the tree. -/
theorem extract_carried {host : Host (StateM σ)} {b : Bridge} {i : Invocation} {errors : Engine.Encoding}
    {e : Engine} {answer : Engine.Datum} (hserves : Serves host b i.image i.options errors (some e))
    (hanswers : e.Answers i.image i.options answer) (hcarried : answer.Carried) (hdepth : answer.depth ≤ 127)
    (note : Record → StateM σ Unit) (s : σ) :
    let child := Engine.serve errors (some e) (b.recognizing i.image i.options).arguments
    child.exit = .code 0
      ∧ (∀ byte ∈ child.stdout, byte < 0x80)
      ∧ Json.readDocument child.stdout = .ok answer.tree
      ∧ ((b.recognizer host note).extract note i s).1 = .ok (Fragment.flatten answer.tree) := by
  intro child
  obtain ⟨bytes, hwritten, hread⟩ :=
    Engine.written_carried hcarried hdepth
  obtain ⟨hout, hcode⟩ := Engine.recognize_answers hanswers hwritten
  obtain ⟨hstdout, hexit⟩ := Engine.serve_recognize errors (some e) i.image i.options.encode
  have hexit : child.exit = .code 0 := hexit.trans hcode
  have hstdout : child.stdout = bytes := hstdout.trans hout
  refine ⟨hexit, ?_, ?_, ?_⟩
  · rw [hstdout]
    exact Engine.ascii_written hwritten
  · rw [hstdout, hread]
  · obtain ⟨elapsed, hextract⟩ :=
      extract_serves hserves (Engine.probe_answers hanswers) note s
    rw [hextract, reading_ok.mpr ⟨child.lasting elapsed, rfl, hexit, by
      rw [← hread, ← hstdout]
      rfl⟩]
    rfl

/-- A system where every path is a file and every child is the built-in program with an engine that
has one answer. -/
def answeringHost (answer : Engine.Datum) : Host (StateM Unit) where
  isFile _ := pure true
  launch c := pure (.ok (Engine.serve .utf8
    (some (Stage.StandIn.engine { result := .ok answer })) c.arguments))

/-- No option has the name under which the stand-in is handed to its builder. -/
theorem answers_standIn (image : Path) (o : Options) (answer : Engine.Datum) :
    (Stage.StandIn.engine { result := .ok answer }).Answers image o answer where
  imported := rfl
  built := by
    have hnames : (Engine.namedOptions o).any
        (fun entry => Stage.StandIn.reserved.sameKey entry.1) = false := by
      have hkeys : ∀ key ∈ [Options.langKey, Options.orientationKey, Options.unwarpingKey,
          Options.lineOrientationKey], (Engine.ofString "self" == Engine.ofString key) = false := by
        decide
      simp only [Engine.namedOptions, Options.members, List.map_cons, List.map_nil, List.any_cons,
        List.any_nil, Stage.StandIn.reserved, Engine.Datum.sameKey, Bool.or_false]
      rw [hkeys _ (by simp), hkeys _ (by simp), hkeys _ (by simp), hkeys _ (by simp)]
      rfl
    show Stage.StandIn.build _ _ = _
    rw [Stage.StandIn.build, hnames]
    rfl
  answered := rfl

/-- One record, read once, with two lines of text and two entries for one key. -/
def twoLines : Engine.Datum :=
  .generator [.dict
    [(.str (Engine.ofString Fragment.textsKey),
        .tuple [.str (Engine.ofString "a\"\n"), .str [0x1D11E]]),
      (.int 1, .null), (.str (Engine.ofString "1"), .int (-2))]]

theorem extract_carried_twoLines :
    ((recognizer (m := StateM Unit) (answeringHost twoLines) (fun _ => pure ()) ⟨[], none⟩).extract
        (fun _ => pure ()) ⟨[0x61], "en"⟩ ()).1 = .ok "a\"\n\n𝄞" := by
  have hserves : Serves (answeringHost twoLines) ⟨[], none⟩ [0x61] { lang := "en" } .utf8
      (some (Stage.StandIn.engine { result := .ok twoLines })) :=
    ⟨rfl, fun _ => rfl, fun c _ s => ⟨"", s, rfl⟩⟩
  have htext : Fragment.flatten twoLines.tree = "a\"\n\n𝄞" := by decide
  have hcarried : twoLines.Carried := by
    have htexts : ∀ s ∈ [Engine.ofString Fragment.textsKey, Engine.ofString "a\"\n", [0x1D11E],
        Engine.ofString "1"], ∀ n ∈ s, Engine.isScalar n = true := by decide
    have hkey : Engine.Short 1 := Engine.Datum.short_of_fits ⟨by decide, by decide⟩
    exact ⟨⟨⟨htexts _ (by simp), htexts _ (by simp), htexts _ (by simp), trivial⟩,
      ⟨hkey, trivial⟩, ⟨htexts _ (by simp), ⟨by decide, by decide⟩⟩, trivial⟩, trivial⟩
  rw [← htext]
  exact (extract_carried hserves (answers_standIn _ _ twoLines) hcarried (by decide) _ _).2.2.2

end Bridge

end ImageText
