import ImageText.Proofs.Crossing
import ImageText.Proofs.Engine.Legible

/-!
# Answers that are lost

A process that recognized an image ends well when its answer is written, whether or not what it wrote
can be read. So an answer can be lost after everything has succeeded: a score that is no number, a text
with half a character in it, a whole number without bounds, or 128 lists in one another.

> `recognize_heard`: an answer is read exactly if the engine came to one and its plain data are legible
> and not nested too deeply; every other success is refused as unreadable.

A process can also end well without an answer, when the engine asks its interpreter to exit, and then
there is nothing to read.
-/

namespace ImageText

namespace Engine

/-- An answer that can be read: it has plain data, and they are legible, with at most 127 brackets open
at once. -/
def Datum.Readable (answer : Datum) : Prop :=
  ∃ d data, answer.listed = .ok d ∧ d.plain programRoom = .ok data ∧ data.Legible ∧ data.depth ≤ 127

/-- The engine is there, and it answers an image with something that can be read. -/
def Heard (engine : Option Engine) (image : Path) (o : Options) : Prop :=
  ∃ e answer, engine = some e ∧ e.Answers image o answer ∧ answer.Readable

/-- What an engine answers are values of the interpreter. -/
def Interpreted (engine : Option Engine) : Prop :=
  ∀ e given image answer, engine = some e → (e.answering given image).result = .ok answer →
    answer.Proper

/-! ## What was written -/

/-- There is room for 127 brackets. -/
theorem readable_written {answer : Datum} (h : answer.Readable) :
    ∃ bytes, written answer = .ok bytes := by
  obtain ⟨d, data, hlisted, hdata, hlegible, hdepth⟩ := h
  obtain ⟨cs, hcs⟩ : ∃ cs, data.dump documentRoom = .ok cs :=
    Datum.legible_dump data hlegible (Nat.le_trans hdepth (by decide))
  exact ⟨Text.encode cs, written_eq hlisted hdata hcs⟩

/-- What was written is a document exactly if the answer can be read. -/
theorem readDocument_written {answer : Datum} (hproper : answer.Proper) {bytes : Bytes}
    (h : written answer = .ok bytes) :
    (∃ v, Json.readDocument bytes = .ok v) ↔ answer.Readable := by
  obtain ⟨d, data, cs, hlisted, hdata, hcs, rfl⟩ := written_ok h
  have hplain := Datum.proper_plain d (Datum.proper_listed hproper hlisted) hdata
  rw [Datum.readDocument_legible hplain hcs]
  constructor
  · rintro ⟨hlegible, hdepth⟩
    exact ⟨d, data, hlisted, hdata, hlegible, hdepth⟩
  · rintro ⟨d', data', hlisted', hdata', hlegible, hdepth⟩
    cases hlisted.symm.trans hlisted'
    cases hdata.symm.trans hdata'
    exact ⟨hlegible, hdepth⟩

theorem readDocument_nil : ¬ ∃ v, Json.readDocument [] = .ok v := by
  rintro ⟨v, hv⟩
  cases hv

/-! ## Ends of the process -/

theorem stdout_escaped (noise : List Noise) (r : Raised) (e : Escape) :
    (escaped noise r e).stdout = [] := by
  unfold escaped
  split
  · split <;> rfl
  · rfl
  · rfl

/-- A process in which something was raised has written nothing. -/
theorem stdout_failed (noise : List Noise) (r : Raised) : (failed noise r).stdout = [] := by
  unfold failed
  split
  · exact stdout_escaped _ _ _
  · rfl

theorem stdout_unimportable (noise : List Noise) (r : Raised) :
    (unimportable noise r).stdout = [] := by
  unfold unimportable
  split
  · exact stdout_escaped _ _ _
  · rfl

/-- What comes of recognizing is what is written for an answer. -/
theorem answers_of_recognizing {e : Engine} {image : Path} {o : Options} {bytes : Bytes}
    (himport : e.importing.result = .ok ())
    (h : (recognizing e (ofArgument image) (ofArgument o.encode)).result = .ok bytes) :
    ∃ answer, e.Answers image o answer ∧ written answer = .ok bytes := by
  rw [recognizing, load_named] at h
  dsimp only at h
  -- neither building nor answering raised anything
  cases hbuilt : (e.building (namedOptions o)).result with
  | error raised => rw [hbuilt] at h; cases h
  | ok built =>
    rw [hbuilt] at h
    dsimp only at h
    cases hanswered : (e.answering (namedOptions o) (ofArgument image)).result with
    | error raised => rw [hanswered] at h; cases h
    | ok answer =>
      rw [hanswered] at h
      exact ⟨answer, ⟨himport, hbuilt, hanswered⟩, h⟩

/-- **Two ways for a recognition to end.** The engine comes to an answer and it is written; or nothing
is written at all. -/
theorem recognize_ends (engine : Option Engine) (image : Path) (o : Options) :
    (∃ e answer, engine = some e ∧ e.Answers image o answer
        ∧ written answer
          = .ok (recognize engine (ofArgument image) (ofArgument o.encode)).stdout)
      ∨ ((recognize engine (ofArgument image) (ofArgument o.encode)).stdout = []
        ∧ ∀ e answer, engine = some e → e.Answers image o answer →
          ∀ bytes, written answer ≠ .ok bytes) := by
  cases engine with
  | none => exact Or.inr ⟨stdout_unimportable _ _, fun e answer he => nomatch he⟩
  | some e =>
    cases himport : e.importing.result with
    | error raised =>
      refine Or.inr ⟨?_, ?_⟩
      · rw [recognize, start, himport]
        exact stdout_unimportable _ _
      · intro e' answer he hanswers
        cases he
        cases himport.symm.trans hanswers.imported
    | ok imported =>
      -- the engine is there, and what it does decides
      have hstart : (start (some e)).result = .ok e := by
        rw [start, himport]
        rfl
      cases hdone : (recognizing e (ofArgument image) (ofArgument o.encode)).result with
      | ok bytes =>
        obtain ⟨answer, hanswers, hwritten⟩ := answers_of_recognizing himport hdone
        refine Or.inl ⟨e, answer, rfl, hanswers, ?_⟩
        rw [(recognize_answers hanswers hwritten).1, hwritten]
      | error raised =>
        refine Or.inr ⟨?_, ?_⟩
        · rw [recognize, hstart]
          dsimp only
          rw [hdone]
          exact stdout_failed _ _
        · intro e' answer he hanswers bytes hwritten
          cases he
          have hresult := recognizing_answers hanswers
          rw [hdone, hwritten] at hresult
          cases hresult

theorem Answers.unique {e : Engine} {image : Path} {o : Options} {answer answer' : Datum}
    (h : e.Answers image o answer) (h' : e.Answers image o answer') : answer = answer' :=
  Except.ok.inj (h.answered.symm.trans h'.answered)

/-- **What is read in the output of a recognition.** -/
theorem readDocument_recognize {engine : Option Engine} (hproper : Interpreted engine) (image : Path)
    (o : Options) :
    (∃ v, Json.readDocument (recognize engine (ofArgument image) (ofArgument o.encode)).stdout = .ok v)
      ↔ Heard engine image o := by
  rcases recognize_ends engine image o with ⟨e, answer, he, hanswers, hwritten⟩ | ⟨hout, hnone⟩
  · rw [readDocument_written (hproper e _ _ answer he hanswers.answered) hwritten]
    constructor
    · intro hreadable
      exact ⟨e, answer, he, hanswers, hreadable⟩
    · rintro ⟨e', answer', he', hanswers', hreadable⟩
      cases he.symm.trans he'
      rwa [hanswers.unique hanswers']
  · rw [hout]
    refine iff_of_false readDocument_nil ?_
    rintro ⟨e, answer, he, hanswers, hreadable⟩
    obtain ⟨bytes, hwritten⟩ := readable_written hreadable
    exact hnone e answer he hanswers bytes hwritten

theorem exit_of_heard {engine : Option Engine} {image : Path} {o : Options}
    (h : Heard engine image o) :
    (recognize engine (ofArgument image) (ofArgument o.encode)).exit = .code 0 := by
  obtain ⟨e, answer, rfl, hanswers, hreadable⟩ := h
  obtain ⟨bytes, hwritten⟩ := readable_written hreadable
  exact (recognize_answers hanswers hwritten).2

end Engine

namespace Bridge

variable {σ : Type}

/-- **What becomes of a success.** For every engine, whatever it answers, and every image and options:
a process of the built-in program that ends well has written a document exactly if the engine came to
an answer that can be read, and recognition then comes to a value; every other success is refused as
unreadable. An answer that can be read is always a success. -/
theorem recognize_heard {host : Host (StateM σ)} {b : Bridge} {image : Path} {o : Options}
    {errors : Engine.Encoding} {engine : Option Engine} (hproper : Engine.Interpreted engine)
    (hserves : Serves host b image o errors engine) (note : Record → StateM σ Unit) (s : σ) :
    let child := Engine.serve errors engine (b.recognizing image o).arguments
    let result := (b.recognize host note image o s).1
    (child.exit = .code 0 →
        ((∃ v, Json.readDocument child.stdout = .ok v) ↔ Engine.Heard engine image o)
        ∧ ((∃ v, result = .ok v) ↔ Engine.Heard engine image o)
        ∧ (¬ Engine.Heard engine image o → ∃ refusal, result = .error (.unreadable refusal)))
      ∧ (Engine.Heard engine image o → child.exit = .code 0) := by
  intro child result
  obtain ⟨hstdout, hcode⟩ := Engine.serve_recognize errors engine image o.encode
  have hread : (∃ v, Json.readDocument child.stdout = .ok v) ↔ Engine.Heard engine image o := by
    rw [← Engine.readDocument_recognize hproper image o, ← hstdout]
    rfl
  obtain ⟨elapsed, hresult⟩ := recognize_serves hserves note s
  refine ⟨fun hexit => ⟨hread, ?_, ?_⟩, fun hheard => hcode.trans (Engine.exit_of_heard hheard)⟩
  · rw [← hread]
    constructor
    · rintro ⟨v, hv⟩
      obtain ⟨f, hf, -, hdoc⟩ := reading_ok.mp (hresult.symm.trans hv)
      cases hf
      exact ⟨v, hdoc⟩
    · rintro ⟨v, hv⟩
      exact ⟨v, hresult.trans (reading_ok.mpr ⟨_, rfl, hexit, hv⟩)⟩
  · intro hlost
    cases hr : result with
    | ok v =>
      obtain ⟨f, hf, -, hdoc⟩ := reading_ok.mp (hresult.symm.trans hr)
      cases hf
      exact absurd (hread.mp ⟨v, hdoc⟩) hlost
    | error failure =>
      rcases reading_error (hresult.symm.trans hr) with ha | ⟨f, refusal, -, -, -, rfl⟩
      · have hpassed : (child.lasting elapsed).exit = .code 0 := hexit
        cases (answer_passed (b.recognizing image o) hpassed).symm.trans ha
      · exact ⟨refusal, rfl⟩

/-- One record with a text and a score that is no number. -/
def unscored : Engine.Datum :=
  .list [.dict
    [(.str (Engine.ofString Fragment.textsKey), .list [.str (Engine.ofString "Hello")]),
      (.str (Engine.ofString "rec_scores"), .list [.float .nan])]]

/-- An engine that finds the record. -/
def unscoredEngine : Engine := Stage.StandIn.engine { result := .ok unscored }

/-- The process in which it does. -/
def unscoredChild : Finished :=
  Engine.serve .utf8 (some unscoredEngine)
    [utf8 "recognize", [0x61], Options.encode { lang := "en" }]

theorem interpreted_unscored : Engine.Interpreted (some unscoredEngine) := by
  rintro _ given image answer ⟨⟩ ⟨⟩
  have htexts : ∀ s ∈ [Engine.ofString Fragment.textsKey, Engine.ofString "Hello",
      Engine.ofString "rec_scores"], ∀ n ∈ s, n < Engine.pointBound := by decide
  exact ⟨⟨⟨htexts _ (by simp), htexts _ (by simp), trivial⟩, ⟨htexts _ (by simp), trivial, trivial⟩,
    trivial⟩, trivial⟩

theorem not_heard_unscored : ¬ Engine.Heard (some unscoredEngine) [0x61] { lang := "en" } := by
  rintro ⟨_, answer, ⟨⟩, hanswers, d, data, hlisted, hdata, hlegible, -⟩
  cases hanswers.answered
  cases hlisted
  cases hdata
  exact hlegible.1.2.1.2.1

theorem exit_unscored : unscoredChild.exit = .code 0 := by
  obtain ⟨bytes, hwritten⟩ : ∃ bytes, Engine.written unscored = .ok bytes := ⟨_, rfl⟩
  rw [unscoredChild, (Engine.serve_recognize _ _ _ _).2]
  exact (Engine.recognize_answers (answers_standIn [0x61] { lang := "en" } unscored) hwritten).2

/-- The text in the record is lost. -/
theorem recognize_heard_unscored :
    ∃ refusal, (recognize (m := StateM Unit) (answeringHost unscored) (fun _ => pure ()) ⟨[], none⟩
      [0x61] { lang := "en" } ()).1 = .error (.unreadable refusal) := by
  have hserves : Serves (answeringHost unscored) ⟨[], none⟩ [0x61] { lang := "en" } .utf8
      (some unscoredEngine) :=
    ⟨rfl, fun _ => rfl, fun c _ s => ⟨"", s, rfl⟩⟩
  exact ((recognize_heard interpreted_unscored hserves (fun _ => pure ()) ()).1 exit_unscored).2.2
    not_heard_unscored

/-- The process ends well, and what it wrote is no document. -/
theorem unscored_no_document :
    unscoredChild.exit = .code 0 ∧ ¬ ∃ v, Json.readDocument unscoredChild.stdout = .ok v := by
  refine ⟨exit_unscored, ?_⟩
  rw [unscoredChild, (Engine.serve_recognize _ _ _ _).1,
    Engine.readDocument_recognize interpreted_unscored]
  exact not_heard_unscored

end Bridge

end ImageText
