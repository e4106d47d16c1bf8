import ImageText.Proofs.Engine.Descriptors
import ImageText.Proofs.Engine.Noise
import ImageText.Proofs.Engine.Ordinary
import ImageText.Proofs.Steady

/-!
# Noise is not heard

An engine may write what it likes, and some of it may look like an answer or like a report. The output of
the process is claimed before the engine is imported, so its noise goes to the error stream
(`piped_eq`), where a failure is reported behind it. Two engines that do the same and differ in the whole
lines that they write cannot be told apart by the output, the exit code, or the text or failure that comes
of them:

> `noise_unheard`: the same output and exit of every process, and the same result of every extraction.

The comparison of two runs follows the course of one: the other takes the same course, and what was
written differs in whole lines at every point where the course can end. An exception that asks to exit is
left out. It is not reported, and then the last line of the noise would be taken for what the process has
to say.
-/

namespace ImageText

namespace Engine

/-! ## Reports -/

/-- An exception that does not ask to exit, so a process that ends by it says so. -/
def Raised.Reported (r : Raised) : Prop := ∀ value, r.escape ≠ some (.exit value)

theorem reported_ordinary {r : Raised} (h : r.escape = none) : r.Reported := by
  intro value hvalue
  cases h.symm.trans hvalue

/-- The end of a process that writes a report behind the noise and no output. -/
def Reports (conclude : List Noise → Ending) : Prop :=
  ∃ report x, Spoken report ∧ x ≠ .code 0 ∧ ∀ noise, conclude noise = ⟨[], noise ++ report, x⟩

theorem spoken_line {s : CodePoints} (h : 0x3A ∈ s) : Spoken [.line s] :=
  ⟨⟨[], s, rfl⟩, s ++ [0x0A], List.mem_singleton_self _, List.mem_append_left _ h⟩

theorem spoken_report (r : Raised) : Spoken (escaped.report r) :=
  ⟨⟨[_], _, rfl⟩, ofString "Traceback (most recent call last):" ++ [0x0A], List.mem_cons_self ..,
    by decide⟩

section Raised

variable {r : Raised}

theorem reports_escaped {e : Escape} (h : r.escape = some e) (hr : r.Reported) :
    Reports fun noise => escaped noise r e := by
  cases e with
  | exit value => exact absurd h (hr value)
  | interrupt => exact ⟨_, .signal 2, spoken_report r, by decide, fun _ => rfl⟩
  | failure => exact ⟨_, .code failedCode, spoken_report r, by decide, fun _ => rfl⟩

theorem reports_unimportable (hr : r.Reported) : Reports fun noise => unimportable noise r := by
  unfold unimportable
  cases h : r.escape with
  | none =>
    refine ⟨_, _, spoken_line ?_, by decide, fun _ => rfl⟩
    exact List.mem_append_left _ (by decide)
  | some e => exact reports_escaped h hr

theorem reports_failed (hr : r.Reported) : Reports fun noise => failed noise r := by
  unfold failed
  cases h : r.escape with
  | none =>
    refine ⟨_, _, spoken_line ?_, by decide, fun _ => rfl⟩
    exact List.mem_append_left _ (List.mem_append_right _ (by decide))
  | some e => exact reports_escaped h hr

end Raised

/-! ## Two ends -/

/-- Ends that cannot be told apart: the same output, the same exit, and the same to say. -/
structure Alike (x y : Ending) : Prop where
  stdout : x.stdout = y.stdout
  exit : x.exit = y.exit
  outcome : ∀ errors, Bridge.outcome (x.finished errors) = Bridge.outcome (y.finished errors)

theorem alike_refl (x : Ending) : Alike x x := ⟨rfl, rfl, fun _ => rfl⟩

/-- A success has nothing to say. -/
theorem alike_success (document : Bytes) (xs ys : List Noise) :
    Alike ⟨document, xs, .code 0⟩ ⟨document, ys, .code 0⟩ :=
  ⟨rfl, rfl, fun _ => rfl⟩

/-- A report is read the same behind noise that differs in whole lines. -/
theorem alike_reports {conclude : List Noise → Ending} (h : Reports conclude) {xs ys : List Noise}
    (hapart : Apart xs ys) : Alike (conclude xs) (conclude ys) := by
  obtain ⟨report, x, hspoken, -, hconclude⟩ := h
  rw [hconclude, hconclude]
  refine ⟨rfl, rfl, fun errors => ?_⟩
  have hcomplaint : Bridge.complaint (Ending.finished errors ⟨[], xs ++ report, x⟩)
      = Bridge.complaint (Ending.finished errors ⟨[], ys ++ report, x⟩) := by
    have hline := lastLine?_apart errors hapart hspoken
    unfold Bridge.complaint
    rw [show (Ending.finished errors ⟨[], xs ++ report, x⟩).stderr = stream errors (xs ++ report)
        from rfl,
      show (Ending.finished errors ⟨[], ys ++ report, x⟩).stderr = stream errors (ys ++ report)
        from rfl, hline]
    rfl
  unfold Bridge.outcome
  rw [hcomplaint]
  rfl

/-! ## Two engines -/

/-- Engines that come to the same at every step and differ in whole lines that they write: however far
a process gets, the same follows those lines. -/
structure Akin (e e' : Engine) : Prop where
  imported : e.importing.result = e'.importing.result
  built : ∀ o, (e.building o).result = (e'.building o).result
  answered : ∀ o image, (e.answering o image).result = (e'.answering o image).result
  importing : Apart e.importing.noise e'.importing.noise
  building : ∀ o, Apart (e.importing.noise ++ (e.building o).noise)
    (e'.importing.noise ++ (e'.building o).noise)
  answering : ∀ o image,
    Apart (e.importing.noise ++ ((e.building o).noise ++ (e.answering o image).noise))
      (e'.importing.noise ++ ((e'.building o).noise ++ (e'.answering o image).noise))

/-- Everything that an engine writes are whole lines. -/
structure Lined (e : Engine) : Prop where
  importing : WholeLines e.importing.noise
  building : ∀ o, WholeLines (e.building o).noise
  answering : ∀ o image, WholeLines (e.answering o image).noise

section Akin

variable {e e' : Engine}

/-- Engines that write whole lines only may write any others. -/
theorem akin_lined (h : Lined e) (h' : Lined e')
    (himported : e.importing.result = e'.importing.result)
    (hbuilt : ∀ o, (e.building o).result = (e'.building o).result)
    (hanswered : ∀ o image, (e.answering o image).result = (e'.answering o image).result) :
    Akin e e' where
  imported := himported
  built := hbuilt
  answered := hanswered
  importing := apart_wholeLines h.importing h'.importing
  building o := apart_wholeLines (wholeLines_append h.importing (h.building o))
    (wholeLines_append h'.importing (h'.building o))
  answering o image := apart_wholeLines
    (wholeLines_append h.importing (wholeLines_append (h.building o) (h.answering o image)))
    (wholeLines_append h'.importing (wholeLines_append (h'.building o) (h'.answering o image)))

theorem imported_akin (h : Akin e e') (hthere : Imported (some e) e) : Imported (some e') e' :=
  ⟨rfl, h.imported.symm.trans hthere.2⟩

theorem unimported_akin (h : Akin e e') {r : Raised} (hr : Unimported (some e) r) :
    Unimported (some e') r :=
  unimported_iff.mpr (h.imported.symm.trans (unimported_iff.mp hr))

/-- **The other engine takes the same course.** -/
theorem course_akin (h : Akin e e') (image options : CodePoints) :
    ∃ noise noise' result, e.Course image options noise result ∧ e'.Course image options noise' result
      ∧ Apart (e.importing.noise ++ noise) (e'.importing.noise ++ noise') := by
  obtain ⟨noise, result, hcourse⟩ := exists_course e image options
  cases hcourse with
  | unread hread =>
    refine ⟨_, _, _, .unread hread, .unread hread, ?_⟩
    rw [List.append_nil, List.append_nil]
    exact h.importing
  | unbuilt ho hbuilt =>
    exact ⟨_, _, _, .unbuilt ho hbuilt, .unbuilt ho (h.built _ ▸ hbuilt), h.building _⟩
  | unanswered ho hbuilt hanswer =>
    exact ⟨_, _, _, .unanswered ho hbuilt hanswer,
      .unanswered ho (h.built _ ▸ hbuilt) (h.answered _ _ ▸ hanswer), h.answering _ _⟩
  | unwritten ho hbuilt hanswer hwritten =>
    exact ⟨_, _, _, .unwritten ho hbuilt hanswer hwritten,
      .unwritten ho (h.built _ ▸ hbuilt) (h.answered _ _ ▸ hanswer) hwritten, h.answering _ _⟩
  | done ho hbuilt hanswer hwritten =>
    exact ⟨_, _, _, .done ho hbuilt hanswer hwritten,
      .done ho (h.built _ ▸ hbuilt) (h.answered _ _ ▸ hanswer) hwritten, h.answering _ _⟩

/-- Every exception that the engine raises is reported. -/
def Speaks (e : Engine) : Prop := ∀ r, e.Raises r → r.Reported

theorem Speaks.unimported (hspeaks : e.Speaks) {r : Raised} (hr : Unimported (some e) r) :
    r.Reported := by
  rcases hr.raised with hordinary | ⟨_, ⟨⟩, hraised⟩
  · exact reported_ordinary hordinary
  · exact hspeaks r hraised

theorem Speaks.course (hspeaks : e.Speaks) {image options : CodePoints} {noise : List Noise}
    {r : Raised} (hcourse : e.Course image options noise (.error r)) : r.Reported :=
  hcourse.raised.elim reported_ordinary (hspeaks r)

theorem probe_akin (h : Akin e e') (hspeaks : e.Speaks) :
    Alike (probe (some e)) (probe (some e')) := by
  rcases imported_or_unimported (some e) with ⟨e₁, hthere⟩ | ⟨r, hr⟩
  · cases hthere.1
    rw [probe_imported hthere, probe_imported (imported_akin h hthere)]
    exact alike_success [] _ _
  · rw [probe_unimported hr, probe_unimported (unimported_akin h hr)]
    exact alike_reports (reports_unimportable (hspeaks.unimported hr)) h.importing

theorem recognize_akin (h : Akin e e') (hspeaks : e.Speaks) (image options : CodePoints) :
    Alike (recognize (some e) image options) (recognize (some e') image options) := by
  rcases imported_or_unimported (some e) with ⟨e₁, hthere⟩ | ⟨r, hr⟩
  · cases hthere.1
    have hthere' := imported_akin h hthere
    obtain ⟨noise, noise', result, hcourse, hcourse', hapart⟩ := course_akin h image options
    cases result with
    | ok document =>
      rw [recognize_done hthere hcourse, recognize_done hthere' hcourse']
      exact alike_success document _ _
    | error r =>
      rw [recognize_raised hthere hcourse, recognize_raised hthere' hcourse']
      exact alike_reports (reports_failed (hspeaks.course hcourse)) hapart
  · rw [recognize_unimported hr, recognize_unimported (unimported_akin h hr)]
    exact alike_reports (reports_unimportable (hspeaks.unimported hr)) h.importing

/-- **Engines that differ in whole lines end alike.** -/
theorem ending_akin (h : Akin e e') (hspeaks : e.Speaks) (arguments : List Bytes) :
    Alike (ending (some e) arguments) (ending (some e') arguments) := by
  unfold ending
  split
  · split
    · exact probe_akin h hspeaks
    · exact alike_refl _
  · split
    · exact recognize_akin h hspeaks _ _
    · exact alike_refl _
  · exact alike_refl _

end Akin

/-! ## What is put out -/

/-- What a process puts out when it ends well: a probe nothing, and a recognition the document that its
course came to. -/
def Payload (e : Engine) (arguments : List Bytes) (stdout : Bytes) : Prop :=
  (arguments.map ofArgument = [ofString "probe"] ∧ stdout = [])
    ∨ ∃ image options noise, arguments.map ofArgument = [ofString "recognize", image, options]
      ∧ e.Course image options noise (.ok stdout)

theorem reports_silent {conclude : List Noise → Ending} (h : Reports conclude) (noise : List Noise) :
    (conclude noise).exit ≠ .code 0 ∧ (conclude noise).stdout = [] := by
  obtain ⟨report, x, -, hx, hconclude⟩ := h
  rw [hconclude]
  exact ⟨hx, rfl⟩

section Output

variable {e : Engine}

theorem probe_output (hspeaks : e.Speaks) :
    (probe (some e)).stdout = [] := by
  rcases imported_or_unimported (some e) with ⟨e₁, hthere⟩ | ⟨r, hr⟩
  · rw [probe_imported hthere]
  · rw [probe_unimported hr]
    exact (reports_silent (reports_unimportable (hspeaks.unimported hr)) _).2

theorem recognize_output (hspeaks : e.Speaks) (image options : CodePoints) :
    (∃ noise, (recognize (some e) image options).exit = .code 0
        ∧ e.Course image options noise (.ok (recognize (some e) image options).stdout))
      ∨ ((recognize (some e) image options).exit ≠ .code 0
        ∧ (recognize (some e) image options).stdout = []) := by
  rcases imported_or_unimported (some e) with ⟨e₁, hthere⟩ | ⟨r, hr⟩
  · cases hthere.1
    obtain ⟨noise, result, hcourse⟩ := exists_course e image options
    cases result with
    | ok document =>
      rw [recognize_done hthere hcourse]
      exact Or.inl ⟨noise, rfl, hcourse⟩
    | error r =>
      rw [recognize_raised hthere hcourse]
      exact Or.inr (reports_silent (reports_failed (hspeaks.course hcourse)) _)
  · rw [recognize_unimported hr]
    exact Or.inr (reports_silent (reports_unimportable (hspeaks.unimported hr)) _)

/-- A process puts out its document if it ends well, and nothing otherwise. -/
theorem ending_output (hspeaks : e.Speaks) (arguments : List Bytes) :
    ((ending (some e) arguments).exit = .code 0 →
        Payload e arguments (ending (some e) arguments).stdout)
      ∧ ((ending (some e) arguments).exit ≠ .code 0 → (ending (some e) arguments).stdout = []) := by
  have hunasked : unasked.exit = .code 0 → False := by decide
  unfold ending Payload
  split
  next mode hmode =>
    split
    next hprobe =>
      rw [hmode, hprobe]
      exact ⟨fun _ => Or.inl ⟨rfl, probe_output hspeaks⟩, fun _ => probe_output hspeaks⟩
    next => exact ⟨fun h => (hunasked h).elim, fun _ => rfl⟩
  next mode image options hmode =>
    split
    next hrecognize =>
      rw [hmode, hrecognize]
      rcases recognize_output hspeaks image options with ⟨noise, hexit, hcourse⟩ | ⟨hexit, hout⟩
      · exact ⟨fun _ => Or.inr ⟨image, options, noise, rfl, hcourse⟩, fun h => absurd hexit h⟩
      · exact ⟨fun h => absurd h hexit, fun _ => hout⟩
    next => exact ⟨fun h => (hunasked h).elim, fun _ => rfl⟩
  next => exact ⟨fun h => (hunasked h).elim, fun _ => rfl⟩

end Output

end Engine

namespace Bridge

/-! ## On this side -/

section Extract

variable {e e' : Engine}

/-- Engines that differ in whole lines come to the same answer here. -/
theorem answer_akin (h : Engine.Akin e e') (hspeaks : e.Speaks) (errors : Engine.Encoding)
    (refused : Command → Option SystemError) (c : Command) :
    answer c (started errors (some e) refused c) = answer c (started errors (some e') refused c) := by
  unfold started
  cases refused c with
  | some error => rfl
  | none =>
    have houtcome := (Engine.ending_akin h hspeaks c.arguments).outcome errors
    show (outcome (Engine.serve errors (some e) c.arguments)).map _
      = (outcome (Engine.serve errors (some e') c.arguments)).map _
    rw [Engine.serve, Engine.serve, houtcome]
    rfl

theorem recognized_akin (h : Engine.Akin e e') (hspeaks : e.Speaks) (errors : Engine.Encoding)
    (refused : Command → Option SystemError) (b : Bridge) (image : Path) (o : Options)
    (found : Bool) :
    recognized b image o found (started errors (some e) refused (b.recognizing image o))
      = recognized b image o found (started errors (some e') refused (b.recognizing image o)) := by
  rw [recognized, recognized, reading, reading, answer_akin h hspeaks]

end Extract

/-- **Noise never reaches the result.** For two engines that come to the same at every step and differ in
whole lines that they write, and whose exceptions are all reported: with the same arguments, what comes
through the pipes of their processes is the same output, and they exit in the same way. The output is the
document that was written if the process ends well, and nothing otherwise. And an extraction comes to the
same text or to the same failure, on any two systems with the same files that refuse to start the same
processes. -/
theorem noise_unheard {e e' : Engine} (hakin : Engine.Akin e e') (hspeaks : e.Speaks)
    (errors : Engine.Encoding) :
    (∀ arguments,
        let child := Engine.serve errors (some e) arguments
        let child' := Engine.serve errors (some e') arguments
        child = (Engine.ending (some e) arguments).piped errors
          ∧ child' = (Engine.ending (some e') arguments).piped errors
          ∧ child.stdout = child'.stdout ∧ child.exit = child'.exit
          ∧ (child.exit = .code 0 → e.Payload arguments child.stdout)
          ∧ (child.exit ≠ .code 0 → child.stdout = []))
      ∧ ∀ {σ σ' : Type} {host : Host (StateM σ)} {host' : Host (StateM σ')} {found : Path → Bool}
          {refused : Command → Option SystemError} {b : Bridge}, b.script = none →
          Runs host errors (some e) found refused → Runs host' errors (some e') found refused →
          ∀ (note : Record → StateM σ Unit) (note' : Record → StateM σ' Unit) (i : Invocation)
            (s : σ) (s' : σ'),
            ((b.recognizer host note).extract note i s).1
              = ((b.recognizer host' note').extract note' i s').1 := by
  refine ⟨fun arguments => ?_, ?_⟩
  · have halike := Engine.ending_akin hakin hspeaks arguments
    have houtput := Engine.ending_output hspeaks arguments
    exact ⟨(Engine.piped_eq errors _).symm, (Engine.piped_eq errors _).symm, halike.stdout,
      halike.exit, houtput.1, houtput.2⟩
  · intro σ σ' host host' found refused b hembedded hruns hruns' note note' i s s'
    rw [extract_steady (hruns.steady hembedded i.image i.options),
      extract_steady (hruns'.steady hembedded i.image i.options), answer_akin hakin hspeaks,
      recognized_akin hakin hspeaks]

/-- A stand-in writes whole lines, whatever it is told. -/
theorem lined_standIn (told : Stage.StandIn) : told.engine.Lined :=
  ⟨Engine.wholeLines_printed _, fun _ => Engine.wholeLines_nil, fun _ _ => Engine.wholeLines_native _⟩

/-- Which lines it writes makes no other difference to it. -/
theorem akin_standIn (told : Stage.StandIn) (lines nativeLines : List String) :
    Engine.Akin told.engine { told with noise := lines, nativeNoise := nativeLines }.engine :=
  Engine.akin_lined (lined_standIn _) (lined_standIn _) rfl (fun _ => rfl) fun _ _ => rfl

/-- An engine that fails when it should answer. -/
def failing : Stage.StandIn :=
  { ocrError := some (Engine.Raised.ofArguments "ValueError" [.str (Engine.ofString "boom")]) }

theorem speaks_failing : failing.engine.Speaks := by
  intro r hr
  cases hr with
  | importing h => cases h
  | @building o _ h =>
    change failing.build o = .error r at h
    unfold Stage.StandIn.build at h
    split at h
    · cases h
      exact Engine.reported_ordinary rfl
    · cases h
  | answering h =>
    cases h
    exact Engine.reported_ordinary rfl

/-- It makes no difference that it writes an answer, and a report of something else. -/
theorem noise_unheard_failing :
    ((recognizer (m := StateM Unit) (servingHost (some failing.engine)) (fun _ => pure ())
        ⟨[], none⟩).extract (fun _ => pure ()) ⟨[0x61], "en"⟩ ()).1
      = ((recognizer (m := StateM Unit) (servingHost (some { failing with
            noise := ["[\x7b\"rec_texts\": [\"Hello\"]\x7d]"],
            nativeNoise := ["RuntimeError: no image"] }.engine)) (fun _ => pure ())
        ⟨[], none⟩).extract (fun _ => pure ()) ⟨[0x61], "en"⟩ ()).1 :=
  (noise_unheard (akin_standIn failing _ _) speaks_failing .utf8).2 rfl (runs_servingHost _)
    (runs_servingHost _) _ _ _ _ _

end Bridge

end ImageText
