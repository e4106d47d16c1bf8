import ImageText.Proofs.Program.Run

/-!
# The exit code of a run

An exit code is all that another program learns of a run, and 2 is to tell it that the engine is not
there. For runs that get as far as the engine that is so: the code is 2 exactly if a child process could
not be started or said so itself, and 1 for everything else that goes wrong. But a command line that is
refused ends with 2 as well, before anything is started, so who reads the code alone cannot tell a
misused command line from a missing engine. Runs that cannot write the log they were asked for go on
here, as `Program` says.

> `exit_told`: what each of the three codes says,
> `misuse_taken_for_absence`: a command line without an image ends with the code for a missing engine.
-/

namespace ImageText

/-- A child process could not be started, or said that the engine is not there. -/
def Unavailable (seen : List Event) : Prop := ∃ c reply, .launched c reply ∈ seen ∧ Bridge.Absent reply

namespace Bridge

variable {b : Bridge} {i : Invocation} {seen : List Event} {result : Except Failure String}

/-- Nothing is asked after a process that did not pass. -/
theorem Course.unavailable_iff (h : Course b i result seen) :
    Unavailable seen ↔ LastWas Absent seen := by
  obtain ⟨probed, hseen⟩ := h.order
  rcases hseen with ⟨-, rfl⟩ | ⟨-, rfl⟩ | ⟨hpassed, ended, rfl⟩
  · simp [Unavailable, LastWas, lastReply?]
  · simp [Unavailable, LastWas, lastReply?]
  · have hlast : lastReply? [Event.launched b.probing probed, .looked i.image true,
        .launched (b.recognizing i.image i.options) ended] = some ended := rfl
    constructor
    · rintro ⟨c, reply, hmem, habsent⟩
      have hreply : reply = probed ∨ reply = ended := by
        simp only [List.mem_cons, List.not_mem_nil, Event.launched.injEq, reduceCtorEq, or_false,
          false_or] at hmem
        exact hmem.imp And.right And.right
      rcases hreply with rfl | rfl
      · exact absurd habsent (not_absent_of_passed hpassed)
      · exact ⟨reply, hlast, habsent⟩
    · rintro ⟨reply, hreply, habsent⟩
      cases hlast.symm.trans hreply
      exact ⟨b.recognizing i.image i.options, ended, by simp, habsent⟩

/-- Where there is a text, nothing went wrong. -/
theorem Course.blameless {t : String} (h : Course b i (.ok t) seen) :
    ¬ Unavailable seen ∧ .looked i.image false ∉ seen ∧ ¬ LastWas Broken seen
      ∧ ¬ Garbled b i seen := by
  obtain ⟨f, v, hmem, hexit, hread, -⟩ := (h.ok_iff t).mp rfl
  have hother := (probing_ne_recognizing b i.image i.options).symm
  obtain ⟨probed, hseen⟩ := h.order
  rcases hseen with ⟨-, rfl⟩ | ⟨-, rfl⟩ | ⟨hpassed, ended, rfl⟩
  · simp [hother] at hmem
  · simp [hother] at hmem
  · have hended : ended = .ok f := (launched_iff f).mp hmem
    subst hended
    have hlast : lastReply? [Event.launched b.probing probed, .looked i.image true,
        .launched (b.recognizing i.image i.options) (.ok f)] = some (.ok f) := rfl
    obtain ⟨habsent, hbroken⟩ := lastWas_passed hlast ⟨f, rfl, hexit⟩
    refine ⟨fun h' => habsent (h.unavailable_iff.mp h'), by simp, hbroken, ?_⟩
    rintro ⟨g, hg, -, hnone⟩
    cases (launched_iff g).mp hg
    exact hnone ⟨v, hread⟩

end Bridge

namespace Program

open Report (textLine)

variable {α β ρ κ : Type}

/-- The command line is refused. -/
def Refused (given : Surroundings) : Prop :=
  ∃ refusal, CommandLine.read given.arguments given.interpreter = .error (.refused refusal)

/-- The command line asks for a text about the program itself. -/
def Inquires (given : Surroundings) : Prop :=
  CommandLine.read given.arguments given.interpreter = .error .help
    ∨ CommandLine.read given.arguments given.interpreter = .error .version

/-- The second process wrote a document, and this is its text. -/
def Recognized (s : CommandLine.Settings) (text : String) (seen : List Event) : Prop :=
  ∃ f v, .launched ((bridgeOf s).recognizing s.input (invocationOf s).options) (.ok f) ∈ seen
    ∧ f.exit = .code 0 ∧ Json.readDocument f.stdout = .ok v ∧ text = Fragment.flatten v

/-- There is no image, the last process failed, or the second one wrote no document. -/
def Unrecognized (s : CommandLine.Settings) (seen : List Event) : Prop :=
  .looked s.input false ∈ seen ∨ Bridge.LastWas Bridge.Broken seen
    ∨ Bridge.Garbled (bridgeOf s) (invocationOf s) seen

/-- All of a text was stored with its line feed, and flushed. -/
def Delivered (text : String) (outs : List Stroke) : Prop :=
  stored outs = textLine text ∧ .flushed (.ok ()) ∈ outs

/-- What each exit code says of a run, of what was asked in it, and of what was done to the output. -/
structure ExitTold (given : Surroundings) (seen : List Event) (outs : List Stroke) (code : UInt8) :
    Prop where
  two : code = 2 ↔ Refused given ∨ Unavailable seen
  one : code = 1 ↔ ∃ s, CommandLine.read given.arguments given.interpreter = .ok s
    ∧ (Unrecognized s seen ∨ ∃ text, text ≠ "" ∧ Recognized s text seen ∧ ¬ Delivered text outs)
  zero : code = 0 ↔ Inquires given ∨ ∃ s text,
    CommandLine.read given.arguments given.interpreter = .ok s ∧ Recognized s text seen
      ∧ (text = "" ∨ Delivered text outs)
  /-- Nothing is started for a command line that is refused. -/
  unasked : Refused given → seen = []

section Accepted

variable {given : Surroundings} {s : CommandLine.Settings} {seen : List Event} {outs : List Stroke}
  {code : UInt8}

theorem not_refused (hread : CommandLine.read given.arguments given.interpreter = .ok s) :
    ¬ Refused given := by
  rintro ⟨refusal, h⟩
  cases hread.symm.trans h

theorem not_inquires (hread : CommandLine.read given.arguments given.interpreter = .ok s) :
    ¬ Inquires given := by
  rintro (h | h) <;> cases hread.symm.trans h

theorem exitTold_answered {answer : CommandLine.Answer}
    (hread : CommandLine.read given.arguments given.interpreter = .error answer) :
    ExitTold given [] outs answer.exitCode := by
  have hunavailable : ¬ Unavailable [] := fun ⟨_, _, hmem, _⟩ => nomatch hmem
  have haccepted : ∀ s, CommandLine.read given.arguments given.interpreter ≠ .ok s := by
    intro s h
    cases hread.symm.trans h
  cases answer <;>
    constructor <;>
      simp [CommandLine.Answer.exitCode, Refused, Inquires, hread, hunavailable]

/-- A text was recognized. -/
theorem exitTold_text (hread : CommandLine.read given.arguments given.interpreter = .ok s)
    {text : String} (hcourse : Bridge.Course (bridgeOf s) (invocationOf s) (.ok text) seen)
    (hzero : code = 0 ↔ text = "" ∨ Delivered text outs) (hone : code ≠ 0 → code = 1) :
    ExitTold given seen outs code := by
  obtain ⟨hunavailable, hlooked, hbroken, hgarbled⟩ := hcourse.blameless
  have hrecognized : ∀ t, Recognized s t seen ↔ text = t := by
    intro t
    rw [← (Except.ok.injEq text t : _ = _)]
    exact (hcourse.ok_iff t).symm
  have hunrecognized : ¬ Unrecognized s seen := fun h => h.elim hlooked (·.elim hbroken hgarbled)
  have hcode : code = 0 ∨ code = 1 := or_iff_not_imp_left.mpr hone
  refine ⟨?_, ?_, ?_, fun h => absurd h (not_refused hread)⟩
  · refine iff_of_false ?_ (not_or.mpr ⟨not_refused hread, hunavailable⟩)
    rcases hcode with h | h <;> rw [h] <;> decide
  · constructor
    · intro h
      have hmissing : ¬ (text = "" ∨ Delivered text outs) := by
        rw [← hzero, h]
        decide
      rw [not_or] at hmissing
      exact ⟨s, hread, Or.inr ⟨text, hmissing.1, (hrecognized text).mpr rfl, hmissing.2⟩⟩
    · rintro ⟨s', hread', hcase⟩
      cases hread.symm.trans hread'
      rcases hcase with h | ⟨t, hne, ht, hmissing⟩
      · exact absurd h hunrecognized
      · cases (hrecognized t).mp ht
        exact hone (mt hzero.mp (not_or.mpr ⟨hne, hmissing⟩))
  · constructor
    · intro h
      exact Or.inr ⟨s, text, hread, (hrecognized text).mpr rfl, hzero.mp h⟩
    · rintro (h | ⟨s', t, hread', ht, hdone⟩)
      · exact absurd h (not_inquires hread)
      · cases hread.symm.trans hread'
        cases (hrecognized t).mp ht
        exact hzero.mpr hdone

/-- There is no text. -/
theorem exitTold_failure (hread : CommandLine.read given.arguments given.interpreter = .ok s)
    {failure : Failure} (hcourse : Bridge.Course (bridgeOf s) (invocationOf s) (.error failure) seen) :
    ExitTold given seen outs failure.exitCode := by
  have hblames := hcourse.blames
  have hnone : ∀ t, ¬ Recognized s t seen := fun t ht => nomatch (hcourse.ok_iff t).mpr ht
  have hunrecognized : Unrecognized s seen
      ↔ (∃ message, failure = .recognition message) ∨ ∃ refusal, failure = .unreadable refusal := by
    rw [hblames.recognition, hblames.unreadable, or_assoc]
    rfl
  have htwo : failure.exitCode = 2 ↔ ∃ message, failure = .unavailable Bridge.engineName message := by
    rcases hblames.code with ⟨hcode, h⟩ | ⟨hcode, h⟩
    · exact iff_of_true hcode h
    · exact iff_of_false (by rw [hcode]; decide) h
  have hone : failure.exitCode = 1
      ↔ (∃ message, failure = .recognition message) ∨ ∃ refusal, failure = .unreadable refusal := by
    cases failure with
    | unavailable engine message =>
      exact iff_of_false (show ¬ (2 : UInt8) = 1 by decide) (by simp)
    | recognition message => exact iff_of_true rfl (Or.inl ⟨message, rfl⟩)
    | system error => exact absurd rfl (hblames.noSystem error)
    | unreadable refusal => exact iff_of_true rfl (Or.inr ⟨refusal, rfl⟩)
  refine ⟨?_, ?_, ?_, fun h => absurd h (not_refused hread)⟩
  · rw [htwo, hblames.unavailable, ← hcourse.unavailable_iff]
    exact (or_iff_right (not_refused hread)).symm
  · rw [hone, ← hunrecognized]
    constructor
    · exact fun h => ⟨s, hread, Or.inl h⟩
    · rintro ⟨s', hread', h | ⟨t, -, ht, -⟩⟩
      · cases hread.symm.trans hread'
        exact h
      · cases hread.symm.trans hread'
        exact absurd ht (hnone t)
  · refine iff_of_false (Report.exitCode_ne_zero failure) ?_
    rintro (h | ⟨s', t, hread', ht, -⟩)
    · exact not_inquires hread h
    · cases hread.symm.trans hread'
      exact hnone t ht

end Accepted

/-- **What the exit code says.** Whatever the command line, the environment, the system and the devices,
a run ends with 2 exactly if its command line is refused or the engine is unavailable: a child process
could not be started, or exited with code 2. It ends with 1 exactly if there is no image, a child process
failed in another way, the answer is no document, or the text could not be delivered; and with 0 exactly
if the text is delivered or empty, or the command line asks for a text about the program. For a command
line that is refused nothing is started. -/
theorem exit_told (host : Host (StateM ρ)) (time : StateM κ String) (out : Device α) (err : Device β)
    (given : Surroundings) (o : Taped α) (e : Taped β) (system : ρ) (clock : κ) :
    let run := onScene host time out err given (Scene.start o e system clock)
    ∃ outs, run.2.out.tape = o.tape ++ outs ∧ ExitTold given run.2.rest.2 outs run.1 := by
  intro run
  cases hread : CommandLine.read given.arguments given.interpreter with
  | error answer =>
    obtain ⟨hcode, hrest, outs, htape⟩ :=
      run_answered host time out err given hread (Scene.start o e system clock)
    refine ⟨outs, htape, ?_⟩
    rw [show run.1 = answer.exitCode from hcode,
      show run.2.rest.2 = [] from congrArg Prod.snd hrest]
    exact exitTold_answered hread
  | ok s =>
    have hcourse := run_course host time out err given o e system clock hread
    obtain ⟨hcode, halike, -⟩ := run_called host time out err given hread (Scene.start o e system clock)
    have hobeys := Report.obeys_run out err (callOf κ host s) (Scene.start o e system clock)
    rw [← hcode] at hobeys
    generalize ((callOf κ host s).extraction (Scene.start o e system clock).rest).1 = result
      at hcourse hobeys
    obtain ⟨outs, errs, hout, -, -, hcase⟩ := hobeys
    refine ⟨outs, (congrArg Taped.tape halike.out).trans hout, ?_⟩
    cases result with
    | error failure =>
      obtain ⟨-, hfailed, -⟩ := hcase
      rw [show run.1 = failure.exitCode from hfailed]
      exact exitTold_failure hread hcourse
    | ok text =>
      dsimp only at hcase
      by_cases hempty : text = ""
      · rw [if_pos hempty] at hcase
        exact exitTold_text hread hcourse (iff_of_true hcase.2.2 (Or.inl hempty))
          (fun h => absurd hcase.2.2 h)
      · rw [if_neg hempty] at hcase
        obtain ⟨-, -, hzero, -, hone⟩ := hcase
        exact exitTold_text hread hcourse (hzero.trans (or_iff_right hempty).symm)
          (fun h => (hone h).1)

/-- A system on which every process passes and every path is a file. -/
def passingHost (stdout : Bytes) : Host (StateM Unit) where
  isFile _ := pure true
  launch _ := pure (.ok ⟨stdout, [], .code 0, ""⟩)

/-- A command line without an image ends with the code for a missing engine, on a system where every
process passes. -/
theorem misuse_taken_for_absence :
    let run := onScene (passingHost (utf8 "[]")) (pure "" : StateM Unit String) Sink.device Sink.device
      ⟨[], none, none, none, none⟩ (Scene.start ⟨{}, []⟩ ⟨{}, []⟩ () ())
    run.1 = 2 ∧ ¬ Unavailable run.2.rest.2 := by
  intro run
  have hread : CommandLine.read [] none = .error (.refused (.missingInput (.naming []))) := rfl
  obtain ⟨hcode, hrest, -⟩ := run_answered (passingHost (utf8 "[]")) (pure "" : StateM Unit String)
    Sink.device Sink.device ⟨[], none, none, none, none⟩ hread (Scene.start ⟨{}, []⟩ ⟨{}, []⟩ () ())
  refine ⟨hcode, ?_⟩
  rw [show run.2.rest.2 = [] from congrArg Prod.snd hrest]
  exact fun ⟨_, _, hmem, _⟩ => nomatch hmem

end Program

end ImageText
