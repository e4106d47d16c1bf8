import Mathlib
import ImageText.Proofs.Outlet
import ImageText.Proofs.Text.Scan
import ImageText.Report
import ImageText.Sink

/-!
# What is written, and what the exit code says of it

`Report.run` writes to two devices of which nothing is known. Both keep a tape here, so it can be said
what each call adds to them. A recognizer does its work beside them, on a state of its own.

> `run_discipline`: a failure leaves the output alone and is reported on the error stream; an empty text
> leaves both alone; any other text goes to the output, is flushed once it is stored, and the exit code
> says whether all of it arrived.

The exit code and the output are the same whatever becomes of the error stream, and over many calls
that all end with 0 the output gains the texts, each on lines of its own.
-/

namespace ImageText

namespace Report

/-- The two devices with their tapes, and the state of everything else. -/
structure World (α β τ : Type) where
  out : Taped α
  err : Taped β
  rest : τ

namespace World

variable {α β τ : Type}

/-- The output of a world. -/
def outPart : Part (World α β τ) (Taped α) where
  get := out
  put w s := { w with out := s }
  get_put _ _ := rfl
  put_put _ _ _ := rfl
  put_get _ := rfl

/-- The error stream of a world. -/
def errPart : Part (World α β τ) (Taped β) where
  get := err
  put w s := { w with err := s }
  get_put _ _ := rfl
  put_put _ _ _ := rfl
  put_get _ := rfl

/-- Something that is done beside the two devices. -/
def beside {γ : Type} (act : StateM τ γ) : StateM (World α β τ) γ :=
  fun w => let (x, rest) := act w.rest; (x, { w with rest := rest })

end World

/-- A recognizer that works beside the two devices. -/
def besideRecognizer {α β τ : Type} (r : Recognizer (StateM τ)) :
    Recognizer (StateM (World α β τ)) where
  name := r.name
  load := World.beside r.load
  recognize image options := World.beside (r.recognize image options)

/-- One call: who recognizes, who keeps records, and what is asked for. -/
structure Call (τ : Type) where
  recognizer : Recognizer (StateM τ)
  note : Record → StateM τ Unit
  invocation : Invocation

namespace Call

variable {α β τ : Type}

/-- The extraction that a call makes. -/
def extraction (c : Call τ) (s : τ) : Except Failure String × τ :=
  c.recognizer.extract c.note c.invocation s

/-- The record that is kept of an outcome, if any. -/
def closing (c : Call τ) : Except Failure String → Option Record
  | .error failure => some ⟨.warn, Record.apiTarget, failure.detail⟩
  | .ok text =>
    if text.isEmpty then
      some ⟨.debug, Record.apiTarget,
        "No text found in " ++ String.ofList (Text.quotedPath c.invocation.image)⟩
    else none

/-- The state beside the devices that a call leaves behind. -/
def left (c : Call τ) (s : τ) : τ :=
  match c.closing (c.extraction s).1 with
  | some r => (c.note r (c.extraction s).2).2
  | none => (c.extraction s).2

/-- A call with two devices: its exit code, and the world behind it. -/
def run (c : Call τ) (out : Device α) (err : Device β) (w : World α β τ) :
    UInt8 × World α β τ :=
  Report.run (fun r => World.beside (c.note r)) (World.outPart.outlet out.taped)
    (World.errPart.outlet err.taped) (besideRecognizer c.recognizer) c.invocation w

end Call

section Steps

variable {α β τ : Type}

theorem beside_bind {γ δ : Type} (x : StateM τ γ) (f : γ → StateM τ δ) :
    (World.beside (x >>= f) : StateM (World α β τ) δ)
      = World.beside x >>= fun a => World.beside (f a) :=
  rfl

/-- The extraction of a call happens beside the two devices. -/
theorem extract_beside (r : Recognizer (StateM τ)) (note : Record → StateM τ Unit)
    (i : Invocation) :
    (besideRecognizer r).extract (fun r => World.beside (note r)) i
      = (World.beside (r.extract note i) : StateM (World α β τ) (Except Failure String)) := by
  rw [Recognizer.extract, Recognizer.extract, beside_bind]
  refine congrArg (World.beside r.load >>= ·) (funext fun loaded => ?_)
  cases loaded with
  | error failure => rfl
  | ok u =>
    dsimp only
    rw [beside_bind]
    refine congrArg (World.beside (note _) >>= ·) (funext fun _ => ?_)
    rw [beside_bind]
    refine congrArg (World.beside (r.recognize _ _) >>= ·) (funext fun answer => ?_)
    cases answer <;> rfl

end Steps

/-! ## The two devices -/

section Devices

variable {σ : Type}

/-- The bytes of a message, with its beginning and its line feed. -/
def messagePieces (message : List String) : List Bytes :=
  utf8 "error: " :: message.map utf8 ++ [lineEnd]

/-- What becomes of a device to which a text is printed. -/
def printed (device : Device σ) (s : σ) (text : String) : Except SystemError Unit × σ :=
  match device.writeEach s [utf8 text, lineEnd] with
  | (.error error, s) => (.error error, s)
  | (.ok (), s) => device.flush s

/-- A text with its line feed. -/
def textLine (text : String) : Bytes := utf8 (text ++ "\n")

theorem flatten_messagePieces (message : List String) :
    (messagePieces message).flatten
      = utf8 "error: " ++ ((message.map utf8).flatten ++ lineEnd) := by
  rw [messagePieces, List.flatten_append, List.flatten_cons, List.append_assoc]
  rfl

/-- A message is stored as far as it goes, and nothing is flushed. -/
theorem complaint_taped (device : Device σ) (s : Taped σ) (message : List String) :
    ∃ strokes, (device.taped.writeEach s (messagePieces message)).2.tape = s.tape ++ strokes
      ∧ flushes strokes = 0
      ∧ stored strokes <+: (messagePieces message).flatten := by
  obtain ⟨strokes, htape, hflush, hstores⟩ := device.writeEach_taped s (messagePieces message)
  refine ⟨strokes, htape, hflush, ?_⟩
  cases hr : (device.taped.writeEach s (messagePieces message)).1 with
  | ok u =>
    rw [hr, Stores] at hstores
    exact ⟨[], by rw [hstores, List.append_nil]⟩
  | error error =>
    rw [hr] at hstores
    obtain ⟨rest, -, hstored, -⟩ := hstores
    exact ⟨rest, hstored⟩

/-- What the strokes of an attempt to print a text amount to: it is flushed once, and only if all of it
is stored; and unless it arrives, the last stroke is the refusal that is reported. -/
def Prints (text : String) (strokes : List Stroke) : Except SystemError Unit → Prop
  | .ok () => stored strokes = textLine text ∧ flushes strokes = 1
      ∧ .flushed (.ok ()) ∈ strokes
  | .error error => stored strokes <+: textLine text
      ∧ flushes strokes = (if stored strokes = textLine text then 1 else 0)
      ∧ .flushed (.ok ()) ∉ strokes ∧ EndsWith error strokes

theorem not_flushed_of_flushes {strokes : List Stroke} (h : flushes strokes = 0)
    (result : Except SystemError Unit) : .flushed result ∉ strokes := by
  intro hmem
  have := List.countP_pos_iff.mpr ⟨_, hmem, (rfl : Stroke.isFlush (.flushed result) = true)⟩
  rw [← flushes, h] at this
  exact absurd this (Nat.lt_irrefl 0)

/-- **A text is printed or refused.** -/
theorem printed_taped (device : Device σ) (s : Taped σ) (text : String) :
    ∃ strokes, (printed device.taped s text).2.tape = s.tape ++ strokes
      ∧ Prints text strokes (printed device.taped s text).1 := by
  obtain ⟨strokes, htape, hflush, hstores⟩ := device.writeEach_taped s [utf8 text, lineEnd]
  have hline : [utf8 text, lineEnd].flatten = textLine text := by
    rw [textLine, Text.utf8_append, List.flatten_cons, List.flatten_cons, List.flatten_nil,
      List.append_nil]
    rfl
  rw [hline] at hstores
  rw [printed]
  cases hr : device.taped.writeEach s [utf8 text, lineEnd] with
  | mk reply next =>
    rw [hr] at htape hstores
    cases reply with
    | error error =>
      -- something is missing, and nothing is flushed
      obtain ⟨rest, hne, hstored, hend⟩ := hstores
      refine ⟨strokes, htape, ⟨rest, hstored⟩, ?_, not_flushed_of_flushes hflush _, hend⟩
      rw [hflush, if_neg]
      intro hall
      rw [hall] at hstored
      exact hne (List.append_right_eq_self.mp hstored)
    | ok u =>
      -- all of it is stored, and the flush decides
      have hflushed : (device.taped.flush next).2.tape
          = next.tape ++ [.flushed (device.taped.flush next).1] := rfl
      refine ⟨strokes ++ [.flushed (device.taped.flush next).1], ?_, ?_⟩
      · dsimp only
        rw [hflushed, htape, List.append_assoc]
      · have hall : stored (strokes ++ [.flushed (device.taped.flush next).1]) = textLine text := by
          rw [stored_append, hstores]
          exact List.append_nil _
        have hone : flushes (strokes ++ [.flushed (device.taped.flush next).1]) = 1 := by
          rw [flushes_append, hflush]
          rfl
        dsimp only
        cases hf : (device.taped.flush next).1 with
        | ok u =>
          rw [hf] at hall hone
          exact ⟨hall, hone, List.mem_append_right _ (List.mem_singleton.mpr rfl)⟩
        | error error =>
          rw [hf] at hall hone
          refine ⟨⟨[], by rw [hall, List.append_nil]⟩, by rw [hone, if_pos hall], ?_,
            strokes, _, rfl, rfl⟩
          intro hmem
          rcases List.mem_append.mp hmem with hmem | hmem
          · exact not_flushed_of_flushes hflush _ hmem
          · rw [List.mem_singleton] at hmem
            cases hmem

end Devices

/-! ## One call -/

section Calls

variable {α β τ : Type} (out : Device α) (err : Device β)

theorem run_eq (c : Call τ) (w : World α β τ) :
    c.run out err w = tell (fun r => World.beside (c.note r)) (World.outPart.outlet out.taped)
      (World.errPart.outlet err.taped) c.invocation.image (c.extraction w.rest).1
      ⟨w.out, w.err, (c.extraction w.rest).2⟩ := by
  rw [Call.run, Report.run, extract_beside]
  rfl

theorem complain_eq (message : List String) (w : World α β τ) :
    complain (World.errPart.outlet err.taped) message w
      = ((), { w with err := (err.taped.writeEach w.err (messagePieces message)).2 }) := by
  simp only [complain, bind, StateT.bind]
  rw [show utf8 "error: " :: message.map utf8 ++ [lineEnd] = messagePieces message from rfl,
    Part.writePieces_eq]
  rfl

theorem print_eq (text : String) (w : World α β τ) :
    print (World.outPart.outlet out.taped) text w
      = ((printed out.taped w.out text).1, { w with out := (printed out.taped w.out text).2 }) := by
  have hpieces := Part.writePieces_eq World.outPart out.taped [utf8 text, lineEnd] w
  rw [show World.outPart.get w = w.out from rfl] at hpieces
  rw [printed]
  cases hr : out.taped.writeEach w.out [utf8 text, lineEnd] with
  | mk reply next =>
    rw [hr] at hpieces
    cases reply <;> simp only [print, bind, StateT.bind, hpieces] <;> rfl

theorem run_failure {c : Call τ} {w : World α β τ} {failure : Failure}
    (h : (c.extraction w.rest).1 = .error failure) :
    c.run out err w = (failure.exitCode,
      ⟨w.out, (err.taped.writeEach w.err (messagePieces [failure.message])).2, c.left w.rest⟩) := by
  rw [run_eq, h]
  simp only [tell, bind, StateT.bind, complain_eq]
  rw [Call.left, h]
  rfl

theorem run_empty {c : Call τ} {w : World α β τ} (h : (c.extraction w.rest).1 = .ok "") :
    c.run out err w = (0, ⟨w.out, w.err, c.left w.rest⟩) := by
  rw [run_eq, h, Call.left, h]
  rfl

theorem run_printed {c : Call τ} {w : World α β τ} {text : String} {s : Taped α}
    (h : (c.extraction w.rest).1 = .ok text) (hne : text ≠ "")
    (hprint : printed out.taped w.out text = (.ok (), s)) :
    c.run out err w = (0, ⟨s, w.err, c.left w.rest⟩) := by
  have hempty : text.isEmpty = false := by simpa using hne
  rw [run_eq, h]
  simp only [tell, hempty, Bool.false_eq_true, if_false, bind, StateT.bind, print_eq, hprint]
  rw [Call.left, h, Call.closing]
  simp only [hempty, Bool.false_eq_true, if_false]
  rfl

theorem run_refused {c : Call τ} {w : World α β τ} {text : String} {s : Taped α}
    {error : SystemError} (h : (c.extraction w.rest).1 = .ok text) (hne : text ≠ "")
    (hprint : printed out.taped w.out text = (.error error, s)) :
    c.run out err w = (1, ⟨s, (err.taped.writeEach w.err
      (messagePieces ["cannot write output: ", error.message])).2, c.left w.rest⟩) := by
  have hempty : text.isEmpty = false := by simpa using hne
  rw [run_eq, h]
  simp only [tell, hempty, Bool.false_eq_true, if_false, bind, StateT.bind, print_eq, hprint,
    complain_eq]
  rw [Call.left, h, Call.closing]
  simp only [hempty, Bool.false_eq_true, if_false]
  rfl

/-! ## What a call adds to the devices -/

/-- What a call adds to the tapes of the two devices, and its exit code, by the outcome of its
extraction. -/
def Obeys (outcome : Except Failure String) (before after : World α β τ) (code : UInt8) : Prop :=
  ∃ outs errs, after.out.tape = before.out.tape ++ outs ∧ after.err.tape = before.err.tape ++ errs
    ∧ flushes errs = 0
    ∧ match outcome with
      | .error failure => after.out = before.out ∧ code = failure.exitCode
          ∧ stored errs <+: textLine ("error: " ++ failure.message)
      | .ok text =>
        if text = "" then after.out = before.out ∧ after.err = before.err ∧ code = 0
        else stored outs <+: textLine text
          ∧ flushes outs = (if stored outs = textLine text then 1 else 0)
          ∧ (code = 0 ↔ stored outs = textLine text ∧ .flushed (.ok ()) ∈ outs)
          ∧ (code = 0 → after.err = before.err)
          ∧ (code ≠ 0 → code = 1 ∧ ∃ error, EndsWith error outs
              ∧ stored errs <+: textLine ("error: cannot write output: " ++ error.message))

theorem textLine_message (message : String) :
    (messagePieces [message]).flatten = textLine ("error: " ++ message) := by
  rw [flatten_messagePieces, textLine, Text.utf8_append, Text.utf8_append, List.append_assoc]
  rw [List.map_cons, List.map_nil, List.flatten_cons, List.flatten_nil, List.append_nil]
  rfl

theorem textLine_refusal (message : String) :
    (messagePieces ["cannot write output: ", message]).flatten
      = textLine ("error: cannot write output: " ++ message) := by
  rw [flatten_messagePieces, textLine, Text.utf8_append, Text.utf8_append,
    show "error: cannot write output: " = "error: " ++ "cannot write output: " from rfl,
    Text.utf8_append]
  simp only [List.map_cons, List.map_nil, List.flatten_cons, List.flatten_nil, List.append_nil,
    List.append_assoc]
  rfl

/-- One call keeps to the discipline. The four cases are the failure, the empty text, the text that
arrives and the text that is refused. -/
theorem obeys_run (c : Call τ) (w : World α β τ) :
    Obeys (c.extraction w.rest).1 w (c.run out err w).2 (c.run out err w).1 := by
  cases hx : (c.extraction w.rest).1 with
  | error failure =>
    obtain ⟨errs, htape, hflush, hstored⟩ := complaint_taped err w.err [failure.message]
    rw [run_failure out err hx]
    refine ⟨[], errs, (List.append_nil _).symm, htape, hflush, rfl, rfl, ?_⟩
    rw [textLine_message] at hstored
    exact hstored
  | ok text =>
    by_cases hne : text = ""
    · subst hne
      rw [run_empty out err hx]
      refine ⟨[], [], (List.append_nil _).symm, (List.append_nil _).symm, rfl, ?_⟩
      dsimp only
      rw [if_pos rfl]
      exact ⟨rfl, rfl, rfl⟩
    · obtain ⟨outs, htape, hprints⟩ := printed_taped out w.out text
      cases hp : printed out.taped w.out text with
      | mk result next =>
        rw [hp] at htape hprints
        cases result with
        | ok u =>
          obtain ⟨hstored, hflush, hmem⟩ := hprints
          rw [run_printed out err hx hne hp]
          refine ⟨outs, [], htape, (List.append_nil _).symm, rfl, ?_⟩
          dsimp only
          rw [if_neg hne]
          refine ⟨⟨[], by rw [hstored, List.append_nil]⟩, by rw [hflush, if_pos hstored],
            ⟨fun _ => ⟨hstored, hmem⟩, fun _ => rfl⟩, fun _ => rfl, fun h => absurd rfl h⟩
        | error error =>
          obtain ⟨hstored, hflush, hmem, hend⟩ := hprints
          obtain ⟨errs, htape', hflush', hstored'⟩ :=
            complaint_taped err w.err ["cannot write output: ", error.message]
          rw [textLine_refusal] at hstored'
          rw [run_refused out err hx hne hp]
          refine ⟨outs, errs, htape, htape', hflush', ?_⟩
          dsimp only
          rw [if_neg hne]
          refine ⟨hstored, hflush, ⟨fun h => absurd h (by decide), fun h => absurd h.2 hmem⟩,
            fun h => absurd h (by decide), fun _ => ⟨rfl, error, hend, hstored'⟩⟩

/-- The error stream has no say in the exit code, in the output, or in anything else. -/
theorem run_other_err {γ : Type} (err' : Device γ) (c : Call τ) {w : World α β τ}
    {w' : World α γ τ} (hout : w'.out = w.out) (hrest : w'.rest = w.rest) :
    (c.run out err' w').1 = (c.run out err w).1
      ∧ (c.run out err' w').2.out = (c.run out err w).2.out
      ∧ (c.run out err' w').2.rest = (c.run out err w).2.rest := by
  have hx' : (c.extraction w'.rest).1 = (c.extraction w.rest).1 := by rw [hrest]
  cases hx : (c.extraction w.rest).1 with
  | error failure =>
    rw [run_failure out err hx, run_failure out err' (hx'.trans hx), hout, hrest]
    exact ⟨rfl, rfl, rfl⟩
  | ok text =>
    by_cases hne : text = ""
    · subst hne
      rw [run_empty out err hx, run_empty out err' (hx'.trans hx), hout, hrest]
      exact ⟨rfl, rfl, rfl⟩
    · cases hp : printed out.taped w.out text with
      | mk result next =>
        have hp' : printed out.taped w'.out text = (result, next) := by rw [hout, hp]
        cases result with
        | ok u =>
          rw [run_printed out err hx hne hp, run_printed out err' (hx'.trans hx) hne hp', hrest]
          exact ⟨rfl, rfl, rfl⟩
        | error error =>
          rw [run_refused out err hx hne hp, run_refused out err' (hx'.trans hx) hne hp', hrest]
          exact ⟨rfl, rfl, rfl⟩

/-! ## Many calls -/

/-- Calls one after the other, with the same two devices: for each of them the outcome of its
extraction and its exit code, and the world behind the last one. -/
def session : List (Call τ) → World α β τ → List (Except Failure String × UInt8) × World α β τ
  | [], w => ([], w)
  | c :: rest, w =>
    let (code, next) := c.run out err w
    let (done, last) := session rest next
    (((c.extraction w.rest).1, code) :: done, last)

/-- What an outcome adds to the output when all goes well. -/
def gained : Except Failure String → Bytes
  | .ok text => if text = "" then [] else textLine text
  | .error _ => []

theorem exitCode_ne_zero (failure : Failure) : failure.exitCode ≠ 0 := by
  unfold Failure.exitCode
  split <;> decide

/-- A call that ends with 0 adds its text to the output, and nothing to the error stream. -/
theorem run_zero {c : Call τ} {w : World α β τ} (h : (c.run out err w).1 = 0) :
    ∃ outs, (c.run out err w).2.out.tape = w.out.tape ++ outs
      ∧ stored outs = gained (c.extraction w.rest).1 ∧ (c.run out err w).2.err = w.err := by
  obtain ⟨outs, errs, htape, -, -, hcase⟩ := obeys_run out err c w
  cases hx : (c.extraction w.rest).1 with
  | error failure =>
    -- no failure has the exit code 0
    rw [hx] at hcase
    obtain ⟨-, hcode, -⟩ := hcase
    exact absurd (hcode.symm.trans h) (exitCode_ne_zero failure)
  | ok text =>
    rw [hx] at hcase
    dsimp only at hcase
    by_cases hne : text = ""
    · rw [if_pos hne] at hcase
      refine ⟨[], by rw [hcase.1, List.append_nil], ?_, hcase.2.1⟩
      rw [gained, if_pos hne]
      rfl
    · rw [if_neg hne] at hcase
      obtain ⟨-, -, hcode, herr, -⟩ := hcase
      refine ⟨outs, htape, ?_, herr h⟩
      rw [gained, if_neg hne]
      exact (hcode.mp h).1

/-- Calls that all end with 0 add their texts. -/
theorem session_zero (calls : List (Call τ)) (w : World α β τ)
    (h : ∀ done ∈ (session out err calls w).1, done.2 = 0) :
    ∃ outs, (session out err calls w).2.out.tape = w.out.tape ++ outs
      ∧ stored outs = ((session out err calls w).1.map fun done => gained done.1).flatten
      ∧ (session out err calls w).2.err = w.err := by
  induction calls generalizing w with
  | nil => exact ⟨[], (List.append_nil _).symm, rfl, rfl⟩
  | cons c rest ih =>
    have hfirst : (c.run out err w).1 = 0 := h _ (List.mem_cons_self ..)
    obtain ⟨outs, htape, hstored, herr⟩ := run_zero out err hfirst
    obtain ⟨more, htape', hstored', herr'⟩ := ih (c.run out err w).2
      (fun done hdone => h done (List.mem_cons_of_mem _ hdone))
    refine ⟨outs ++ more, ?_, ?_, herr'.trans herr⟩
    · rw [← List.append_assoc, ← htape]
      exact htape'
    · rw [stored_append, hstored, hstored']
      rfl

end Calls

/-- **The discipline of `run`.** The devices take what they like of what they are offered, interrupt and
fail as they like. Then every call keeps to `Obeys`; another error stream in another state changes
neither the exit code nor the output; and calls that all end with 0 add to the output exactly the texts
that are not empty, each with a line feed behind it, and nothing to the error stream. -/
theorem run_discipline {α β τ : Type} (out : Device α) (err : Device β) :
    (∀ (c : Call τ) (w : World α β τ),
        Obeys (c.extraction w.rest).1 w (c.run out err w).2 (c.run out err w).1)
      ∧ (∀ (γ : Type) (err' : Device γ) (c : Call τ) (w : World α β τ) (w' : World α γ τ),
        w'.out = w.out → w'.rest = w.rest →
          (c.run out err' w').1 = (c.run out err w).1
            ∧ (c.run out err' w').2.out = (c.run out err w).2.out
            ∧ (c.run out err' w').2.rest = (c.run out err w).2.rest)
      ∧ ∀ (calls : List (Call τ)) (w : World α β τ),
        (∀ done ∈ (session out err calls w).1, done.2 = 0) →
          ∃ outs, (session out err calls w).2.out.tape = w.out.tape ++ outs
            ∧ stored outs = ((session out err calls w).1.map fun done => gained done.1).flatten
            ∧ (session out err calls w).2.err = w.err :=
  ⟨obeys_run out err, fun _ err' c _ _ hout hrest => run_other_err out err err' c hout hrest,
    session_zero out err⟩

/-- A call that finds the letter `a`. -/
def letterCall : Call Unit where
  recognizer :=
    { name := ""
      load := pure (.ok ())
      recognize := fun _ _ => pure (.ok
        (.array [.object [(Fragment.textsKey, .array [.string "a"])]])) }
  note _ := pure ()
  invocation := { image := [] }

/-- An output that takes one byte at a time and is interrupted before the first, and an error stream
that takes nothing if `full` says so. -/
def narrowWorld (full : Bool) : World Sink Sink Unit :=
  ⟨⟨{ chunk := some 1, interrupts := 1 }, []⟩, ⟨{ capacity := if full then some 0 else none }, []⟩, ()⟩

/-- Two calls on narrow devices print two lines, and a call does the same when the error stream is
full. -/
theorem run_discipline_letters :
    ((session Sink.device Sink.device [letterCall, letterCall] (narrowWorld false)).1.map
        fun done => done.2) = [0, 0]
      ∧ (∃ outs,
        (session Sink.device Sink.device [letterCall, letterCall] (narrowWorld false)).2.out.tape
            = [] ++ outs
          ∧ stored outs = textLine "a" ++ textLine "a")
      ∧ (letterCall.run Sink.device Sink.device (narrowWorld true)).1
        = (letterCall.run Sink.device Sink.device (narrowWorld false)).1 := by
  have hcodes : ((session Sink.device Sink.device [letterCall, letterCall] (narrowWorld false)).1.map
      fun done => done.2) = [0, 0] := by cbv
  have hgained : ((session Sink.device Sink.device [letterCall, letterCall]
      (narrowWorld false)).1.map fun done => gained done.1).flatten
        = textLine "a" ++ textLine "a" := by cbv
  refine ⟨hcodes, ?_, ?_⟩
  · obtain ⟨outs, htape, hstored, -⟩ := (run_discipline Sink.device Sink.device).2.2
      [letterCall, letterCall] (narrowWorld false) (fun done hdone => by
        have hmem := List.mem_map_of_mem (f := fun d : Except Failure String × UInt8 => d.2) hdone
        rw [hcodes] at hmem
        simpa using hmem)
    exact ⟨outs, htape, hstored.trans hgained⟩
  · exact ((run_discipline Sink.device Sink.device).2.1 Sink Sink.device letterCall
      (narrowWorld false) (narrowWorld true) rfl rfl).1

end Report

end ImageText
