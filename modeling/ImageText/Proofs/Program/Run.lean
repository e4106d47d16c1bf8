import ImageText.Program
import ImageText.Proofs.Program.Part
import ImageText.Proofs.Report

/-!
# A run of the program

A run has two devices, a system to which it puts its questions, and a clock for the lines of its log.
Nothing is assumed of any of them, but the system and the clock do not know of each other. The system
keeps a record here, so it can be said what a run asked.

The log is written between the steps of a run, to the error stream and with the time of the clock, and
neither has a say in anything else. `Agree` makes this precise: two actions agree if, on scenes that
differ in the error stream and the clock at most, they answer alike and leave such scenes behind. Every
step of a run agrees with the same step without a log, so the whole run does.

> `serve_agree`: a run agrees with the silent run,
> `serve_silently`: the silent run is one call of `Report.run`, beside its devices,
> `run_called`: so a command line that is accepted comes to one call, with a log or without,
> `run_course`: what is asked in such a run,
> `run_answered`: what comes of every other one.
-/

namespace ImageText.Program

open Report (World Call)

variable {α β ρ κ γ δ : Type}

/-- The two devices, the system, the clock, and the record of what the system was asked. -/
abbrev Scene (α β ρ κ : Type) := World α β ((ρ × κ) × List Event)

namespace Scene

/-- All but the devices. -/
def restPart : Part (Scene α β ρ κ) ((ρ × κ) × List Event) where
  get := World.rest
  put w s := { w with rest := s }
  get_put _ _ := rfl
  put_put _ _ _ := rfl
  put_get _ := rfl

/-- The clock. -/
def clockPart : Part (Scene α β ρ κ) κ where
  get w := w.rest.1.2
  put w k := { w with rest := ((w.rest.1.1, k), w.rest.2) }
  get_put _ _ := rfl
  put_put _ _ _ := rfl
  put_get _ := rfl

/-- The output of a scene. -/
abbrev output (out : Device α) : Outlet (StateM (Scene α β ρ κ)) := World.outPart.outlet out.taped

/-- The error stream of a scene. -/
abbrev errors (err : Device β) : Outlet (StateM (Scene α β ρ κ)) := World.errPart.outlet err.taped

/-- The clock of a scene. -/
abbrev time (read : StateM κ String) : StateM (Scene α β ρ κ) String := clockPart.within read

/-- A run that is about to begin. -/
def start (out : Taped α) (err : Taped β) (system : ρ) (clock : κ) : Scene α β ρ κ :=
  ⟨out, err, ((system, clock), [])⟩

end Scene

/-- A system beside a clock, with a record. -/
def asked (κ : Type) (host : Host (StateM ρ)) : Host (StateM ((ρ × κ) × List Event)) :=
  (host.within (Part.first ρ κ)).recorded

/-- Such a system beside the devices. -/
def system (host : Host (StateM ρ)) : Host (StateM (Scene α β ρ κ)) :=
  (asked κ host).within Scene.restPart

/-- The program with its devices, its system and its clock. -/
def onScene (host : Host (StateM ρ)) (time : StateM κ String) (out : Device α) (err : Device β)
    (given : Surroundings) : StateM (Scene α β ρ κ) UInt8 :=
  run (system host) (Scene.output out) (Scene.errors err) (Scene.time time) given

/-- The bridge of some settings. -/
def bridgeOf (s : CommandLine.Settings) : Bridge := ⟨s.interpreter, s.bridge⟩

/-- The invocation of some settings. -/
def invocationOf (s : CommandLine.Settings) : Invocation := ⟨s.input, s.lang⟩

/-! ## Scenes that differ in the error stream and the clock -/

/-- The same output, and the same system with the same record. -/
structure Alike (w w' : Scene α β ρ κ) : Prop where
  out : w.out = w'.out
  system : w.rest.1.1 = w'.rest.1.1
  record : w.rest.2 = w'.rest.2

theorem Alike.refl (w : Scene α β ρ κ) : Alike w w := ⟨rfl, rfl, rfl⟩

/-- Two actions that answer alike and leave alike what is alike. -/
def Agree (x y : StateM (Scene α β ρ κ) γ) : Prop :=
  ∀ w w', Alike w w' → (x w).1 = (y w').1 ∧ Alike (x w).2 (y w').2

section Agree

theorem Agree.pure (a : γ) : Agree (α := α) (β := β) (ρ := ρ) (κ := κ) (Pure.pure a) (Pure.pure a) :=
  fun _ _ h => ⟨rfl, h⟩

theorem Agree.bind {x y : StateM (Scene α β ρ κ) γ} {f g : γ → StateM (Scene α β ρ κ) δ}
    (h : Agree x y) (hf : ∀ a, Agree (f a) (g a)) : Agree (x >>= f) (y >>= g) := by
  intro w w' hw
  obtain ⟨hanswer, hnext⟩ := h w w' hw
  have hlast := hf (x w).1 (x w).2 (y w').2 hnext
  show ((f (x w).1 (x w).2)).1 = ((g (y w').1 (y w').2)).1
    ∧ Alike (f (x w).1 (x w).2).2 (g (y w').1 (y w').2).2
  rw [← hanswer]
  exact hlast

theorem agree_isFile (host : Host (StateM ρ)) (path : Path) :
    Agree ((system (α := α) (β := β) (κ := κ) host).isFile path) ((system host).isFile path) := by
  rintro ⟨out, err, ⟨s, k⟩, seen⟩ ⟨out', err', ⟨s', k'⟩, seen'⟩ ⟨hout, hsystem, hrecord⟩
  cases hout
  cases hsystem
  cases hrecord
  exact ⟨rfl, rfl, rfl, rfl⟩

theorem agree_launch (host : Host (StateM ρ)) (c : Command) :
    Agree ((system (α := α) (β := β) (κ := κ) host).launch c) ((system host).launch c) := by
  rintro ⟨out, err, ⟨s, k⟩, seen⟩ ⟨out', err', ⟨s', k'⟩, seen'⟩ ⟨hout, hsystem, hrecord⟩
  cases hout
  cases hsystem
  cases hrecord
  exact ⟨rfl, rfl, rfl, rfl⟩

/-- A line of the log is written to the error stream. -/
theorem agree_log (err : Device β) (time : StateM κ String) (filter : Log.Filter) (r : Record) :
    Agree (α := α) (ρ := ρ) (logTo (Scene.errors err) (Scene.time time) filter r) (silently r) := by
  intro w w' h
  unfold logTo
  by_cases hadmits : filter.admits r = true
  · rw [if_pos hadmits]
    exact ⟨rfl, h.out, h.system, h.record⟩
  · rw [if_neg hadmits]
    exact ⟨rfl, h⟩

theorem agree_complain (err : Device β) (message : List String) :
    Agree (α := α) (ρ := ρ) (κ := κ) (Report.complain (Scene.errors err) message)
      (Report.complain (Scene.errors err) message) := by
  intro w w' h
  rw [Report.complain_eq, Report.complain_eq]
  exact ⟨rfl, h.out, h.system, h.record⟩

theorem agree_print (out : Device α) (text : String) :
    Agree (β := β) (ρ := ρ) (κ := κ) (Report.print (Scene.output out) text)
      (Report.print (Scene.output out) text) := by
  intro w w' h
  rw [Report.print_eq, Report.print_eq, h.out]
  exact ⟨rfl, rfl, h.system, h.record⟩

variable {note note' : Record → StateM (Scene α β ρ κ) Unit} (hnote : ∀ r, Agree (note r) (note' r))
  (host : Host (StateM ρ)) (b : Bridge)

include hnote

theorem agree_execute (c : Command) :
    Agree (Bridge.execute (system host) note c) (Bridge.execute (system host) note' c) := by
  refine (agree_launch host c).bind fun reply => ?_
  cases reply with
  | error error => exact .pure _
  | ok finished =>
    dsimp only
    cases Bridge.stderrRecord? finished with
    | none => exact .pure _
    | some record => exact (hnote record).bind fun _ => .pure _

theorem agree_probe : Agree (b.probe (system host) note) (b.probe (system host) note') := by
  refine (hnote _).bind fun _ => (agree_execute hnote host _).bind fun out => ?_
  cases out <;> exact .pure _

theorem agree_recognize (image : Path) (o : Options) :
    Agree (b.recognize (system host) note image o) (b.recognize (system host) note' image o) := by
  refine (agree_isFile host image).bind fun found => ?_
  cases found with
  | false => exact .pure _
  | true =>
    refine (hnote _).bind fun _ => (agree_execute hnote host _).bind fun out => ?_
    cases out with
    | error failure => exact .pure _
    | ok out => exact (hnote _).bind fun _ => .pure _

theorem agree_extract (i : Invocation) :
    Agree ((b.recognizer (system host) note).extract note i)
      ((b.recognizer (system host) note').extract note' i) := by
  refine (agree_probe hnote host b).bind fun loaded => ?_
  cases loaded with
  | error failure => exact .pure _
  | ok u =>
    refine (hnote _).bind fun _ => (agree_recognize hnote host b _ _).bind fun answer => ?_
    cases answer <;> exact .pure _

theorem agree_tell (out : Device α) (err : Device β) (image : Path)
    (outcome : Except Failure String) :
    Agree (Report.tell note (Scene.output out) (Scene.errors err) image outcome)
      (Report.tell note' (Scene.output out) (Scene.errors err) image outcome) := by
  cases outcome with
  | error failure => exact (hnote _).bind fun _ => (agree_complain err _).bind fun _ => .pure _
  | ok text =>
    simp only [Report.tell]
    by_cases hempty : text.isEmpty = true
    · rw [if_pos hempty, if_pos hempty]
      exact (hnote _).bind fun _ => .pure _
    · rw [if_neg hempty, if_neg hempty]
      refine (agree_print out text).bind fun result => ?_
      cases result with
      | ok u => exact .pure _
      | error error => exact (agree_complain err _).bind fun _ => .pure _

/-- **A run agrees with a run that keeps other records**, if the records themselves agree. -/
theorem serve_agree (out : Device α) (err : Device β) (s : CommandLine.Settings) :
    Agree (serve (system host) (Scene.output out) (Scene.errors err) note s)
      (serve (system host) (Scene.output out) (Scene.errors err) note' s) :=
  (hnote _).bind fun _ => (agree_extract hnote host _ _).bind fun outcome =>
    agree_tell hnote out err s.input outcome

end Agree

/-! ## The silent run -/

section Silent

/-- The call that a run makes beside its devices. -/
def callOf (κ : Type) (host : Host (StateM ρ)) (s : CommandLine.Settings) :
    Call ((ρ × κ) × List Event) where
  recognizer := (bridgeOf s).recognizer (asked κ host) silently
  note := silently
  invocation := invocationOf s

variable (host : Host (StateM ρ)) (out : Device α) (err : Device β)

theorem recognizer_beside (b : Bridge) :
    b.recognizer (system (α := α) (β := β) host) silently
      = Report.besideRecognizer (b.recognizer (asked κ host) silently) := by
  have hsilent : (silently : Record → StateM (Scene α β ρ κ) Unit)
      = fun r => Scene.restPart.within (silently r) :=
    funext fun r => (Scene.restPart.within_pure ()).symm
  have hprobe := Bridge.probe_within (asked κ host)
    (Scene.restPart (α := α) (β := β) (ρ := ρ) (κ := κ)) silently b
  have hrecognize := Bridge.recognize_within (asked κ host)
    (Scene.restPart (α := α) (β := β) (ρ := ρ) (κ := κ)) silently b
  rw [← hsilent] at hprobe hrecognize
  exact congr (congrArg _ hprobe) (funext fun image => funext fun o => hrecognize image o)

/-- **The silent run is one call.** -/
theorem serve_silently (s : CommandLine.Settings) (w : Scene α β ρ κ) :
    serve (system host) (Scene.output out) (Scene.errors err) silently s w
      = (callOf κ host s).run out err w := by
  have hserve : serve (system host) (Scene.output out) (Scene.errors err) silently s w
      = Report.run silently (Scene.output out) (Scene.errors err)
          ((bridgeOf s).recognizer (system host) silently) (invocationOf s) w := rfl
  rw [hserve, recognizer_beside]
  rfl

/-- What a call does to the devices has no part in what it leaves beside them. -/
theorem run_rest {τ : Type} (c : Call τ) (w : World α β τ) :
    (c.run out err w).2.rest = c.left w.rest := by
  cases hx : (c.extraction w.rest).1 with
  | error failure => rw [Report.run_failure out err hx]
  | ok text =>
    by_cases hne : text = ""
    · subst hne
      rw [Report.run_empty out err hx]
    · cases hp : Report.printed out.taped w.out text with
      | mk result next =>
        cases result with
        | ok u => rw [Report.run_printed out err hx hne hp]
        | error error => rw [Report.run_refused out err hx hne hp]

/-- A silent call leaves what its extraction leaves. -/
theorem left_silently (s : CommandLine.Settings) (rest : (ρ × κ) × List Event) :
    (callOf κ host s).left rest = ((callOf κ host s).extraction rest).2 := by
  unfold Report.Call.left
  split <;> rfl

/-- The extraction of a run takes one of the courses that there are. -/
theorem extraction_course (s : CommandLine.Settings) (system : ρ) (clock : κ) :
    Bridge.Course (bridgeOf s) (invocationOf s)
      ((callOf κ host s).extraction ((system, clock), [])).1
      ((callOf κ host s).extraction ((system, clock), [])).2.2 := by
  obtain ⟨result, last, seen, hrun, hcourse⟩ := Bridge.extract_course
    (host.within (Part.first ρ κ)) silently (bridgeOf s) (invocationOf s) (system, clock)
  have hextraction : (callOf κ host s).extraction ((system, clock), []) = (result, (last, seen)) := hrun
  rw [hextraction]
  exact hcourse

end Silent

/-! ## The whole run -/

section Whole

variable (host : Host (StateM ρ)) (time : StateM κ String) (out : Device α) (err : Device β)
  (given : Surroundings) (o : Taped α) (e : Taped β) (system : ρ) (clock : κ)

/-- **A command line that is accepted is served by one call.** With a log the run agrees with the call,
and without one it is the call. -/
theorem run_called {s : CommandLine.Settings}
    (hread : CommandLine.read given.arguments given.interpreter = .ok s) (w : Scene α β ρ κ) :
    let run := onScene host time out err given w
    let call := (callOf κ host s).run out err w
    run.1 = call.1 ∧ Alike run.2 call.2 ∧ (s.log = false → run.2 = call.2) := by
  intro run call
  let note : Record → StateM (Scene α β ρ κ) Unit :=
    if s.log then logTo (Scene.errors err) (Scene.time time) (.ofVariable given.logFilter)
    else silently
  have hrun : run = serve (Program.system host) (Scene.output out) (Scene.errors err) note s w := by
    show onScene host time out err given w = _
    rw [onScene, Program.run, hread]
  have hcall : serve (Program.system host) (Scene.output out) (Scene.errors err) silently s w = call :=
    serve_silently host out err s w
  have hnote : ∀ r, Agree (note r) (silently r) := by
    intro r
    by_cases hlog : s.log = true
    · rw [show note = _ from if_pos hlog]
      exact agree_log err time _ r
    · rw [show note = _ from if_neg hlog]
      exact .pure ()
  obtain ⟨hcode, halike⟩ := serve_agree hnote host out err s w w (.refl w)
  rw [hcall, ← hrun] at hcode halike
  refine ⟨hcode, halike, fun hlog => ?_⟩
  have hsilent : note = silently := if_neg (by rw [hlog]; exact Bool.false_ne_true)
  rw [hrun, hsilent, hcall]

/-- What is asked in such a run is one of the courses of its extraction. -/
theorem run_course {s : CommandLine.Settings}
    (hread : CommandLine.read given.arguments given.interpreter = .ok s) :
    Bridge.Course (bridgeOf s) (invocationOf s)
      ((callOf κ host s).extraction (Scene.start o e system clock).rest).1
      (onScene host time out err given (Scene.start o e system clock)).2.rest.2 := by
  obtain ⟨-, halike, -⟩ := run_called host time out err given hread (Scene.start o e system clock)
  rw [halike.record, run_rest, left_silently]
  exact extraction_course host s system clock

/-- **Every other command line is answered** with its exit code, and nothing is asked of the system. -/
theorem run_answered {answer : CommandLine.Answer}
    (hread : CommandLine.read given.arguments given.interpreter = .error answer)
    (w : Scene α β ρ κ) :
    let run := onScene host time out err given w
    run.1 = answer.exitCode ∧ run.2.rest = w.rest ∧ ∃ outs, run.2.out.tape = w.out.tape ++ outs := by
  intro run
  let text : Bytes := utf8 ((answer.styled given.interpreter).output given.coloured)
  -- a refusal goes to the error stream, and what was asked for to the output
  have hrun : run = (answer.exitCode,
      if answer.isError then { w with err := (err.taped.writeAll w.err text).2 }
      else { w with out := (out.taped.writeAll w.out text).2 }) := by
    show onScene host time out err given w = _
    rw [onScene, Program.run, hread]
    cases answer <;> rfl
  rw [hrun]
  refine ⟨rfl, ?_, ?_⟩
  · dsimp only
    split <;> rfl
  · dsimp only
    split
    · exact ⟨[], (List.append_nil _).symm⟩
    · obtain ⟨outs, htape, -⟩ := out.writeAll_taped w.out text
      exact ⟨outs, htape⟩

end Whole

end ImageText.Program
