import ImageText.Proofs.CommandLine.Acceptance
import ImageText.Proofs.Program.ExitCode

/-!
# What a run writes, and where

The output of a run is for the text alone, and the error stream for one message if there is no text. But
a child process writes to two streams of its own, and a log goes to the error stream as well. On devices
that refuse nothing it can be said exactly what arrives. The output gets the text with its line feed or
nothing. Without a log the error stream gets the message of the failure or nothing, so no byte of a child
arrives but as a part of that message.

The log is asked for by a flag, which can stand in many places of a command line. So two runs are
compared whose command lines say the same but for the flag, in any order and spelling. The system is
asked the same in both, and it is only the error stream that can tell them apart.

> `run_willing`: what a call comes to on devices that refuse nothing,
> `read_logged`: the flag can be added to every command line that does not have it,
> `streams_apart`: the streams of a run, and that a log changes neither the output nor the exit code.
-/

namespace ImageText

/-! ## Devices that refuse nothing -/

section Willing

variable {σ : Type} {device : Device σ} {P : σ → Prop}

/-- A device refuses nothing in the states of `P`, and does not leave them. -/
structure Device.Willing (device : Device σ) (P : σ → Prop) : Prop where
  takes : ∀ s bytes error, P s → bytes ≠ [] →
    ¬ (Stroke.wrote bytes (device.write s bytes).1).Refuses error
  flushes : ∀ s, P s → (device.flush s).1 = .ok ()
  stays : ∀ s bytes, P s → P (device.write s bytes).2

namespace Device.Willing

/-- A tape does not make a device less willing. -/
theorem taped (h : device.Willing P) : device.taped.Willing fun s => P s.state :=
  ⟨fun s => h.takes s.state, fun s => h.flushes s.state, fun s => h.stays s.state⟩

/-- **Everything is written.** The induction is on the loop, and the two cases in which it would end
early are refusals. -/
theorem writeAll (h : device.Willing P) (s : σ) (bytes : Bytes) (hs : P s) :
    ∃ next, device.writeAll s bytes = (.ok (), next) ∧ P next := by
  fun_induction Device.writeAll device s bytes with
  | case1 s => exact ⟨s, rfl, hs⟩
  | case2 s bytes hne error next hwrite =>
    refine absurd ?_ (h.takes s bytes error hs hne)
    rw [hwrite]
    exact rfl
  | case3 s bytes hne next hwrite ih =>
    have hnext := h.stays s bytes hs
    rw [hwrite] at hnext
    exact ih hnext
  | case4 s bytes hne next hwrite =>
    refine absurd ?_ (h.takes s bytes .nothingWritten hs hne)
    rw [hwrite]
    exact ⟨rfl, rfl⟩
  | case5 s bytes hne count next hwrite hcount ih =>
    have hnext := h.stays s bytes hs
    rw [hwrite] at hnext
    exact ih hnext

theorem writeEach (h : device.Willing P) (s : σ) (pieces : List Bytes) (hs : P s) :
    ∃ next, device.writeEach s pieces = (.ok (), next) ∧ P next := by
  induction pieces generalizing s with
  | nil => exact ⟨s, rfl, hs⟩
  | cons piece rest ih =>
    obtain ⟨next, hwrite, hnext⟩ := h.writeAll s piece hs
    rw [Device.writeEach, hwrite]
    exact ih next hnext

theorem printed (h : device.Willing P) (s : σ) (text : String) (hs : P s) :
    (Report.printed device s text).1 = .ok () := by
  obtain ⟨next, hwrite, hnext⟩ := h.writeEach s [utf8 text, Report.lineEnd] hs
  rw [Report.printed, hwrite]
  exact h.flushes next hnext

end Device.Willing

/-- A sink that is short of nothing. -/
def Sink.Ample (s : Sink) : Prop := s.capacity = none ∧ s.chunk ≠ some 0 ∧ s.flushError = none

/-- A sink that is short of nothing refuses nothing; it may be interrupted. -/
theorem Sink.willing : Sink.device.Willing Sink.Ample := by
  refine ⟨?_, ?_, ?_⟩
  · rintro s bytes error ⟨hcapacity, hchunk, -⟩ hne
    show ¬ (Stroke.wrote bytes (s.write bytes).1).Refuses error
    rw [Sink.write]
    split
    · exact id
    · rw [Sink.room?, hcapacity]
      rintro ⟨hcount, -⟩
      revert hcount
      rw [Sink.offer]
      cases hc : s.chunk with
      | none => simpa using hne
      | some n =>
        have hn : n ≠ 0 := fun e => hchunk (by rw [hc, e])
        simp [hn, hne]
  · rintro s ⟨-, -, hflush⟩
    show (s.flush).1 = .ok ()
    rw [Sink.flush, hflush]
    rfl
  · rintro s bytes ⟨hcapacity, hchunk, hflush⟩
    show Sink.Ample (s.write bytes).2
    rw [Sink.write]
    split
    · exact ⟨hcapacity, hchunk, hflush⟩
    · split <;> exact ⟨hcapacity, hchunk, hflush⟩

end Willing

/-! ## One call -/

namespace Report

variable {α β τ : Type} {out : Device α} {err : Device β} {P : α → Prop} {Q : β → Prop}

/-- What an outcome adds to the error stream when all goes well. -/
def reported : Except Failure String → Bytes
  | .ok _ => []
  | .error failure => textLine ("error: " ++ failure.message)

/-- The exit code for an outcome when all goes well. -/
def ended : Except Failure String → UInt8
  | .ok _ => 0
  | .error failure => failure.exitCode

/-- **A call on devices that refuse nothing** adds to both what its outcome says. -/
theorem run_willing (hout : out.Willing P) (herr : err.Willing Q) (c : Call τ) (w : World α β τ)
    (ho : P w.out.state) (he : Q w.err.state) :
    ∃ outs errs, (c.run out err w).2.out.tape = w.out.tape ++ outs
      ∧ (c.run out err w).2.err.tape = w.err.tape ++ errs
      ∧ stored outs = gained (c.extraction w.rest).1 ∧ stored errs = reported (c.extraction w.rest).1
      ∧ (c.run out err w).1 = ended (c.extraction w.rest).1 := by
  cases hx : (c.extraction w.rest).1 with
  | error failure =>
    obtain ⟨errs, htape, -, hstores⟩ := err.writeEach_taped w.err (messagePieces [failure.message])
    obtain ⟨next, hwritten, -⟩ := herr.taped.writeEach w.err (messagePieces [failure.message]) he
    rw [hwritten, Stores, textLine_message] at hstores
    rw [run_failure out err hx]
    exact ⟨[], errs, (List.append_nil _).symm, htape, rfl, hstores, rfl⟩
  | ok text =>
    by_cases hempty : text = ""
    · subst hempty
      rw [run_empty out err hx]
      exact ⟨[], [], (List.append_nil _).symm, (List.append_nil _).symm, rfl, rfl, rfl⟩
    · obtain ⟨outs, htape, hprints⟩ := printed_taped out w.out text
      have hprinted := hout.taped.printed w.out text ho
      rw [hprinted] at hprints
      rw [run_printed out err hx hempty (Prod.ext hprinted rfl)]
      refine ⟨outs, [], htape, (List.append_nil _).symm, ?_, rfl, rfl⟩
      rw [gained, if_neg hempty]
      exact hprints.1

end Report

/-! ## The flag -/

namespace CommandLine

variable {environment : Option Bytes} {es : List Entry} {s : Settings}

theorem Admissible.logged (h : Admissible environment es) (hnew : ∀ value, (.log, value) ∉ es) :
    Admissible environment ((.log, []) :: es) where
  once := by
    rw [List.map_cons, List.nodup_cons]
    refine ⟨fun hmem => ?_, h.once⟩
    obtain ⟨⟨o, value⟩, he, rfl⟩ := List.mem_map.mp hmem
    exact hnew value he
  fits := List.forall_mem_cons.mpr ⟨trivial, h.fits⟩
  input := h.input.imp fun _ => List.mem_cons_of_mem _
  interpreter habsent := h.interpreter fun path hpath => habsent path (List.mem_cons_of_mem _ hpath)

theorem Tells.logged (h : Tells environment es s) :
    Tells environment ((.log, []) :: es) { s with log := true } where
  input := List.mem_cons_of_mem _ h.input
  lang := by simpa using h.lang
  interpreter := by simpa using h.interpreter
  bridge path := by simpa using h.bridge path
  log := iff_of_true rfl ⟨[], List.mem_cons_self ..⟩

/-- **The flag can be added** to a command line that is accepted without it, in every place where a flag
can stand, and nothing else changes. -/
theorem read_logged {arguments arguments' : List Bytes} {es' : List Entry}
    (hspells : Spells arguments es) (hspells' : Spells arguments' es')
    (hperm : es'.Perm ((.log, []) :: es)) (hread : read arguments environment = .ok s)
    (hlog : s.log = false) : read arguments' environment = .ok { s with log := true } := by
  obtain ⟨hadmissible, htells⟩ := (read_spells_iff hspells).mp hread
  have hnew : ∀ value, (.log, value) ∉ es := by
    intro value hmem
    rw [htells.log.mpr ⟨value, hmem⟩] at hlog
    cases hlog
  exact (read_spells_iff hspells').mpr
    ⟨(hadmissible.logged hnew).perm hperm.symm, htells.logged.perm hperm.symm⟩

end CommandLine

/-! ## The whole run -/

namespace Program

open Report (textLine gained reported ended)

variable {α β ρ κ : Type}

/-- The same command line with the flag for a log, in the same environment but for what the log and the
colours are told by it. -/
structure Logged (given logged : Surroundings) : Prop where
  arguments : ∃ es es', CommandLine.Spells given.arguments es ∧ CommandLine.Spells logged.arguments es'
    ∧ es'.Perm ((.log, []) :: es)
  interpreter : logged.interpreter = given.interpreter

/-- What a run adds to its two devices, by its exit code. -/
structure Streams (s : CommandLine.Settings) (seen : List Event) (outs errs : List Stroke)
    (code : UInt8) : Prop where
  unprinted : code ≠ 0 → stored outs = []
  printed : code = 0 → ∃ text, Recognized s text seen
    ∧ stored outs = if text = "" then [] else textLine text
  silent : s.log = false → code = 0 → stored errs = []
  /-- The message is that of a failure that comes of what was asked. -/
  complained : s.log = false → code ≠ 0 → ∃ failure,
    Bridge.Course (bridgeOf s) (invocationOf s) (.error failure) seen ∧ code = failure.exitCode
      ∧ stored errs = textLine ("error: " ++ failure.message)

theorem streams {s : CommandLine.Settings} {seen : List Event} {outs errs : List Stroke}
    {result : Except Failure String} (hcourse : Bridge.Course (bridgeOf s) (invocationOf s) result seen)
    (houts : stored outs = gained result) (herrs : s.log = false → stored errs = reported result) :
    Streams s seen outs errs (ended result) := by
  cases result with
  | ok text =>
    exact {
      unprinted := fun h => absurd rfl h
      printed := fun _ => ⟨text, (hcourse.ok_iff text).mp rfl, houts⟩
      silent := fun hlog _ => herrs hlog
      complained := fun _ h => absurd rfl h }
  | error failure =>
    have hcode : failure.exitCode ≠ 0 := Report.exitCode_ne_zero failure
    exact {
      unprinted := fun _ => houts
      printed := fun h => absurd h hcode
      silent := fun _ h => absurd h hcode
      complained := fun hlog _ => ⟨failure, hcourse, rfl, herrs hlog⟩ }

section Run

variable (host : Host (StateM ρ)) (time : StateM κ String) (out : Device α) (err : Device β)

/-- A run with a log and one without write the same to the output and end with the same code; they ask
the same of the system and leave it in the same state. -/
theorem run_logged {given logged : Surroundings} {s : CommandLine.Settings}
    (hread : CommandLine.read given.arguments given.interpreter = .ok s) (hlog : s.log = false)
    (h : Logged given logged) (w : Scene α β ρ κ) :
    CommandLine.read logged.arguments logged.interpreter = .ok { s with log := true }
      ∧ (onScene host time out err logged w).1 = (onScene host time out err given w).1
      ∧ Alike (onScene host time out err logged w).2 (onScene host time out err given w).2 := by
  obtain ⟨es, es', hspells, hspells', hperm⟩ := h.arguments
  have hread' : CommandLine.read logged.arguments logged.interpreter = .ok { s with log := true } := by
    rw [h.interpreter]
    exact CommandLine.read_logged hspells hspells' hperm hread hlog
  obtain ⟨hcode, -, hquiet⟩ := run_called host time out err given hread w
  -- the call does not depend on the flag
  obtain ⟨hcode', halike, -⟩ := run_called host time out err logged hread' w
  refine ⟨hread', hcode'.trans hcode.symm, ?_⟩
  rw [hquiet hlog]
  exact halike

/-- **The streams of a run are kept apart.** Let the command line be accepted, and let the devices refuse
nothing. The output gets nothing unless the run ends with 0, and then the text that was recognized with
its line feed, or nothing if it is empty. Without a log the error stream gets nothing if the run ends
with 0, and otherwise the message of the failure on a line of its own and not a byte more. A log that is
added, under any filter, changes neither the output nor the exit code. -/
theorem streams_apart {P : α → Prop} {Q : β → Prop} (hout : out.Willing P) (herr : err.Willing Q)
    (given : Surroundings) (o : Taped α) (e : Taped β) (system : ρ) (clock : κ)
    {s : CommandLine.Settings} (ho : P o.state) (he : Q e.state)
    (hread : CommandLine.read given.arguments given.interpreter = .ok s) :
    let start : Scene α β ρ κ := Scene.start o e system clock
    let run := onScene host time out err given start
    (∃ outs errs, run.2.out.tape = o.tape ++ outs ∧ (s.log = false → run.2.err.tape = e.tape ++ errs)
        ∧ Streams s run.2.rest.2 outs errs run.1)
      ∧ ∀ logged, s.log = false → Logged given logged →
        let other := onScene host time out err logged start
        CommandLine.read logged.arguments logged.interpreter = .ok { s with log := true }
          ∧ other.1 = run.1 ∧ other.2.out = run.2.out ∧ other.2.rest.2 = run.2.rest.2 := by
  intro start run
  refine ⟨?_, fun logged hlog h => ?_⟩
  · have hcourse := run_course host time out err given o e system clock hread
    obtain ⟨hcode, halike, hquiet⟩ := run_called host time out err given hread start
    obtain ⟨outs, errs, houts, herrs, hgained, hreported, hended⟩ :=
      Report.run_willing hout herr (callOf κ host s) start ho he
    refine ⟨outs, errs, (congrArg Taped.tape halike.out).trans houts, fun hlog => ?_, ?_⟩
    · rw [show run.2 = _ from hquiet hlog]
      exact herrs
    · rw [show run.1 = _ from hcode.trans hended]
      exact streams hcourse hgained fun _ => hreported
  · obtain ⟨hread', hcode, halike⟩ := run_logged host time out err hread hlog h start
    exact ⟨hread', hcode, halike.out, halike.record⟩

end Run

/-- A system whose engine finds the letter `a`. -/
def letterHost : Host (StateM Unit) := passingHost (utf8 "[\x7b\"rec_texts\": [\"a\"]\x7d]")

/-- An output that is interrupted and takes one byte at a time. -/
def narrowOutput : Taped Sink := ⟨{ chunk := some 1, interrupts := 1 }, []⟩

/-- The letter is printed to a narrow output, and the flag put in front does not change that. -/
theorem streams_apart_letter :
    let given : Surroundings := ⟨[utf8 "scan.png"], none, none, none, none⟩
    let logged : Surroundings := ⟨[utf8 CommandLine.Slot.log.dashed, utf8 "scan.png"], none,
      some (utf8 "trace"), none, none⟩
    let run := onScene letterHost (pure "" : StateM Unit String) Sink.device Sink.device given
      (Scene.start narrowOutput ⟨{}, []⟩ () ())
    let other := onScene letterHost (pure "" : StateM Unit String) Sink.device Sink.device logged
      (Scene.start narrowOutput ⟨{}, []⟩ () ())
    (∃ outs, run.2.out.tape = [] ++ outs ∧ stored outs = textLine "a")
      ∧ run.1 = 0 ∧ other.1 = 0 ∧ other.2.out = run.2.out := by
  intro given logged
  dsimp only
  have hread : CommandLine.read given.arguments given.interpreter
      = .ok ⟨utf8 "scan.png", "en", utf8 "python3", none, false⟩ := rfl
  have hplain : CommandLine.Plain (utf8 "scan.png") := fun h => absurd h (by decide)
  have hlogged : Logged given logged :=
    ⟨⟨[(.input, utf8 "scan.png")], _, .input hplain .nil, .flag (.input hplain .nil), .refl _⟩, rfl⟩
  obtain ⟨⟨outs, errs, houts, -, hstreams⟩, hadded⟩ :=
    streams_apart letterHost (pure "" : StateM Unit String) Sink.device Sink.device Sink.willing
      Sink.willing given narrowOutput ⟨{}, []⟩ () () ⟨rfl, by decide, rfl⟩ ⟨rfl, by decide, rfl⟩ hread
  obtain ⟨-, hsame, hout, -⟩ := hadded logged rfl hlogged
  -- what the engine finds is the letter
  have hfound : ((callOf Unit letterHost ⟨utf8 "scan.png", "en", utf8 "python3", none, false⟩).extraction
      (((), ()), [])).1 = .ok "a" := by cbv
  have hcourse := run_course letterHost (pure "" : StateM Unit String) Sink.device Sink.device given
    narrowOutput ⟨{}, []⟩ () () hread
  have hcode := not_not.mp fun hne => by
    obtain ⟨failure, hfailed, -⟩ := hstreams.complained rfl hne
    cases (hfailed.ok_iff "a").mpr ((hcourse.ok_iff "a").mp hfound)
  obtain ⟨text, htext, hstored⟩ := hstreams.printed hcode
  have hletter : "a" = text := Except.ok.inj (hfound.symm.trans ((hcourse.ok_iff text).mpr htext))
  rw [← hletter, if_neg (by decide)] at hstored
  exact ⟨⟨outs, houts, hstored⟩, hcode, hsame.trans hcode, hout⟩

end Program

end ImageText
