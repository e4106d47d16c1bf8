import ImageText.Proofs.Bridge
import ImageText.Proofs.Report

/-!
# What a failed load says

Loading an engine either makes it ready or finds out that it cannot be used. The bridge finds out by a
child process, the probe, and reads the end of the probe as it reads the end of a recognition. So a probe
that was not started or exits with code 2 says that the engine is not there. But one that exits with
another code or dies of a signal counts as a recognition that failed, although nothing was recognized,
and the run ends with 1.

> `load_told`: what loading comes to by the end of the probe, and what a run makes of a load that failed,
> `crash_taken_for_recognition`: an engine whose import crashes is reported as a recognition that failed.
-/

namespace ImageText

open Report (Call World)

namespace Bridge

variable {σ α β : Type}

/-- What loading comes to, by the end of the probe. -/
structure Loads (b : Bridge) (probed : Except SystemError Finished) (loaded : Except Failure Unit) :
    Prop where
  result : loaded = (answer b.probing probed).map fun _ => ()
  ready : loaded = .ok () ↔ Passed probed
  unavailable : (∃ message, loaded = .error (.unavailable engineName message)) ↔ Absent probed
  recognition : (∃ message, loaded = .error (.recognition message)) ↔ Broken probed

/-- How a child process can end. -/
theorem passed_or_absent_or_broken (reply : Except SystemError Finished) :
    Passed reply ∨ Absent reply ∨ Broken reply := by
  cases reply with
  | error error => exact Or.inr (Or.inl (Or.inl ⟨error, rfl⟩))
  | ok f =>
    by_cases hpassed : f.exit = .code 0
    · exact Or.inl ⟨f, rfl, hpassed⟩
    · by_cases habsent : f.exit = .code unavailableCode
      · exact Or.inr (Or.inl (Or.inr ⟨f, rfl, habsent⟩))
      · exact Or.inr (Or.inr ⟨f, rfl, hpassed, habsent⟩)

theorem loads (b : Bridge) (probed : Except SystemError Finished) :
    Loads b probed ((answer b.probing probed).map fun _ => ()) := by
  cases ha : answer b.probing probed with
  | ok out =>
    have hpassed := passed_of_answer ha
    exact ⟨by rw [ha], iff_of_true rfl hpassed,
      iff_of_false (fun ⟨_, h⟩ => nomatch h) (not_absent_of_passed hpassed),
      iff_of_false (fun ⟨_, h⟩ => nomatch h) (not_broken_of_passed hpassed)⟩
  | error failure =>
    have hnot := not_passed_of_answer ha
    rcases answer_error ha with ⟨habsent, message, rfl⟩ | ⟨hbroken, message, rfl⟩
    · exact ⟨by rw [ha], iff_of_false (fun h => nomatch h) hnot, iff_of_true ⟨message, rfl⟩ habsent,
        iff_of_false (fun ⟨_, h⟩ => nomatch h) fun hbroken => not_absent_of_broken hbroken habsent⟩
    · exact ⟨by rw [ha], iff_of_false (fun h => nomatch h) hnot,
        iff_of_false (fun ⟨_, h⟩ => nomatch h) (not_absent_of_broken hbroken),
        iff_of_true ⟨message, rfl⟩ hbroken⟩

section Load

variable (host : Host (StateM σ)) (note : Record → StateM σ Unit) (b : Bridge) (i : Invocation)

/-- Loading starts the probe and nothing else. -/
theorem load_course (s : σ) :
    ∃ probed last, (b.recognizer host.recorded (aside note)).load (s, [])
      = ((answer b.probing probed).map fun _ => (), (last, [.launched b.probing probed])) := by
  obtain ⟨before, after, probed, next, hlaunch, hrun⟩ :=
    probe_run host.recorded (aside note) b (s, [])
  rw [noted_aside] at hlaunch hrun
  obtain ⟨hreply, hnext⟩ := Prod.mk.inj hlaunch
  refine ⟨probed, noted note after next.1, hrun.trans ?_⟩
  rw [← hnext, hreply]
  rfl

/-- A run that asks the bridge. -/
def call : Call (σ × List Event) := ⟨b.recognizer host.recorded (aside note), aside note, i⟩

variable (out : Device α) (err : Device β)

/-- A run whose engine could not be loaded has nothing to write to the output, asks nothing more, and
ends with the code for the failure. -/
theorem run_unloaded {w : World α β (σ × List Event)} {failure : Failure} {last : σ × List Event}
    (hload : (b.recognizer host.recorded (aside note)).load w.rest = (.error failure, last)) :
    ((call host note b i).run out err w).1 = failure.exitCode
      ∧ ((call host note b i).run out err w).2.out = w.out
      ∧ ((call host note b i).run out err w).2.rest.2 = last.2 := by
  have hextraction : (call host note b i).extraction w.rest = (.error failure, last) := by
    show (b.recognizer host.recorded (aside note)).extract (aside note) i w.rest = _
    rw [Recognizer.extract, bind_apply, hload]
    rfl
  rw [Report.run_failure out err (congrArg Prod.fst hextraction)]
  refine ⟨rfl, rfl, ?_⟩
  rw [Call.left, hextraction]
  rfl

/-- **What a failed load says.** Loading starts the probe and nothing else. The engine is ready exactly
if the probe passed; it is reported as not there exactly if the probe could not be started or exited with
code 2; and every other end of the probe is reported as a recognition that failed. A run whose engine
could not be loaded writes nothing to the output and starts nothing more. It ends with 2 if the engine is
not there, and with 1 if the probe failed in another way; so a run that ends with 1 may have loaded its
engine or not. -/
theorem load_told (o : Taped α) (e : Taped β) (s : σ) :
    let load := (b.recognizer host.recorded (aside note)).load (s, [])
    let run := (call host note b i).run out err ⟨o, e, (s, [])⟩
    ∃ probed, load.2.2 = [.launched b.probing probed] ∧ Loads b probed load.1
      ∧ (∀ failure, load.1 = .error failure →
        run.1 = failure.exitCode ∧ run.2.out = o ∧ run.2.rest.2 = load.2.2)
      ∧ (Absent probed → run.1 = 2) ∧ (Broken probed → run.1 = 1)
      ∧ (run.1 = 1 → Passed probed ∨ Broken probed) := by
  intro load run
  obtain ⟨probed, last, hload⟩ := load_course host note b s
  have hloads : Loads b probed load.1 := by
    rw [show load = _ from hload]
    exact loads b probed
  have hfailed : ∀ failure, load.1 = .error failure →
      run.1 = failure.exitCode ∧ run.2.out = o ∧ run.2.rest.2 = load.2.2 := by
    intro failure hfailure
    exact run_unloaded host note b i out err (w := ⟨o, e, (s, [])⟩) (Prod.ext hfailure rfl)
  have habsent : Absent probed → run.1 = 2 := by
    intro h
    obtain ⟨message, hmessage⟩ := hloads.unavailable.mpr h
    exact (hfailed _ hmessage).1
  refine ⟨probed, by rw [show load = _ from hload], hloads, hfailed, habsent, fun h => ?_, fun h => ?_⟩
  · obtain ⟨message, hmessage⟩ := hloads.recognition.mpr h
    exact (hfailed _ hmessage).1
  · refine (passed_or_absent_or_broken probed).imp id fun hcase => hcase.resolve_left fun hp => ?_
    rw [habsent hp] at h
    exact absurd h (by decide)

end Load

/-- A system on which every process exits with code 1. -/
def crashingHost (stderr : Bytes) : Host (StateM Unit) where
  isFile _ := pure true
  launch _ := pure (.ok ⟨[], stderr, .code 1, ""⟩)

/-- An engine whose import crashes is reported as a recognition that failed, and the run ends with 1
though nothing was loaded. -/
theorem crash_taken_for_recognition :
    let host := crashingHost (utf8 "boom")
    let b : Bridge := ⟨utf8 "python3", none⟩
    ((b.recognizer host.recorded (aside fun _ => pure ())).load ((), [])).1
        = .error (.recognition "boom")
      ∧ ((call host (fun _ => pure ()) b { image := utf8 "scan.png" }).run Sink.device Sink.device
          ⟨⟨{}, []⟩, ⟨{}, []⟩, ((), [])⟩).1 = 1 := by
  intro host b
  have hload : ((b.recognizer host.recorded (aside fun _ => pure ())).load ((), [])).1
      = .error (.recognition "boom") := by cbv
  exact ⟨hload, (run_unloaded host _ b _ Sink.device Sink.device (w := ⟨⟨{}, []⟩, ⟨{}, []⟩, ((), [])⟩)
    (Prod.ext hload rfl)).1⟩

end Bridge

end ImageText
