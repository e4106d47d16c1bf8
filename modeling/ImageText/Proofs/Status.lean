import ImageText.Proofs.Engine.Ordinary
import ImageText.Proofs.Steady

/-!
# What an exit code says

The exit code of a process is all that this side goes by: 0 for a success, 2 for an engine that is not
there, and anything else for a recognition that failed. So the code should be 2 if the import raised
something, and 1 if anything else did. That is so for exceptions that the handlers take. One that
passes by them chooses its own code: a recognition that asks to exit with code 2 is reported as an
engine that is not there, and an import that asks to exit with code 0 passes the probe.

> `exits_told`: the exit codes of both processes in full, with the classification that holds when the
> engine raises only what the handlers take, and what this side makes of the codes.
-/

namespace ImageText

namespace Engine

/-- Whatever the engine raises, the handlers take it. -/
def Handled (engine : Option Engine) : Prop :=
  ∀ e r, engine = some e → e.Raises r → r.escape = none

/-- Every exit of the two processes of an engine. -/
structure Exits (engine : Option Engine) (image options : CodePoints) (probed ended : Exit) :
    Prop where
  probe : ∀ x, probed = x
    ↔ ((∃ e, Imported engine e) ∧ x = .code 0) ∨ ∃ r, Unimported engine r ∧ r.Ends unavailableCode x
  recognition : ∀ x, ended = x
    ↔ (∃ r, Unimported engine r ∧ r.Ends unavailableCode x)
      ∨ (Succeeds engine image options ∧ x = .code 0)
      ∨ ∃ r, Fails engine image options r ∧ r.Ends failedCode x

/-- The exit codes tell an engine that is not there from one that failed, and both from a success. -/
structure Classified (engine : Option Engine) (image options : CodePoints) (probed ended : Exit) :
    Prop where
  probe_passed : probed = .code 0 ↔ ∃ e, Imported engine e
  probe_absent : probed = .code unavailableCode ↔ ∃ r, Unimported engine r
  passed : ended = .code 0 ↔ Succeeds engine image options
  absent : ended = .code unavailableCode ↔ ∃ r, Unimported engine r
  failed : ended = .code failedCode ↔ ∃ r, Fails engine image options r

theorem exits (engine : Option Engine) (image options : CodePoints) :
    Exits engine image options (probe engine).exit (recognize engine image options).exit :=
  ⟨exit_probe_iff engine, exit_recognize_iff engine image options⟩

/-- Ordinary exceptions end a process with the code of the handler. -/
theorem ends_ordinary {P : Raised → Prop} (h : ∀ r, P r → r.escape = none) (code : Nat) (x : Exit) :
    (∃ r, P r ∧ r.Ends code x) ↔ (∃ r, P r) ∧ x = .code code := by
  constructor
  · rintro ⟨r, hr, ⟨-, hx⟩ | ⟨e, he, -⟩⟩
    · exact ⟨⟨r, hr⟩, hx⟩
    · cases (h r hr).symm.trans he
  · rintro ⟨⟨r, hr⟩, hx⟩
    exact ⟨r, hr, Or.inl ⟨h r hr, hx⟩⟩

/-- Nothing is raised that chooses its own code, so the code of the handler tells where it was. -/
theorem Exits.classified {engine : Option Engine} {image options : CodePoints} {probed ended : Exit}
    (h : Exits engine image options probed ended) (hhandled : Handled engine) :
    Classified engine image options probed ended := by
  have himport : ∀ r, Unimported engine r → r.escape = none := fun r hr =>
    hr.raised.elim id fun ⟨e, he, hraised⟩ => hhandled e r he hraised
  have hfailed : ∀ r, Fails engine image options r → r.escape = none := by
    rintro r ⟨e, noise, hthere, hcourse⟩
    exact hcourse.raised.elim id fun hraised => hhandled e r hthere.1 hraised
  have hprobe := h.probe
  have hrecognition := h.recognition
  simp only [ends_ordinary himport, ends_ordinary hfailed] at hprobe hrecognition
  constructor
  · rw [hprobe]
    simp [unavailableCode]
  · rw [hprobe]
    simp [unavailableCode]
  all_goals
    rw [hrecognition]
    simp [unavailableCode, failedCode]

end Engine

namespace Bridge

variable {σ : Type}

/-- What this side makes of the exits of the two processes. -/
structure Told (probed ended : Exit) (loaded : Except Failure Unit)
    (result : Except Failure Json.Value) (extracted : Except Failure String) : Prop where
  load_ok : loaded = .ok () ↔ probed = .code 0
  load_unavailable : (∃ message, loaded = .error (.unavailable engineName message))
    ↔ probed = .code unavailableCode
  recognize_unavailable : (∃ message, result = .error (.unavailable engineName message))
    ↔ ended = .code unavailableCode
  extract_unavailable : (∃ message, extracted = .error (.unavailable engineName message))
    ↔ probed = .code unavailableCode ∨ (probed = .code 0 ∧ ended = .code unavailableCode)

/-! ## What a process says -/

section Says

variable (c : Command) (f : Finished)

theorem answer_ok_iff : (∃ out, answer c (.ok f) = .ok out) ↔ f.exit = .code 0 := by
  constructor
  · rintro ⟨out, h⟩
    obtain ⟨g, hg, hexit, -⟩ := answer_ok h
    cases hg
    exact hexit
  · intro h
    exact ⟨_, answer_passed c h⟩

theorem answer_unavailable_iff :
    (∃ message, answer c (.ok f) = .error (.unavailable engineName message))
      ↔ f.exit = .code unavailableCode := by
  constructor
  · rintro ⟨message, h⟩
    rcases answer_error h with ⟨⟨error, hreply⟩ | ⟨g, hg, hexit⟩, -⟩ | ⟨-, other, hother⟩
    · cases hreply
    · cases hg
      exact hexit
    · cases hother
  · intro h
    exact ⟨complaint f, answer_absent c h⟩

/-- What the process has written is no concern of these messages. -/
theorem reading_unavailable_iff :
    (∃ message, reading c (.ok f) = .error (.unavailable engineName message))
      ↔ f.exit = .code unavailableCode := by
  rw [← answer_unavailable_iff c f]
  constructor
  · rintro ⟨message, h⟩
    rcases reading_error h with ha | ⟨g, refusal, -, -, -, hother⟩
    · exact ⟨message, ha⟩
    · cases hother
  · rintro ⟨message, ha⟩
    exact ⟨message, by rw [reading, ha]; rfl⟩

end Says

theorem map_error_iff {α β : Type} (x : Except Failure α) (f : α → β) (failure : Failure) :
    x.map f = .error failure ↔ x = .error failure := by
  cases x <;> simp [Except.map]

theorem steady_told {host : Host (StateM σ)} {b : Bridge} {i : Invocation} {probed ended : Finished}
    (h : Steady host b i.image i.options true (.ok probed) (.ok ended))
    (note : Record → StateM σ Unit) (s : σ) :
    Told probed.exit ended.exit (b.probe host note s).1
      (b.recognize host note i.image i.options s).1
      ((b.recognizer host note).extract note i s).1 := by
  have hrecognized : recognized b i.image i.options true (.ok ended)
      = reading (b.recognizing i.image i.options) (.ok ended) := if_pos rfl
  constructor
  · rw [probe_steady h, ← answer_ok_iff b.probing]
    cases answer b.probing (.ok probed) <;> simp [Except.map]
  · rw [probe_steady h, ← answer_unavailable_iff b.probing]
    simp only [map_error_iff]
  · rw [recognize_steady h, hrecognized, reading_unavailable_iff]
  · rw [extract_steady h, hrecognized, ← answer_unavailable_iff b.probing, ← answer_ok_iff b.probing,
      ← reading_unavailable_iff (b.recognizing i.image i.options)]
    cases answer b.probing (.ok probed) <;> simp [Except.bind, map_error_iff]

/-- **What the exit codes say.** For every engine, whatever it raises and answers, the exits of its two
processes are those of a success, of the handlers, or of an exception that passes by the handlers. If
the handlers take everything that the engine raises, then the codes classify it: 2 for an import that
raised something, 0 for a success, and 1 for everything else. This side goes by the code alone: the
engine is loaded if the probe exits with code 0, and it is not there if a process exits with code 2. -/
theorem exits_told {host : Host (StateM σ)} {b : Bridge} {i : Invocation}
    {errors : Engine.Encoding} {engine : Option Engine}
    (hserves : Serves host b i.image i.options errors engine) (note : Record → StateM σ Unit)
    (s : σ) :
    let probed := (Engine.serve errors engine b.probing.arguments).exit
    let ended := (Engine.serve errors engine (b.recognizing i.image i.options).arguments).exit
    let image := Engine.ofArgument i.image
    let options := Engine.ofArgument i.options.encode
    Engine.Exits engine image options probed ended
      ∧ (Engine.Handled engine → Engine.Classified engine image options probed ended)
      ∧ Told probed ended (b.probe host note s).1 (b.recognize host note i.image i.options s).1
          ((b.recognizer host note).extract note i s).1 := by
  intro probed ended image options
  have hprobed : probed = (Engine.probe engine).exit :=
    congrArg Engine.Ending.exit (Engine.ending_probe engine)
  have hended : ended = (Engine.recognize engine image options).exit :=
    (Engine.serve_recognize errors engine i.image i.options.encode).2
  have hexits : Engine.Exits engine image options probed ended := by
    rw [hprobed, hended]
    exact Engine.exits engine image options
  exact ⟨hexits, hexits.classified, steady_told hserves.steady note s⟩

/-- An engine that asks to exit with code 2 when it should answer. -/
def leavingEngine : Engine :=
  Stage.StandIn.engine { ocrError := some (Engine.Raised.ofArguments "SystemExit" [.int 2]) }

/-- The request passes by the handlers. -/
theorem fails_leaving (image : Path) (o : Options) :
    ∃ r, Engine.Fails (some leavingEngine) (Engine.ofArgument image) (Engine.ofArgument o.encode) r
      ∧ r.Leaves (.code Engine.unavailableCode) := by
  have hbuilt := (answers_standIn image o .null).built
  exact ⟨_, ⟨leavingEngine, _, ⟨rfl, rfl⟩, .unanswered (Engine.load_named o) hbuilt rfl⟩, _, rfl, rfl⟩

theorem exits_told_leaving :
    ∃ message, ((recognizer (m := StateM Unit) (servingHost (some leavingEngine)) (fun _ => pure ())
      ⟨[], none⟩).extract (fun _ => pure ()) ⟨[0x61], "en"⟩ ()).1
        = .error (.unavailable engineName message) := by
  obtain ⟨hexits, -, htold⟩ := exits_told (i := ⟨[0x61], "en"⟩)
    (serves_servingHost (some leavingEngine) [] [0x61] { lang := "en" }) (fun _ => pure ()) ()
  obtain ⟨r, hfails, hleaves⟩ := fails_leaving [0x61] { lang := "en" }
  refine htold.extract_unavailable.mpr (Or.inr ⟨?_, ?_⟩)
  · exact (hexits.probe _).mpr (Or.inl ⟨⟨leavingEngine, rfl, rfl⟩, rfl⟩)
  · exact (hexits.recognition _).mpr (Or.inr (Or.inr ⟨r, hfails, Or.inr hleaves⟩))

/-- The engine is there and passes the probe, and still the process that asks it for an answer says that
it is not there. -/
theorem leaving_misclassified :
    Engine.Imported (some leavingEngine) leavingEngine
      ∧ (Engine.serve .utf8 (some leavingEngine) [utf8 "probe"]).exit = .code 0
      ∧ (Engine.serve .utf8 (some leavingEngine)
          [utf8 "recognize", [0x61], Options.encode { lang := "en" }]).exit
            = .code Engine.unavailableCode := by
  obtain ⟨r, hfails, hleaves⟩ := fails_leaving [0x61] { lang := "en" }
  have hexits := Engine.exits (some leavingEngine) (Engine.ofArgument [0x61])
    (Engine.ofArgument (Options.encode { lang := "en" }))
  refine ⟨⟨rfl, rfl⟩, ?_, ?_⟩
  · rw [Engine.serve, Engine.ending_probe]
    exact (hexits.probe _).mpr (Or.inl ⟨⟨leavingEngine, rfl, rfl⟩, rfl⟩)
  · rw [(Engine.serve_recognize _ _ _ _).2]
    exact (hexits.recognition _).mpr (Or.inr (Or.inr ⟨r, hfails, Or.inr hleaves⟩))

end Bridge

end ImageText
