import ImageText.Proofs.Crossing

/-!
# A system that keeps to its answers

Nothing is assumed of the system of an extraction in general. On one where a path is a file or is not,
and where each of the two child processes comes to the same end whenever it is started, the result is a
function of those three:

> `probe_steady`, `recognize_steady`, `extract_steady`: the result of each step and of all of them.

How long the processes run and what else changes in the system is left open. `Serves` and `Runs` are the
systems of the built-in program: the first starts every process, the second may refuse to.
-/

namespace ImageText

open Json (Value)

namespace Bridge

variable {σ : Type}

/-- A system in which the image of a recognition is a file or is not, and the two processes come to
certain ends. -/
structure Steady (host : Host (StateM σ)) (b : Bridge) (image : Path) (o : Options) (found : Bool)
    (probed ended : Except SystemError Finished) : Prop where
  file : ∀ s, (host.isFile image s).1 = found
  probing : ∀ s, ∃ elapsed, (host.launch b.probing s).1 = probed.map (·.lasting elapsed)
  recognizing : ∀ s, ∃ elapsed,
    (host.launch (b.recognizing image o) s).1 = ended.map (·.lasting elapsed)

/-- What a recognition comes to if the image is a file or is not and the process ends in a certain
way. -/
def recognized (b : Bridge) (image : Path) (o : Options) (found : Bool)
    (ended : Except SystemError Finished) : Except Failure Value :=
  if found then reading (b.recognizing image o) ended
  else .error (.recognition ("input image not found: " ++ shown image))

/-! ## Failures -/

section Failures

variable (c : Command) {f : Finished}

/-- The message for an engine that is not there is what the process has to say. -/
theorem answer_absent (h : f.exit = .code unavailableCode) :
    answer c (.ok f) = .error (.unavailable engineName (complaint f)) := by
  have hfailed : f.exit.success ≠ true := by
    rw [h]
    exact Bool.false_ne_true
  rw [answer, outcome, if_neg hfailed, if_pos h]
  rfl

/-- So it is for a recognition that failed. -/
theorem answer_broken (hpassed : f.exit ≠ .code 0) (hthere : f.exit ≠ .code unavailableCode) :
    answer c (.ok f) = .error (.recognition (complaint f)) := by
  have hfailed : f.exit.success ≠ true := fun h => hpassed ((success_iff _).mp h)
  rw [answer, outcome, if_neg hfailed, if_neg hthere]
  rfl

end Failures

/-! ## The time does not matter -/

theorem outcome_lasting (f : Finished) (elapsed : String) :
    outcome (f.lasting elapsed) = outcome f :=
  rfl

theorem passes_lasting (c : Command) (reply : Except SystemError Finished) (elapsed : String) :
    ((answer c (reply.map (·.lasting elapsed))).map fun _ => ())
      = (answer c reply).map fun _ => () := by
  cases reply with
  | error error => rfl
  | ok f =>
    show ((outcome (f.lasting elapsed)).map _).map _ = ((outcome f).map _).map _
    rw [outcome_lasting]
    cases outcome f <;> rfl

theorem reading_lasting (c : Command) (reply : Except SystemError Finished) (elapsed : String) :
    reading c (reply.map (·.lasting elapsed)) = reading c reply := by
  cases reply with
  | error error => rfl
  | ok f =>
    show ((outcome (f.lasting elapsed)).map _).bind _ = ((outcome f).map _).bind _
    rw [outcome_lasting]
    cases outcome f <;> rfl

/-! ## Results -/

section Steady

variable {host : Host (StateM σ)} {b : Bridge} {image : Path} {o : Options} {found : Bool}
  {probed ended : Except SystemError Finished}

theorem probe_steady (h : Steady host b image o found probed ended)
    (note : Record → StateM σ Unit) (s : σ) :
    (b.probe host note s).1 = (answer b.probing probed).map fun _ => () := by
  obtain ⟨before, after, reply, next, hlaunch, hrun⟩ := probe_run host note b s
  obtain ⟨elapsed, hreply⟩ := h.probing (noted note before s)
  rw [hlaunch] at hreply
  rw [hrun, show reply = _ from hreply, passes_lasting]

theorem recognize_steady (h : Steady host b image o found probed ended)
    (note : Record → StateM σ Unit) (s : σ) :
    (b.recognize host note image o s).1 = recognized b image o found ended := by
  obtain ⟨there, next, hfile, hcases⟩ := recognize_run host note b image o s
  have hthere : there = found := by
    rw [← h.file s, hfile]
  subst hthere
  rcases hcases with ⟨rfl, hrun⟩ | ⟨rfl, before, after, reply, last, hlaunch, hrun⟩
  · rw [hrun]
    rfl
  · obtain ⟨elapsed, hreply⟩ := h.recognizing (noted note before next)
    rw [hlaunch] at hreply
    rw [hrun, show reply = _ from hreply, reading_lasting]
    rfl

/-- **The result of an extraction.** -/
theorem extract_steady {i : Invocation} (h : Steady host b i.image i.options found probed ended)
    (note : Record → StateM σ Unit) (s : σ) :
    ((b.recognizer host note).extract note i s).1
      = (answer b.probing probed).bind fun _ =>
        (recognized b i.image i.options found ended).map Fragment.flatten := by
  obtain ⟨before, after, reply, s₁, hlaunch, hcases⟩ := extract_run host note b i s
  obtain ⟨elapsed, hreply⟩ := h.probing (noted note before s)
  rw [hlaunch] at hreply
  have hpass := passes_lasting b.probing probed elapsed
  rw [← show reply = _ from hreply] at hpass
  rcases hcases with ⟨failure, ha, hrun⟩ | ⟨out, ha, there, s₂, hfile, hcases⟩
  · rw [ha] at hpass
    rw [hrun]
    cases hp : answer b.probing probed with
    | error failure' =>
      rw [hp] at hpass
      cases hpass
      rfl
    | ok out =>
      rw [hp] at hpass
      cases hpass
  · rw [ha] at hpass
    obtain ⟨out', hp⟩ : ∃ out', answer b.probing probed = .ok out' := by
      cases hp : answer b.probing probed with
      | error failure => rw [hp] at hpass; cases hpass
      | ok out' => exact ⟨out', rfl⟩
    rw [hp]
    -- the probe passed, and what is left is a recognition
    have hthere : there = found := by
      rw [← h.file (noted note after s₁), hfile]
    subst hthere
    rcases hcases with ⟨rfl, hrun⟩ | ⟨rfl, between, last, reply', s₃, hrec, hrun⟩
    · rw [hrun]
      rfl
    · obtain ⟨elapsed', hreply'⟩ := h.recognizing (noted note between s₂)
      rw [hrec] at hreply'
      rw [hrun, show reply' = _ from hreply', reading_lasting]
      rfl

/-- The system on which the built-in program runs with an engine is one. -/
theorem Serves.steady {errors : Engine.Encoding} {engine : Option Engine}
    (h : Serves host b image o errors engine) :
    Steady host b image o true (.ok (Engine.serve errors engine b.probing.arguments))
      (.ok (Engine.serve errors engine (b.recognizing image o).arguments)) where
  file := h.file
  probing s := by
    obtain ⟨elapsed, next, hlaunch⟩ := h.child _ (Or.inl rfl) s
    exact ⟨elapsed, by rw [hlaunch]; rfl⟩
  recognizing s := by
    obtain ⟨elapsed, next, hlaunch⟩ := h.child _ (Or.inr rfl) s
    exact ⟨elapsed, by rw [hlaunch]; rfl⟩

end Steady

/-! ## The built-in program -/

/-- What a child process of the built-in program comes to, unless the system refuses to start it. -/
def started (errors : Engine.Encoding) (engine : Option Engine)
    (refused : Command → Option SystemError) (c : Command) : Except SystemError Finished :=
  match refused c with
  | some error => .error error
  | none => .ok (Engine.serve errors engine c.arguments)

/-- A system with certain files that runs the built-in program with an engine, unless it refuses to
start it. -/
structure Runs (host : Host (StateM σ)) (errors : Engine.Encoding) (engine : Option Engine)
    (found : Path → Bool) (refused : Command → Option SystemError) : Prop where
  file : ∀ path s, (host.isFile path s).1 = found path
  child : ∀ c, c.script = none → ∀ s, ∃ elapsed,
    (host.launch c s).1 = (started errors engine refused c).map (·.lasting elapsed)

theorem Runs.steady {host : Host (StateM σ)} {errors : Engine.Encoding} {engine : Option Engine}
    {found : Path → Bool} {refused : Command → Option SystemError}
    (h : Runs host errors engine found refused) {b : Bridge} (hembedded : b.script = none)
    (image : Path) (o : Options) :
    Steady host b image o (found image) (started errors engine refused b.probing)
      (started errors engine refused (b.recognizing image o)) where
  file := h.file image
  probing := h.child b.probing hembedded
  recognizing := h.child (b.recognizing image o) hembedded

/-- A system where every path is a file and every child is the built-in program with an engine. -/
def servingHost (engine : Option Engine) : Host (StateM Unit) where
  isFile _ := pure true
  launch c := pure (.ok (Engine.serve .utf8 engine c.arguments))

theorem serves_servingHost (engine : Option Engine) (interpreter image : Path) (o : Options) :
    Serves (servingHost engine) ⟨interpreter, none⟩ image o .utf8 engine :=
  ⟨rfl, fun _ => rfl, fun _ _ s => ⟨"", s, rfl⟩⟩

theorem runs_servingHost (engine : Option Engine) :
    Runs (servingHost engine) .utf8 engine (fun _ => true) (fun _ => none) :=
  ⟨fun _ _ => rfl, fun _ _ _ => ⟨"", rfl⟩⟩

end Bridge

end ImageText
