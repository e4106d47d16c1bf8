import ImageText.Bridge

/-!
# The course of an extraction

One extraction starts at most two child processes and looks at most once at a file. What it does next
depends on what came before, and what it answers on the whole course, so here the course is written
down: `Host.recorded` is any system with a memory of what was asked of it and what it answered, in the
order in which it was. Nothing is assumed of the system, which may answer the same question in another
way each time it is asked.

> `extract_course`: the only courses that there are, and the result of each.

What a caller wants to know of results and exit codes is read off the course.
-/

namespace ImageText

open Json (Value)

variable {σ : Type}

/-! ## A system with a memory -/

/-- Something that is asked of a system, and its answer. -/
inductive Event where
  | looked (path : Path) (found : Bool)
  | launched (command : Command) (reply : Except SystemError Finished)

/-- A system that keeps a record of what is asked of it. -/
def Host.recorded (host : Host (StateM σ)) : Host (StateM (σ × List Event)) where
  isFile path := fun s =>
    let (found, next) := host.isFile path s.1
    (found, (next, s.2 ++ [.looked path found]))
  launch command := fun s =>
    let (reply, next) := host.launch command s.1
    (reply, (next, s.2 ++ [.launched command reply]))

/-- What is noted leaves the record as it is. -/
def aside (note : Record → StateM σ Unit) (r : Record) : StateM (σ × List Event) Unit :=
  fun s => ((), ((note r s.1).2, s.2))

/-- The reply of the child process that was started last. -/
def lastReply? : List Event → Option (Except SystemError Finished)
  | [] => none
  | .launched _ reply :: rest => (lastReply? rest).orElse fun _ => some reply
  | .looked _ _ :: rest => lastReply? rest

namespace Bridge

/-! ## One child process -/

/-- The child process that finds out whether the engine is there. -/
def probing (b : Bridge) : Command := ⟨b.interpreter, b.script, [utf8 "probe"]⟩

/-- The child process that recognizes an image. -/
def recognizing (b : Bridge) (image : Path) (o : Options) : Command :=
  ⟨b.interpreter, b.script, [utf8 "recognize", image, o.encode]⟩

/-- What a child process comes to. -/
def answer (command : Command) : Except SystemError Finished → Except Failure (Bytes × String)
  | .error error => .error (.unavailable engineName
      ("cannot start " ++ shown command.interpreter ++ ": " ++ error.message))
  | .ok finished => (outcome finished).map fun stdout => (stdout, finished.elapsed)

/-- The state after some records have been noted. -/
def noted (note : Record → StateM σ Unit) (records : List Record) (s : σ) : σ :=
  records.foldl (fun s r => (note r s).2) s

theorem noted_append (note : Record → StateM σ Unit) (records more : List Record) (s : σ) :
    noted note (records ++ more) s = noted note more (noted note records s) :=
  List.foldl_append

/-- Nothing is recorded when something is noted. -/
theorem noted_aside (note : Record → StateM σ Unit) (records : List Record) (s : σ × List Event) :
    noted (aside note) records s = (noted note records s.1, s.2) := by
  induction records generalizing s with
  | nil => rfl
  | cons r rest ih =>
    rw [noted, List.foldl_cons, ← noted, ih]
    rfl

section Steps

theorem bind_apply {γ δ : Type} (x : StateM σ γ) (f : γ → StateM σ δ) (s : σ) :
    (x >>= f) s = f (x s).1 (x s).2 :=
  rfl

variable (host : Host (StateM σ)) (note : Record → StateM σ Unit) (b : Bridge)

/-- A child process is run to its end, and its end decides what it comes to. -/
theorem execute_run {c : Command} {s next : σ} {reply : Except SystemError Finished}
    (h : host.launch c s = (reply, next)) :
    ∃ records, execute host note c s = (answer c reply, noted note records next) := by
  cases reply with
  | error error =>
    refine ⟨[], ?_⟩
    rw [execute, bind_apply, h]
    rfl
  | ok finished =>
    cases hn : stderrRecord? finished with
    | none =>
      refine ⟨[], ?_⟩
      rw [execute, bind_apply, h]
      dsimp only
      rw [hn]
      rfl
    | some record =>
      refine ⟨[record], ?_⟩
      rw [execute, bind_apply, h]
      dsimp only
      rw [hn]
      rfl

/-- The probe is one child process. -/
theorem probe_run (s : σ) :
    ∃ before after probed next, host.launch b.probing (noted note before s) = (probed, next)
      ∧ b.probe host note s
        = ((answer b.probing probed).map fun _ => (), noted note after next) := by
  let record : Record := ⟨.debug, Record.engineTarget,
    "Probing " ++ engineName ++ " via " ++ shown b.interpreter⟩
  cases hr : host.launch b.probing (noted note [record] s) with
  | mk probed next =>
    obtain ⟨records, hrun⟩ := execute_run host note hr
    refine ⟨[record], records, probed, next, hr, ?_⟩
    have hnote : execute host note (b.command "probe" []) (note record s).2
        = (answer b.probing probed, noted note records next) := hrun
    rw [probe, bind_apply, bind_apply, hnote]
    cases answer b.probing probed <;> rfl

/-- What the process that recognizes an image comes to. -/
def reading (c : Command) (reply : Except SystemError Finished) : Except Failure Value :=
  (answer c reply).bind fun out => (Json.readDocument out.1).mapError .unreadable

/-- An image is recognized by one child process, if it is a file. -/
theorem recognize_run (image : Path) (o : Options) (s : σ) :
    ∃ found next, host.isFile image s = (found, next)
      ∧ ((found = false ∧ b.recognize host note image o s
            = (.error (.recognition ("input image not found: " ++ shown image)), next))
        ∨ (found = true ∧ ∃ before after ended last,
          host.launch (b.recognizing image o) (noted note before next) = (ended, last)
            ∧ b.recognize host note image o s
              = (reading (b.recognizing image o) ended, noted note after last))) := by
  cases hf : host.isFile image s with
  | mk found next =>
    refine ⟨found, next, rfl, ?_⟩
    cases found with
    | false =>
      refine Or.inl ⟨rfl, ?_⟩
      rw [recognize, bind_apply, hf, if_neg Bool.false_ne_true]
      rfl
    | true =>
      refine Or.inr ⟨rfl, ?_⟩
      let record : Record := ⟨.info, Record.engineTarget,
        "Recognizing " ++ String.ofList (Text.quotedPath image) ++ " (lang=" ++ o.lang
          ++ ")"⟩
      cases hr : host.launch (b.recognizing image o) (noted note [record] next) with
      | mk ended last =>
        obtain ⟨records, hrun⟩ := execute_run host note hr
        have hnote : execute host note (b.command "recognize" [image, o.encode]) (note record next).2
            = (answer (b.recognizing image o) ended, noted note records last) := hrun
        rw [recognize, bind_apply, hf, if_pos rfl, bind_apply, bind_apply, hnote]
        unfold reading
        refine ⟨[record], ?_⟩
        cases ha : answer (b.recognizing image o) ended with
        | error failure => exact ⟨records, ended, last, hr, by rw [ha]; rfl⟩
        | ok out =>
          refine ⟨records ++ [⟨.debug, Record.engineTarget,
            engineName ++ " finished in " ++ out.2 ++ ", " ++ toString out.1.length
              ++ " bytes of output"⟩], ended, last, hr, ?_⟩
          rw [ha, noted_append]
          rfl

/-- A recognizer that was loaded answers for the extraction. -/
theorem extract_loaded {r : Recognizer (StateM σ)} {i : Invocation} {s loaded next : σ}
    {answer : Except Failure Value} (hload : r.load s = (.ok (), loaded))
    (hrun : r.recognize i.image i.options
      (note ⟨.debug, Record.apiTarget, r.name ++ " loaded"⟩ loaded).2 = (answer, next)) :
    r.extract note i s = (answer.map Fragment.flatten, next) := by
  rw [Recognizer.extract, bind_apply, hload]
  dsimp only
  rw [bind_apply, bind_apply, hrun]
  cases answer <;> rfl

/-- The steps of an extraction: the probe, the look at the file, and the process that recognizes the
image, each only if those before it went well. -/
theorem extract_run (i : Invocation) (s : σ) :
    ∃ before after probed s₁, host.launch b.probing (noted note before s) = (probed, s₁)
      ∧ ((∃ failure, answer b.probing probed = .error failure
          ∧ (b.recognizer host note).extract note i s = (.error failure, noted note after s₁))
        ∨ (∃ out, answer b.probing probed = .ok out
          ∧ ∃ found s₂, host.isFile i.image (noted note after s₁) = (found, s₂)
            ∧ ((found = false ∧ (b.recognizer host note).extract note i s
                  = (.error (.recognition ("input image not found: " ++ shown i.image)), s₂))
              ∨ (found = true ∧ ∃ between last ended s₃,
                host.launch (b.recognizing i.image i.options) (noted note between s₂) = (ended, s₃)
                  ∧ (b.recognizer host note).extract note i s
                    = ((reading (b.recognizing i.image i.options) ended).map Fragment.flatten,
                        noted note last s₃))))) := by
  obtain ⟨before, after, probed, s₁, hlaunch, hprobe⟩ := probe_run host note b s
  cases ha : answer b.probing probed with
  | error failure =>
    refine ⟨before, after, probed, s₁, hlaunch, Or.inl ⟨failure, ha, ?_⟩⟩
    rw [ha] at hprobe
    have hload : (b.recognizer host note).load s = (.error failure, noted note after s₁) := hprobe
    rw [Recognizer.extract, bind_apply, hload]
    rfl
  | ok out =>
    rw [ha] at hprobe
    have hload : (b.recognizer host note).load s = (.ok (), noted note after s₁) := hprobe
    let loaded : Record := ⟨.debug, Record.apiTarget, engineName ++ " loaded"⟩
    obtain ⟨found, s₂, hfile, hcases⟩ :=
      recognize_run host note b i.image i.options (noted note (after ++ [loaded]) s₁)
    have hnote : noted note (after ++ [loaded]) s₁ = (note loaded (noted note after s₁)).2 :=
      noted_append note after [loaded] s₁
    refine ⟨before, after ++ [loaded], probed, s₁, hlaunch, Or.inr ⟨out, ha, found, s₂, hfile, ?_⟩⟩
    rcases hcases with ⟨hfound, hrun⟩ | ⟨hfound, between, last, ended, s₃, hrec, hrun⟩
    · rw [hnote] at hrun
      exact Or.inl ⟨hfound, extract_loaded note hload hrun⟩
    · rw [hnote] at hrun
      exact Or.inr ⟨hfound, between, last, ended, s₃, hrec, extract_loaded note hload hrun⟩

end Steps

/-! ## Ends of a child process -/

/-- The child was started and said that all went well. -/
def Passed (reply : Except SystemError Finished) : Prop :=
  ∃ f, reply = .ok f ∧ f.exit = .code 0

/-- The child could not be started, or said that the engine is not there. -/
def Absent (reply : Except SystemError Finished) : Prop :=
  (∃ error, reply = .error error) ∨ ∃ f, reply = .ok f ∧ f.exit = .code unavailableCode

/-- The child failed in any other way. -/
def Broken (reply : Except SystemError Finished) : Prop :=
  ∃ f, reply = .ok f ∧ f.exit ≠ .code 0 ∧ f.exit ≠ .code unavailableCode

theorem success_iff (e : Exit) : e.success = true ↔ e = .code 0 := by
  cases e with
  | code n =>
    cases n with
    | zero => exact ⟨fun _ => rfl, fun _ => rfl⟩
    | succ n => exact ⟨fun h => (nomatch h), fun h => (nomatch h)⟩
  | signal n => exact ⟨fun h => (nomatch h), fun h => (nomatch h)⟩

theorem not_absent_of_passed {reply : Except SystemError Finished} (h : Passed reply) :
    ¬ Absent reply := by
  obtain ⟨f, rfl, hexit⟩ := h
  rintro (⟨error, he⟩ | ⟨g, hg, hcode⟩)
  · cases he
  · cases hg
    rw [hexit] at hcode
    cases hcode

theorem not_broken_of_passed {reply : Except SystemError Finished} (h : Passed reply) :
    ¬ Broken reply := by
  obtain ⟨f, rfl, hexit⟩ := h
  rintro ⟨g, hg, hne, -⟩
  cases hg
  exact hne hexit

theorem not_absent_of_broken {reply : Except SystemError Finished} (h : Broken reply) :
    ¬ Absent reply := by
  obtain ⟨f, rfl, -, hne⟩ := h
  rintro (⟨error, he⟩ | ⟨g, hg, hcode⟩)
  · cases he
  · cases hg
    exact hne hcode

/-- A child comes to something exactly if it passed, and then to its output. -/
theorem answer_ok {c : Command} {reply : Except SystemError Finished} {out : Bytes × String}
    (h : answer c reply = .ok out) :
    ∃ f, reply = .ok f ∧ f.exit = .code 0 ∧ out.1 = f.stdout := by
  cases reply with
  | error error => cases h
  | ok f =>
    rw [answer, outcome] at h
    by_cases hs : f.exit.success = true
    · rw [if_pos hs] at h
      cases h
      exact ⟨f, rfl, (success_iff _).mp hs, rfl⟩
    · rw [if_neg hs] at h
      split at h <;> cases h

theorem passed_of_answer {c : Command} {reply : Except SystemError Finished} {out : Bytes × String}
    (h : answer c reply = .ok out) : Passed reply := by
  obtain ⟨f, hf, hexit, -⟩ := answer_ok h
  exact ⟨f, hf, hexit⟩

/-- A child that did not pass is to blame: the engine is not there, or it failed. -/
theorem answer_error {c : Command} {reply : Except SystemError Finished} {failure : Failure}
    (h : answer c reply = .error failure) :
    (Absent reply ∧ ∃ message, failure = .unavailable engineName message)
      ∨ (Broken reply ∧ ∃ message, failure = .recognition message) := by
  cases reply with
  | error error =>
    cases h
    exact Or.inl ⟨Or.inl ⟨error, rfl⟩, _, rfl⟩
  | ok f =>
    rw [answer, outcome] at h
    by_cases hs : f.exit.success = true
    · rw [if_pos hs] at h
      cases h
    · rw [if_neg hs] at h
      by_cases hc : f.exit = .code unavailableCode
      · rw [if_pos hc] at h
        cases h
        exact Or.inl ⟨Or.inr ⟨f, rfl, hc⟩, _, rfl⟩
      · rw [if_neg hc] at h
        cases h
        exact Or.inr ⟨⟨f, rfl, fun e => hs ((success_iff _).mpr e), hc⟩, _, rfl⟩

theorem answer_passed (c : Command) {f : Finished} (h : f.exit = .code 0) :
    answer c (.ok f) = .ok (f.stdout, f.elapsed) := by
  rw [answer, outcome, if_pos ((success_iff _).mpr h)]
  rfl

/-- What is read is what a child that passed has written, if it is a document. -/
theorem reading_ok {c : Command} {reply : Except SystemError Finished} {v : Value} :
    reading c reply = .ok v
      ↔ ∃ f, reply = .ok f ∧ f.exit = .code 0 ∧ Json.readDocument f.stdout = .ok v := by
  constructor
  · intro h
    rw [reading] at h
    cases ha : answer c reply with
    | error failure => rw [ha] at h; cases h
    | ok out =>
      obtain ⟨f, hf, hexit, hout⟩ := answer_ok ha
      refine ⟨f, hf, hexit, ?_⟩
      rw [ha, Except.bind, hout] at h
      cases hd : Json.readDocument f.stdout with
      | error refusal => rw [hd] at h; cases h
      | ok w => rw [hd] at h; cases h; rfl
  · rintro ⟨f, rfl, hexit, hd⟩
    rw [reading, answer_passed c hexit, Except.bind, hd]
    rfl

/-- If nothing is read, then the child did not pass or has not written a document. -/
theorem reading_error {c : Command} {reply : Except SystemError Finished} {failure : Failure}
    (h : reading c reply = .error failure) :
    answer c reply = .error failure
      ∨ ∃ f refusal, reply = .ok f ∧ f.exit = .code 0
        ∧ Json.readDocument f.stdout = .error refusal ∧ failure = .unreadable refusal := by
  rw [reading] at h
  cases ha : answer c reply with
  | error failure' => rw [ha] at h; cases h; exact Or.inl rfl
  | ok out =>
    obtain ⟨f, hf, hexit, hout⟩ := answer_ok ha
    rw [ha, Except.bind, hout] at h
    cases hd : Json.readDocument f.stdout with
    | error refusal => rw [hd] at h; cases h; exact Or.inr ⟨f, refusal, hf, hexit, hd, rfl⟩
    | ok v => rw [hd] at h; cases h

/-! ## The course -/

section Course

variable (host : Host (StateM σ)) (note : Record → StateM σ Unit) (b : Bridge) (i : Invocation)

/-- **The courses that there are**, each with the result and the record. The probe did not pass; or it
passed and the image is no file; or the image is a file and the second process ran. -/
inductive Course : Except Failure String → List Event → Prop
  | unprobed {probed : Except SystemError Finished} {failure : Failure}
      (ha : answer b.probing probed = .error failure) :
      Course (.error failure) [.launched b.probing probed]
  | missing {probed : Except SystemError Finished} {out : Bytes × String}
      (ha : answer b.probing probed = .ok out) :
      Course (.error (.recognition ("input image not found: " ++ shown i.image)))
        [.launched b.probing probed, .looked i.image false]
  | recognized {probed : Except SystemError Finished} {out : Bytes × String}
      (ended : Except SystemError Finished) (ha : answer b.probing probed = .ok out) :
      Course ((reading (b.recognizing i.image i.options) ended).map Fragment.flatten)
        [.launched b.probing probed, .looked i.image true,
          .launched (b.recognizing i.image i.options) ended]

theorem extract_course (s : σ) :
    ∃ result last seen, (b.recognizer host.recorded (aside note)).extract (aside note) i (s, [])
      = (result, (last, seen)) ∧ Course b i result seen := by
  obtain ⟨before, after, probed, s₁, hlaunch, hrun⟩ :=
    extract_run host.recorded (aside note) b i (s, [])
  -- what is noted does not reach the record, so it grows by the answers alone
  rw [noted_aside] at hlaunch
  obtain ⟨hreply, hs₁⟩ := Prod.mk.inj hlaunch
  rcases hrun with ⟨failure, ha, hrun⟩ | ⟨out, ha, found, s₂, hfile, hrun⟩
  · refine ⟨_, _, _, by rw [hrun, noted_aside], ?_⟩
    rw [← hs₁, hreply]
    exact .unprobed ha
  · rw [noted_aside] at hfile
    obtain ⟨hfound, hs₂⟩ := Prod.mk.inj hfile
    rcases hrun with ⟨rfl, hrun⟩ | ⟨rfl, between, last, ended, s₃, hrec, hrun⟩
    · refine ⟨_, _, _, hrun, ?_⟩
      rw [← hs₂, hfound, ← hs₁, hreply]
      exact .missing ha
    · rw [noted_aside] at hrec
      obtain ⟨hended, hs₃⟩ := Prod.mk.inj hrec
      refine ⟨_, _, _, by rw [hrun, noted_aside], ?_⟩
      rw [← hs₃, hended, ← hs₂, hfound, ← hs₁, hreply]
      exact .recognized ended ha

/-- Two processes of one extraction are told apart by their arguments. -/
theorem probing_ne_recognizing (image : Path) (o : Options) :
    b.probing ≠ b.recognizing image o := by
  intro h
  have hlength : 1 = 3 := congrArg (fun c : Command => c.arguments.length) h
  cases hlength

/-- The second process passed, and what it wrote is no document. -/
def Garbled (seen : List Event) : Prop :=
  ∃ f, .launched (b.recognizing i.image i.options) (.ok f) ∈ seen ∧ f.exit = .code 0
    ∧ ¬ ∃ v, Json.readDocument f.stdout = .ok v

/-- The process that was started last ended in a certain way. -/
def LastWas (end? : Except SystemError Finished → Prop) (seen : List Event) : Prop :=
  ∃ reply, lastReply? seen = some reply ∧ end? reply

/-- What a failure says of what was asked and answered, and its exit code. -/
structure Blames (seen : List Event) (failure : Failure) : Prop where
  /-- The engine is not there: the last process could not be started, or said so. -/
  unavailable : (∃ message, failure = .unavailable engineName message) ↔ LastWas Absent seen
  /-- Recognition failed: there is no image, or the last process failed. -/
  recognition : (∃ message, failure = .recognition message)
    ↔ .looked i.image false ∈ seen ∨ LastWas Broken seen
  unreadable : (∃ refusal, failure = .unreadable refusal) ↔ Garbled b i seen
  noSystem : ∀ error, failure ≠ .system error
  code : failure.exitCode = 2 ∧ (∃ message, failure = .unavailable engineName message)
    ∨ failure.exitCode = 1 ∧ ¬ ∃ message, failure = .unavailable engineName message

variable {b i} {seen : List Event}

theorem blames_unavailable {message : String} (h : LastWas Absent seen)
    (hbroken : ¬ (.looked i.image false ∈ seen ∨ LastWas Broken seen)) (hread : ¬ Garbled b i seen) :
    Blames b i seen (.unavailable engineName message) where
  unavailable := iff_of_true ⟨message, rfl⟩ h
  recognition := iff_of_false (fun ⟨_, e⟩ => nomatch e) hbroken
  unreadable := iff_of_false (fun ⟨_, e⟩ => nomatch e) hread
  noSystem _ e := nomatch e
  code := Or.inl ⟨rfl, message, rfl⟩

theorem blames_recognition {message : String} (habsent : ¬ LastWas Absent seen)
    (h : .looked i.image false ∈ seen ∨ LastWas Broken seen) (hread : ¬ Garbled b i seen) :
    Blames b i seen (.recognition message) where
  unavailable := iff_of_false (fun ⟨_, e⟩ => nomatch e) habsent
  recognition := iff_of_true ⟨message, rfl⟩ h
  unreadable := iff_of_false (fun ⟨_, e⟩ => nomatch e) hread
  noSystem _ e := nomatch e
  code := Or.inr ⟨rfl, fun ⟨_, e⟩ => nomatch e⟩

theorem blames_unreadable {refusal : Json.Refusal} (habsent : ¬ LastWas Absent seen)
    (hbroken : ¬ (.looked i.image false ∈ seen ∨ LastWas Broken seen)) (h : Garbled b i seen) :
    Blames b i seen (.unreadable refusal) where
  unavailable := iff_of_false (fun ⟨_, e⟩ => nomatch e) habsent
  recognition := iff_of_false (fun ⟨_, e⟩ => nomatch e) hbroken
  unreadable := iff_of_true ⟨refusal, rfl⟩ h
  noSystem _ e := nomatch e
  code := Or.inr ⟨rfl, fun ⟨_, e⟩ => nomatch e⟩

theorem lastWas_passed {reply : Except SystemError Finished} (hlast : lastReply? seen = some reply)
    (h : Passed reply) : ¬ LastWas Absent seen ∧ ¬ LastWas Broken seen := by
  constructor
  · rintro ⟨other, ho, habsent⟩
    cases hlast.symm.trans ho
    exact not_absent_of_passed h habsent
  · rintro ⟨other, ho, hbroken⟩
    cases hlast.symm.trans ho
    exact not_broken_of_passed h hbroken

/-- A process that did not pass is to blame, unless the image is missing or the answer is no
document. -/
theorem blames_last {c : Command} {reply : Except SystemError Finished} {failure : Failure}
    (ha : answer c reply = .error failure) (hlast : lastReply? seen = some reply)
    (hlooked : .looked i.image false ∉ seen) (hread : ¬ Garbled b i seen) :
    Blames b i seen failure := by
  rcases answer_error ha with ⟨habsent, message, rfl⟩ | ⟨hbroken, message, rfl⟩
  · refine blames_unavailable ⟨reply, hlast, habsent⟩ ?_ hread
    rintro (hl | ⟨other, ho, hbroken⟩)
    · exact hlooked hl
    · cases hlast.symm.trans ho
      exact not_absent_of_broken hbroken habsent
  · refine blames_recognition ?_ (Or.inr ⟨reply, hlast, hbroken⟩) hread
    rintro ⟨other, ho, habsent⟩
    cases hlast.symm.trans ho
    exact not_absent_of_broken hbroken habsent

theorem not_passed_of_answer {c : Command} {reply : Except SystemError Finished} {failure : Failure}
    (ha : answer c reply = .error failure) : ¬ Passed reply := by
  intro hpassed
  rcases answer_error ha with ⟨habsent, -⟩ | ⟨hbroken, -⟩
  · exact not_absent_of_passed hpassed habsent
  · exact not_broken_of_passed hpassed hbroken

section Courses

variable {result : Except Failure String}

theorem Course.order (h : Course b i result seen) :
    ∃ probed,
      (¬ Passed probed ∧ seen = [.launched b.probing probed])
      ∨ (Passed probed ∧ seen = [.launched b.probing probed, .looked i.image false])
      ∨ (Passed probed ∧ ∃ ended, seen = [.launched b.probing probed, .looked i.image true,
          .launched (b.recognizing i.image i.options) ended]) := by
  cases h with
  | unprobed ha => exact ⟨_, Or.inl ⟨not_passed_of_answer ha, rfl⟩⟩
  | missing ha => exact ⟨_, Or.inr (Or.inl ⟨passed_of_answer ha, rfl⟩)⟩
  | recognized ended ha => exact ⟨_, Or.inr (Or.inr ⟨passed_of_answer ha, ended, rfl⟩)⟩

theorem launched_iff {probed ended : Except SystemError Finished} (f : Finished) :
    .launched (b.recognizing i.image i.options) (.ok f) ∈ [Event.launched b.probing probed,
      .looked i.image true, .launched (b.recognizing i.image i.options) ended] ↔ ended = .ok f := by
  have hother := (probing_ne_recognizing b i.image i.options).symm
  rw [eq_comm]
  simp [hother]

/-- There is a text exactly if the second process passed and wrote a document. -/
theorem Course.ok_iff (h : Course b i result seen) (t : String) :
    result = .ok t ↔ ∃ f v, .launched (b.recognizing i.image i.options) (.ok f) ∈ seen
      ∧ f.exit = .code 0 ∧ Json.readDocument f.stdout = .ok v ∧ t = Fragment.flatten v := by
  have hother := (probing_ne_recognizing b i.image i.options).symm
  cases h with
  | unprobed ha =>
    refine iff_of_false (fun h => nomatch h) ?_
    rintro ⟨f, v, hf, -⟩
    simp [hother] at hf
  | missing ha =>
    refine iff_of_false (fun h => nomatch h) ?_
    rintro ⟨f, v, hf, -⟩
    simp [hother] at hf
  | recognized ended ha =>
    simp only [launched_iff]
    constructor
    · intro h
      cases hr : reading (b.recognizing i.image i.options) ended with
      | error failure => rw [hr] at h; cases h
      | ok v =>
        rw [hr] at h
        cases h
        obtain ⟨f, hf, hexit, hd⟩ := reading_ok.mp hr
        exact ⟨f, v, hf, hexit, hd, rfl⟩
    · rintro ⟨f, v, hf, hexit, hd, rfl⟩
      rw [reading_ok.mpr ⟨f, hf, hexit, hd⟩]
      rfl

/-- Every failure says what happened. -/
theorem Course.blames {failure : Failure} (h : Course b i (.error failure) seen) :
    Blames b i seen failure := by
  have hother := (probing_ne_recognizing b i.image i.options).symm
  generalize hresult : Except.error failure = result at h
  cases h with
  | unprobed ha =>
    cases hresult
    refine blames_last ha rfl (by simp) ?_
    rintro ⟨f, hf, -⟩
    simp [hother] at hf
  | missing ha =>
    cases hresult
    refine blames_recognition (lastWas_passed rfl (passed_of_answer ha)).1 (Or.inl (by simp)) ?_
    rintro ⟨f, hf, -⟩
    simp [hother] at hf
  | @recognized probed out ended ha =>
    have hlooked : .looked i.image false ∉ [Event.launched b.probing probed,
        .looked i.image true, .launched (b.recognizing i.image i.options) ended] := by simp
    have hgarbled : Garbled b i [Event.launched b.probing probed, .looked i.image true,
        .launched (b.recognizing i.image i.options) ended]
          ↔ ∃ f, ended = .ok f ∧ f.exit = .code 0 ∧ ¬ ∃ v, Json.readDocument f.stdout = .ok v := by
      simp only [Garbled, launched_iff]
    cases hr : reading (b.recognizing i.image i.options) ended with
    | ok v => rw [hr] at hresult; cases hresult
    | error failure' =>
      rw [hr] at hresult
      cases hresult
      rcases reading_error hr with ha' | ⟨f, refusal, hf, hexit, hd, rfl⟩
      · -- the second process did not pass
        refine blames_last ha' rfl hlooked ?_
        rw [hgarbled]
        rintro ⟨f, hf, hexit, -⟩
        exact not_passed_of_answer ha' ⟨f, hf, hexit⟩
      · -- it passed, and what it wrote is no document
        have hlast : lastReply? [Event.launched b.probing probed, .looked i.image true,
            .launched (b.recognizing i.image i.options) ended] = some ended := rfl
        have hnot := lastWas_passed hlast ⟨f, hf, hexit⟩
        refine blames_unreadable hnot.1 (fun h => h.elim hlooked hnot.2) (hgarbled.mpr ?_)
        refine ⟨f, hf, hexit, ?_⟩
        rintro ⟨v, hv⟩
        cases hd.symm.trans hv

end Courses

variable (b i)

/-- **The protocol of an extraction.** Whatever the system answers, the probe is the first thing that
is asked of it. The image is looked at exactly if the probe passed, and the second process is started
exactly if the image was found to be a file; its arguments are the bytes of the path and the options
as JSON, and nothing else is started. There is a text exactly if the second process passed and wrote a
document, and it is the text of the document. Otherwise the failure says what happened: the engine is
not there if the last process could not be started or said so, recognition failed if the last process
ended in another way or there is no image, and the answer is unreadable if the second process passed.
The exit code is 2 for an engine that is not there and 1 for every other failure. -/
theorem extract_protocol (s : σ) :
    let run := (b.recognizer host.recorded (aside note)).extract (aside note) i (s, [])
    let result := run.1
    let seen := run.2.2
    (∃ probed,
        (¬ Passed probed ∧ seen = [.launched b.probing probed])
        ∨ (Passed probed ∧ seen = [.launched b.probing probed, .looked i.image false])
        ∨ (Passed probed ∧ ∃ ended, seen = [.launched b.probing probed, .looked i.image true,
            .launched (b.recognizing i.image i.options) ended]))
      ∧ (∀ t, result = .ok t ↔ ∃ f v, .launched (b.recognizing i.image i.options) (.ok f) ∈ seen
          ∧ f.exit = .code 0 ∧ Json.readDocument f.stdout = .ok v ∧ t = Fragment.flatten v)
      ∧ ∀ failure, result = .error failure → Blames b i seen failure := by
  obtain ⟨result, last, seen, hrun, hcourse⟩ := extract_course host note b i s
  rw [hrun]
  refine ⟨hcourse.order, hcourse.ok_iff, ?_⟩
  rintro failure rfl
  exact hcourse.blames

end Course

end Bridge

end ImageText
