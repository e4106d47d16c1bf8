import ImageText.Engine.Serve

/-!
# How a process of the engine ends

An engine is imported, built and asked, and its answer is written down; each of the four can raise
something. Here the courses that this can take are written down as a relation, and the exit code of
the process is read off the course. An exception that a handler takes ends the process with the code
of that handler. One that passes by the handlers ends it in its own way, and then the exit code says
what the exception wants it to say:

> `exit_probe_iff`: every exit code of a probe, and what it takes to get it,
> `exit_recognize_iff`: the same for a recognition.
-/

namespace ImageText.Engine

/-! ## The import -/

/-- The engine is there. -/
def Imported (engine : Option Engine) (e : Engine) : Prop :=
  engine = some e ∧ e.importing.result = .ok ()

/-- The engine cannot be imported: the import raises something, if only because there is no such
engine. -/
def Unimported (engine : Option Engine) (r : Raised) : Prop :=
  (start engine).result = .error r

theorem start_ok_iff {engine : Option Engine} {e : Engine} :
    (start engine).result = .ok e ↔ Imported engine e := by
  cases engine with
  | none => exact iff_of_false (fun h => nomatch h) (fun h => nomatch h.1)
  | some e' =>
    unfold Imported start
    dsimp only
    constructor
    · intro h
      cases himport : e'.importing.result with
      | error raised => rw [himport] at h; cases h
      | ok imported =>
        rw [himport] at h
        cases h
        exact ⟨rfl, himport⟩
    · rintro ⟨⟨⟩, himport⟩
      rw [himport]
      rfl

theorem imported_or_unimported (engine : Option Engine) :
    (∃ e, Imported engine e) ∨ ∃ r, Unimported engine r := by
  cases h : (start engine).result with
  | ok e => exact Or.inl ⟨e, start_ok_iff.mp h⟩
  | error raised => exact Or.inr ⟨raised, h⟩

theorem not_unimported {engine : Option Engine} {e : Engine} (h : Imported engine e) (r : Raised) :
    ¬ Unimported engine r := by
  intro hraised
  cases (start_ok_iff.mpr h).symm.trans hraised

theorem unimported_iff {e : Engine} {r : Raised} :
    Unimported (some e) r ↔ e.importing.result = .error r := by
  unfold Unimported start
  dsimp only
  cases e.importing.result with
  | ok imported => exact iff_of_false (fun h => nomatch h) (fun h => nomatch h)
  | error raised =>
    constructor <;> rintro ⟨⟩ <;> rfl

/-! ## The course of a recognition -/

/-- **The courses of a recognition** by an engine that is there: what was written meanwhile, and the
exception or the document that it came to. -/
inductive Course (e : Engine) (image options : CodePoints) :
    List Noise → Except Raised Bytes → Prop
  /-- The options cannot be read. -/
  | unread {r : Raised} (h : (load options).bind named = .error r) :
      Course e image options [] (.error r)
  /-- The engine cannot be built. -/
  | unbuilt {o : List (Datum × Datum)} {r : Raised} (ho : (load options).bind named = .ok o)
      (h : (e.building o).result = .error r) :
      Course e image options (e.building o).noise (.error r)
  /-- The engine does not answer. -/
  | unanswered {o : List (Datum × Datum)} {r : Raised} (ho : (load options).bind named = .ok o)
      (hbuilt : (e.building o).result = .ok ()) (h : (e.answering o image).result = .error r) :
      Course e image options ((e.building o).noise ++ (e.answering o image).noise) (.error r)
  /-- The answer cannot be written. -/
  | unwritten {o : List (Datum × Datum)} {answer : Datum} {r : Raised}
      (ho : (load options).bind named = .ok o) (hbuilt : (e.building o).result = .ok ())
      (hanswer : (e.answering o image).result = .ok answer) (h : written answer = .error r) :
      Course e image options ((e.building o).noise ++ (e.answering o image).noise) (.error r)
  /-- The answer is written. -/
  | done {o : List (Datum × Datum)} {answer : Datum} {document : Bytes}
      (ho : (load options).bind named = .ok o) (hbuilt : (e.building o).result = .ok ())
      (hanswer : (e.answering o image).result = .ok answer) (h : written answer = .ok document) :
      Course e image options ((e.building o).noise ++ (e.answering o image).noise) (.ok document)

section Recognizing

variable {e : Engine} {image options : CodePoints}

theorem course_recognizing (e : Engine) (image options : CodePoints) :
    Course e image options (recognizing e image options).noise
      (recognizing e image options).result := by
  unfold recognizing
  cases ho : (load options).bind named with
  | error raised => exact .unread ho
  | ok o =>
    dsimp only
    cases hbuilt : (e.building o).result with
    | error raised => exact .unbuilt ho hbuilt
    | ok built =>
      dsimp only
      cases hanswer : (e.answering o image).result with
      | error raised => exact .unanswered ho hbuilt hanswer
      | ok answer =>
        show Course e image options _ (written answer)
        cases hwritten : written answer with
        | error raised => exact .unwritten ho hbuilt hanswer hwritten
        | ok document => exact .done ho hbuilt hanswer hwritten

/-- **A recognition takes the one course that there is.** -/
theorem Course.recognizing_eq {noise : List Noise} {result : Except Raised Bytes}
    (h : Course e image options noise result) : recognizing e image options = ⟨noise, result⟩ := by
  unfold recognizing
  cases h with
  | unread h => rw [h]
  | unbuilt ho h => simp only [ho, h]
  | unanswered ho hbuilt h =>
    simp only [ho, hbuilt, h]
    rfl
  | unwritten ho hbuilt hanswer h =>
    simp only [ho, hbuilt, hanswer]
    rw [← h]
    rfl
  | done ho hbuilt hanswer h =>
    simp only [ho, hbuilt, hanswer]
    rw [← h]
    rfl

theorem exists_course (e : Engine) (image options : CodePoints) :
    ∃ noise result, Course e image options noise result :=
  ⟨_, _, course_recognizing e image options⟩

theorem Course.unique {noise noise' : List Noise} {result result' : Except Raised Bytes}
    (h : Course e image options noise result) (h' : Course e image options noise' result') :
    noise = noise' ∧ result = result' := by
  cases h.recognizing_eq.symm.trans h'.recognizing_eq
  exact ⟨rfl, rfl⟩

end Recognizing

/-! ## The process -/

section Process

variable {engine : Option Engine} {e : Engine} {r : Raised}

theorem probe_imported (h : Imported engine e) :
    probe engine = ⟨[], e.importing.noise, .code 0⟩ := by
  rw [probe, start_ok_iff.mpr h, h.1]
  rfl

theorem probe_unimported (h : Unimported engine r) :
    probe engine = unimportable (start engine).noise r := by
  rw [probe, show (start engine).result = .error r from h]

theorem recognize_unimported (h : Unimported engine r) (image options : CodePoints) :
    recognize engine image options = unimportable (start engine).noise r := by
  rw [recognize, show (start engine).result = .error r from h]

theorem recognize_raised (h : Imported engine e) {image options : CodePoints} {noise : List Noise}
    (hcourse : e.Course image options noise (.error r)) :
    recognize engine image options = failed (e.importing.noise ++ noise) r := by
  rw [recognize, start_ok_iff.mpr h, h.1]
  dsimp only
  rw [hcourse.recognizing_eq]
  rfl

theorem recognize_done (h : Imported engine e) {image options : CodePoints} {noise : List Noise}
    {document : Bytes} (hcourse : e.Course image options noise (.ok document)) :
    recognize engine image options = ⟨document, e.importing.noise ++ noise, .code 0⟩ := by
  rw [recognize, start_ok_iff.mpr h, h.1]
  dsimp only
  rw [hcourse.recognizing_eq]
  rfl

end Process

/-! ## Exceptions that pass by the handlers -/

/-- How such an exception ends the process. A request to exit names its own code: none is a success,
and what is no number is a failure. -/
def Escape.ending : Escape → Exit
  | .exit .null => .code 0
  | .exit (.int n) => .code (exitCodeOf n)
  | .exit (.bool b) => .code (if b then 1 else 0)
  | .exit _ => .code failedCode
  | .interrupt => .signal 2
  | .failure => .code failedCode

/-- An exception passes by the handlers and ends the process in a certain way. -/
def Raised.Leaves (r : Raised) (x : Exit) : Prop := ∃ e, r.escape = some e ∧ e.ending = x

/-- An exception ends the process in a certain way, with a handler that exits with a code. -/
def Raised.Ends (r : Raised) (code : Nat) (x : Exit) : Prop :=
  (r.escape = none ∧ x = .code code) ∨ r.Leaves x

theorem exit_escaped (noise : List Noise) (r : Raised) (e : Escape) :
    (escaped noise r e).exit = e.ending := by
  cases e with
  | exit value => cases value <;> rfl
  | interrupt => rfl
  | failure => rfl

theorem exit_unimportable_iff (noise : List Noise) (r : Raised) (x : Exit) :
    (unimportable noise r).exit = x ↔ r.Ends unavailableCode x := by
  unfold unimportable Raised.Ends Raised.Leaves
  cases hr : r.escape with
  | none => simp [eq_comm]
  | some e => simp [exit_escaped]

theorem exit_failed_iff (noise : List Noise) (r : Raised) (x : Exit) :
    (failed noise r).exit = x ↔ r.Ends failedCode x := by
  unfold failed Raised.Ends Raised.Leaves
  cases hr : r.escape with
  | none => simp [eq_comm]
  | some e => simp [exit_escaped]

/-! ## Exit codes -/

/-- The engine is there, and it is built, answers, and has its answer written. -/
def Succeeds (engine : Option Engine) (image options : CodePoints) : Prop :=
  ∃ e noise document, Imported engine e ∧ e.Course image options noise (.ok document)

/-- The engine is there, and something is raised after its import. -/
def Fails (engine : Option Engine) (image options : CodePoints) (r : Raised) : Prop :=
  ∃ e noise, Imported engine e ∧ e.Course image options noise (.error r)

section Ends

variable {engine : Option Engine} {image options : CodePoints} {r r' : Raised}

theorem Unimported.unique (h : Unimported engine r) (h' : Unimported engine r') : r = r' :=
  Except.error.inj (h.symm.trans h')

theorem Fails.unique (h : Fails engine image options r) (h' : Fails engine image options r') :
    r = r' := by
  obtain ⟨e, noise, hthere, hcourse⟩ := h
  obtain ⟨e', noise', hthere', hcourse'⟩ := h'
  cases hthere.1.symm.trans hthere'.1
  exact Except.error.inj (hcourse.unique hcourse').2

theorem not_fails (h : Succeeds engine image options) : ¬ Fails engine image options r := by
  rintro ⟨e', noise', hthere', hcourse'⟩
  obtain ⟨e, noise, document, hthere, hcourse⟩ := h
  cases hthere.1.symm.trans hthere'.1
  cases (hcourse.unique hcourse').2

end Ends

/-- **Every exit of a probe, and what it takes to get it.** -/
theorem exit_probe_iff (engine : Option Engine) (x : Exit) :
    (probe engine).exit = x
      ↔ ((∃ e, Imported engine e) ∧ x = .code 0)
        ∨ ∃ r, Unimported engine r ∧ r.Ends unavailableCode x := by
  rcases imported_or_unimported engine with ⟨e, hthere⟩ | ⟨r, hr⟩
  · rw [probe_imported hthere]
    constructor
    · intro h
      exact Or.inl ⟨⟨e, hthere⟩, h.symm⟩
    · rintro (⟨-, rfl⟩ | ⟨r, hr, -⟩)
      · rfl
      · exact absurd hr (not_unimported hthere r)
  · rw [probe_unimported hr, exit_unimportable_iff]
    constructor
    · intro h
      exact Or.inr ⟨r, hr, h⟩
    · rintro (⟨⟨e, hthere⟩, -⟩ | ⟨r', hr', h⟩)
      · exact absurd hr (not_unimported hthere r)
      · rwa [hr.unique hr']

/-- **Every exit of a recognition, and what it takes to get it.** -/
theorem exit_recognize_iff (engine : Option Engine) (image options : CodePoints) (x : Exit) :
    (recognize engine image options).exit = x
      ↔ (∃ r, Unimported engine r ∧ r.Ends unavailableCode x)
        ∨ (Succeeds engine image options ∧ x = .code 0)
        ∨ ∃ r, Fails engine image options r ∧ r.Ends failedCode x := by
  rcases imported_or_unimported engine with ⟨e, hthere⟩ | ⟨r, hr⟩
  · have hnone : ¬ ∃ r, Unimported engine r ∧ r.Ends unavailableCode x :=
      fun ⟨r, hr, _⟩ => not_unimported hthere r hr
    rw [or_iff_right hnone]
    obtain ⟨noise, result, hcourse⟩ := exists_course e image options
    cases result with
    | ok document =>
      have hsucceeds : Succeeds engine image options := ⟨e, noise, document, hthere, hcourse⟩
      rw [recognize_done hthere hcourse]
      constructor
      · intro h
        exact Or.inl ⟨hsucceeds, h.symm⟩
      · rintro (⟨-, rfl⟩ | ⟨r, hfails, -⟩)
        · rfl
        · exact absurd hfails (not_fails hsucceeds)
    | error r =>
      have hfails : Fails engine image options r := ⟨e, noise, hthere, hcourse⟩
      rw [recognize_raised hthere hcourse, exit_failed_iff]
      constructor
      · intro h
        exact Or.inr ⟨r, hfails, h⟩
      · rintro (⟨hsucceeds, -⟩ | ⟨r', hfails', h⟩)
        · exact absurd hfails (not_fails hsucceeds)
        · rwa [hfails.unique hfails']
  · have hnone : ¬ ((Succeeds engine image options ∧ x = .code 0)
        ∨ ∃ r, Fails engine image options r ∧ r.Ends failedCode x) := by
      rintro (⟨⟨e, _, _, hthere, _⟩, -⟩ | ⟨_, ⟨e, _, hthere, _⟩, -⟩) <;>
        exact not_unimported hthere r hr
    rw [or_iff_left hnone, recognize_unimported hr, exit_unimportable_iff]
    constructor
    · intro h
      exact ⟨r, hr, h⟩
    · rintro ⟨r', hr', h⟩
      rwa [hr.unique hr']

end ImageText.Engine
