import ImageText.Proofs.Engine.Course
import ImageText.Proofs.Engine.Data
import ImageText.Proofs.Engine.Plain

/-!
# Exceptions of the program's own

Reading the options, taking an answer for a list, making it plain and writing it down can each raise
something. All of that is ordinary: it is raised as an error of type or value, of the document, or of the
depth of calls. So only the engine can raise what passes by the handlers.

> `Course.raised`: what a recognition raises is ordinary, or the engine has raised it.
-/

namespace ImageText.Engine

/-- Whatever is raised is an ordinary exception. -/
abbrev Ordinary {α : Type} (result : Except Raised α) : Prop := Only (·.escape = none) result

/-! ## Reading the options -/

namespace Load

/-- What reading raises, besides faults of the document, is ordinary. -/
def Orderly {α : Type} (step : LoadStep α) : Prop :=
  ∀ r, step = .error (.raised r) → r.escape = none

namespace Orderly

variable {α β : Type}

theorem ok (p : α × CodePoints) : Orderly (.ok p) := fun _ h => nomatch h

theorem fault (what : LoadFault) (left : Nat) :
    Orderly (.error (.fault what left) : LoadStep α) := fun _ h => nomatch h

theorem map {step : LoadStep α} (h : Orderly step) (f : α × CodePoints → β × CodePoints) :
    Orderly (step.map f) := by
  cases step with
  | ok p => exact ok (f p)
  | error stop =>
    rintro r ⟨⟩
    exact h r rfl

/-- A reader that goes on where another one stopped stops for the same reason. -/
theorem error {stop : LoadStop} {step : LoadStep α} (h : Orderly step) (hstop : step = .error stop) :
    Orderly (.error stop : LoadStep β) := by
  rintro r ⟨⟩
  exact h r hstop

end Orderly

theorem orderly_readText (start acc s : CodePoints) : Orderly (readText start acc s) := by
  induction hlength : s.length using Nat.strongRecOn generalizing acc s with
  | ind length ih =>
    subst hlength
    rw [readText.eq_def]
    split
    · exact .fault _ _
    split
    · exact .ok _
    split
    · split
      · exact .fault _ _
      next more =>
        have hmore : ∀ k, (more.drop k).length ≤ more.length := fun k => by
          rw [List.length_drop]
          omega
        have hrest : ∀ acc behind, behind.length ≤ more.length →
            Orderly (readText start acc behind) := fun acc behind h =>
          ih _ (by rw [List.length_cons, List.length_cons]; omega) acc behind rfl
        split
        · split
          · dsimp only
            split
            · exact .fault _ _
            · split
              · rw [List.drop_drop]
                exact hrest _ _ (hmore _)
              · exact hrest _ _ (hmore _)
            · exact hrest _ _ (hmore _)
          · exact .fault _ _
        · split
          · exact hrest _ _ (Nat.le_refl _)
          · exact .fault _ _
    split
    · exact .fault _ _
    next rest _ _ _ => exact ih _ (by rw [List.length_cons]; omega) _ rest rfl

theorem ordinary_intOf (negative : Bool) (ds : List Nat) : Ordinary (intOf negative ds) := by
  unfold intOf
  split
  · exact .error rfl
  · exact .ok _

theorem orderly_readNumber (s : CodePoints) : Orderly (readNumber s) := by
  unfold readNumber
  dsimp only
  split
  · exact .fault _ _
  · split
    · split
      · exact .ok _
      next raised h =>
        rintro _ ⟨⟩
        exact ordinary_intOf _ _ raised h
    · exact .ok _

theorem orderly_readScalar (s : CodePoints) : Orderly (readScalar s) := by
  unfold readScalar
  split
  · exact .ok _
  · split
    · exact (orderly_readText _ _ _).map _
    · exact orderly_readNumber _

theorem orderly_readItems {item : CodePoints → LoadStep Datum} (h : ∀ s, Orderly (item s))
    (fuel : Nat) (acc : List Datum) (s : CodePoints) : Orderly (readItems item fuel acc s) := by
  induction fuel generalizing acc s with
  | zero => exact .fault _ _
  | succ fuel ih =>
    rw [readItems]
    split
    next hstop => exact (h s).error hstop
    next =>
      split
      · exact .ok _
      · exact ih _ _
      · exact .fault _ _

theorem orderly_readEntries {value : CodePoints → LoadStep Datum} (h : ∀ s, Orderly (value s))
    (fuel : Nat) (acc : List (Datum × Datum)) (s : CodePoints) :
    Orderly (readEntries value fuel acc s) := by
  induction fuel generalizing acc s with
  | zero => exact .fault _ _
  | succ fuel ih =>
    unfold readEntries
    split
    · split
      next hstop => exact (orderly_readText _ _ _).error hstop
      next =>
        split
        · split
          next hstop => exact (h _).error hstop
          next =>
            dsimp only
            split
            · exact .ok _
            · exact ih _ _
            · exact .fault _ _
        · exact .fault _ _
    · exact .fault _ _

theorem orderly_noRoom {α : Type} (what : String) : Orderly (noRoom what : LoadStep α) := by
  rintro _ ⟨⟩
  rfl

/-- A value is read with less room for every bracket, so the induction is on the room. -/
theorem orderly_readValue (size room : Nat) (s : CodePoints) : Orderly (readValue size room s) := by
  induction room generalizing s with
  | zero =>
    unfold readValue
    split
    · exact orderly_noRoom _
    · exact orderly_noRoom _
    · exact orderly_readScalar _
  | succ room ih =>
    unfold readValue
    split
    · dsimp only
      split
      · exact .ok _
      · exact (orderly_readItems ih _ _ _).map _
    · dsimp only
      split
      · exact .ok _
      · exact (orderly_readEntries ih _ _ _).map _
    · exact orderly_readScalar _

theorem orderly_document (s : CodePoints) : Orderly (document s) := by
  unfold document
  split
  · exact .fault _ _
  · split
    next hstop => exact (orderly_readValue _ _ _).error hstop
    next =>
      split
      · exact .ok _
      · exact .fault _ _

end Load

theorem ordinary_load (s : CodePoints) : Ordinary (load s) := by
  unfold load
  have hdocument := Load.orderly_document s
  cases hread : Load.document s with
  | ok p => exact .ok _
  | error stop =>
    cases stop with
    | fault what left => exact .error rfl
    | raised r => exact .error (hdocument r hread)

theorem ordinary_named (options : Datum) : Ordinary (named options) := by
  unfold named
  split
  · exact .ok _
  · exact .error rfl

/-! ## Writing the answer -/

namespace Datum

theorem only_iterate (d : Datum) : Only Raised.IsMistake d.iterate := by
  fun_induction iterate d
  all_goals first | exact .ok _ | exact .error ⟨_, rfl⟩ | assumption

theorem only_listed (answer : Datum) : Only Raised.IsMistake answer.listed := by
  unfold listed
  split
  · exact .ok _
  · exact .ok _
  · exact .ok _
  · exact (only_iterate _).map _

end Datum

/-- Taking an answer for a list is a mistake at worst, and making it plain fails by a limit alone. -/
theorem ordinary_written (answer : Datum) : Ordinary (written answer) :=
  ((Datum.only_listed answer).mono fun _ => Raised.IsMistake.ordinary).bind fun d =>
    ((Datum.only_plain d programRoom).mono fun _ => Raised.IsLimit.ordinary).bind fun data =>
      ((Datum.only_dump data documentRoom).mono fun _ => Raised.Denies.ordinary).map _

/-! ## A recognition -/

/-- The engine raises an exception at one of its steps. -/
inductive Raises (e : Engine) : Raised → Prop
  | importing {r : Raised} (h : e.importing.result = .error r) : Raises e r
  | building {o : List (Datum × Datum)} {r : Raised} (h : (e.building o).result = .error r) :
      Raises e r
  | answering {o : List (Datum × Datum)} {image : CodePoints} {r : Raised}
      (h : (e.answering o image).result = .error r) : Raises e r

/-- **What a recognition raises is ordinary, or the engine has raised it.** -/
theorem Course.raised {e : Engine} {image options : CodePoints} {noise : List Noise} {r : Raised}
    (h : e.Course image options noise (.error r)) : r.escape = none ∨ e.Raises r := by
  cases h with
  | unread h =>
    exact Or.inl ((ordinary_load options).bind (fun d => ordinary_named d) r h)
  | unbuilt _ h => exact Or.inr (.building h)
  | unanswered _ _ h => exact Or.inr (.answering h)
  | unwritten _ _ _ h => exact Or.inl (ordinary_written _ r h)

/-- What an import raises is ordinary, or the engine has raised it. -/
theorem Unimported.raised {engine : Option Engine} {r : Raised} (h : Unimported engine r) :
    r.escape = none ∨ ∃ e, engine = some e ∧ e.Raises r := by
  cases engine with
  | none =>
    cases h
    exact Or.inl rfl
  | some e => exact Or.inr ⟨e, rfl, .importing (unimported_iff.mp h)⟩

end ImageText.Engine
