import ImageText.Proofs.Bridge
import ImageText.Proofs.Fragment.Seams
import ImageText.Proofs.Json.Compact
import ImageText.Proofs.Report

/-!
# Nothing is lost

Between the items of an answer and its text stand the choice of what is kept, the forms in which it is
shown, the line feeds and the trimming. Only white space is added or taken away on this way. So the ink
of the text, which is the text without its white space, is the ink of the fragments one after the other,
and that is the whole relation between them: nothing is lost, doubled, invented or moved. A fragment that
is a string counts as its own characters, and any other as its compact form.

> `ink_flatten`: the ink of a text,
> `run_silent_iff`: a run with a text ends with 0 and has written nothing exactly if the text is empty,
> `ink_kept`: both, with the fragments as the shapes of the answer tell them, and with their forms.
-/

namespace ImageText

/-! ## A run that writes nothing -/

namespace Report

variable {α β τ : Type} (out : Device α) (err : Device β)

theorem textLine_ne_nil (text : String) : textLine text ≠ [] := by
  rw [textLine, Text.utf8_append]
  exact List.append_ne_nil_of_right_ne_nil _ (by decide)

/-- A run that has a text ends with 0 and leaves both devices alone exactly if the text is empty. -/
theorem run_silent_iff {c : Call τ} {w : World α β τ} {text : String}
    (h : (c.extraction w.rest).1 = .ok text) :
    ((c.run out err w).1 = 0 ∧ (c.run out err w).2.out = w.out ∧ (c.run out err w).2.err = w.err)
      ↔ text = "" := by
  constructor
  · rintro ⟨hcode, hout, -⟩
    obtain ⟨outs, htape, hstored, -⟩ := run_zero out err hcode
    rw [hout] at htape
    rw [List.append_right_eq_self.mp htape.symm, h, gained] at hstored
    by_contra hne
    rw [if_neg hne] at hstored
    exact textLine_ne_nil text hstored.symm
  · rintro rfl
    rw [run_empty out err h]
    exact ⟨rfl, rfl, rfl⟩

/-- The recognizer of a call makes itself ready and gives an answer. -/
def Call.Finds (c : Call τ) (s : τ) (answer : Json.Value) : Prop :=
  ∃ loaded next, c.recognizer.load s = (.ok (), loaded)
    ∧ c.recognizer.recognize c.invocation.image c.invocation.options
        (c.note ⟨.debug, Record.apiTarget, c.recognizer.name ++ " loaded"⟩ loaded).2
      = (.ok answer, next)

theorem Call.Finds.extraction {c : Call τ} {s : τ} {answer : Json.Value} (h : c.Finds s answer) :
    (c.extraction s).1 = .ok (Fragment.flatten answer) := by
  obtain ⟨loaded, next, hload, hrecognize⟩ := h
  rw [Call.extraction, Bridge.extract_loaded c.note hload hrecognize]
  rfl

end Report

namespace Fragment

open Json (Value)
open Text (Visible ink isBlank)

/-! ## The form of a fragment -/

/-- The form in which a fragment is shown: a string stands for itself, and any other value is written as
compact JSON. -/
inductive Form : Value → List Char → Prop
  | verbatim (s : String) : Form (.string s) s.toList
  | json {v : Value} {cs : List Char} (h : ∀ s, v ≠ .string s) (hcs : Json.Compact v cs) : Form v cs

theorem form_iff {v : Value} {cs : List Char} : Form v cs ↔ cs = chars v := by
  constructor
  · intro h
    cases h with
    | verbatim s => rfl
    | json h hcs =>
      rw [(Json.compact_iff v).mp hcs]
      cases v with
      | string s => exact absurd rfl (h s)
      | _ => rfl
  · rintro rfl
    cases v with
    | string s => exact .verbatim s
    | _ => exact .json nofun ((Json.compact_iff _).mpr rfl)

theorem forms_iff {fragments : List Value} {forms : List (List Char)} :
    List.Forall₂ Form fragments forms ↔ forms = fragments.map chars := by
  induction fragments generalizing forms with
  | nil => exact List.forall₂_nil_left_iff
  | cons v rest ih =>
    rw [List.forall₂_cons_left_iff, List.map_cons]
    constructor
    · rintro ⟨form, more, hv, hrest, rfl⟩
      rw [form_iff.mp hv, ih.mp hrest]
    · rintro rfl
      exact ⟨_, _, form_iff.mpr rfl, ih.mpr rfl, rfl⟩

/-! ## The ink of a text -/

theorem ink_joinLines (texts : List (List Char)) : ink (joinLines texts) = texts.flatMap ink := by
  induction texts with
  | nil => rfl
  | cons s rest ih =>
    rw [List.flatMap_cons, ← ih]
    by_cases hrest : rest = []
    · rw [hrest, joinLines_singleton]
      exact (List.append_nil _).symm
    · rw [joinLines_cons s hrest, Text.ink_append]
      rfl

/-- **The ink of a text** is that of its fragments. -/
theorem ink_flatten (answer : Value) :
    ink (flatten answer).toList = ((all answer).map chars).flatMap ink := by
  rw [toList_flatten, Text.ink_trim, joined, ink_joinLines]

/-- A text is empty exactly if there is nothing to see of any fragment. -/
theorem flatten_eq_empty_iff_blank {answer : Value} :
    flatten answer = "" ↔ ∀ form ∈ (all answer).map chars, ∀ c ∈ form, isBlank c = true := by
  rw [flatten_eq_empty_iff, joined, visible_joinLines]
  simp only [List.mem_map, exists_exists_and_eq_and, not_exists, not_and, Text.not_visible_iff,
    forall_exists_index, and_imp, forall_apply_eq_imp_iff₂]

/-- **Nothing is lost, doubled, invented or moved.** An answer has one list of fragments, each of them has
one form, and the text and the forms have the same ink. The text is empty exactly if every form is white
space throughout, and these are the answers on which a run ends with 0 without a write or a flush. -/
theorem ink_kept (answer : Value) :
    (∃! fragments, Yields answer fragments)
      ∧ ∀ fragments, Yields answer fragments →
        (∃! forms, List.Forall₂ Form fragments forms)
        ∧ ∀ forms, List.Forall₂ Form fragments forms →
          ink (flatten answer).toList = forms.flatMap ink
          ∧ (flatten answer = "" ↔ ∀ form ∈ forms, ∀ c ∈ form, isBlank c = true)
          ∧ ∀ {α β τ : Type} (out : Device α) (err : Device β) (call : Report.Call τ)
              (w : Report.World α β τ), call.Finds w.rest answer →
              (((call.run out err w).1 = 0 ∧ (call.run out err w).2.out = w.out
                  ∧ (call.run out err w).2.err = w.err)
                ↔ ∀ form ∈ forms, ∀ c ∈ form, isBlank c = true) := by
  refine ⟨⟨all answer, yields_iff.mpr rfl, fun _ h => yields_iff.mp h⟩, fun fragments h => ?_⟩
  obtain rfl := yields_iff.mp h
  refine ⟨⟨_, forms_iff.mpr rfl, fun _ h => forms_iff.mp h⟩, fun forms hforms => ?_⟩
  obtain rfl := forms_iff.mp hforms
  refine ⟨ink_flatten answer, flatten_eq_empty_iff_blank, fun out err call w hfinds => ?_⟩
  rw [Report.run_silent_iff out err hfinds.extraction, flatten_eq_empty_iff_blank]

/-- A page with a string among blanks and a line of white space, and a mapping with an array and a string
among its texts. -/
def inkedAnswer : Value :=
  .array [
    .array [.array [.null, .array [.string " Guten Tag\t", .number (.whole 1)]],
      .array [.null, .array [.string "\n"]]],
    .object [(textsKey, .array [.array [.null, .string "a b"], .string "", .string "Zeile"])]]

/-- An answer whose fragments are a blank and a line feed. -/
def blankAnswer : Value :=
  .array [.array [.array [.null, .array [.string " "]]],
    .object [(textsKey, .array [.null, .string "\n"])]]

/-- A call that finds an answer. -/
def findingCall (answer : Value) : Report.Call Unit where
  recognizer :=
    { name := ""
      load := pure (.ok ())
      recognize := fun _ _ => pure (.ok answer) }
  note _ := pure ()
  invocation := { image := [] }

/-- The ink of a text from both shapes; and a run on fragments of white space, which ends with 0 and leaves
an output alone that would take nothing. -/
theorem ink_kept_shapes :
    let w : Report.World Sink Sink Unit := ⟨⟨{ capacity := some 0 }, []⟩, ⟨{}, []⟩, ()⟩
    let inked := (findingCall inkedAnswer).run Sink.device Sink.device w
    let blank := (findingCall blankAnswer).run Sink.device Sink.device w
    ink (flatten inkedAnswer).toList = "GutenTag[null,\"ab\"]Zeile".toList
      ∧ ¬ (inked.1 = 0 ∧ inked.2.out = w.out ∧ inked.2.err = w.err)
      ∧ flatten blankAnswer = "" ∧ blank.1 = 0 ∧ blank.2.out = w.out ∧ blank.2.err = w.err := by
  intro w inked blank
  have hfinds : ∀ answer, (findingCall answer).Finds w.rest answer := fun answer => ⟨(), (), rfl, rfl⟩
  have hinked : Yields inkedAnswer [.string " Guten Tag\t", .string "\n",
      .array [.null, .string "a b"], .string "Zeile"] := yields_iff.mpr rfl
  have hforms : List.Forall₂ Form [.string " Guten Tag\t", .string "\n",
        .array [.null, .string "a b"], .string "Zeile"]
      [" Guten Tag\t".toList, ['\n'], "[null,\"a b\"]".toList, "Zeile".toList] :=
    .cons (.verbatim _) (.cons (.verbatim "\n")
      (.cons (.json nofun (.array (.cons .null (.cons (.string "a b") .nil))))
        (.cons (.verbatim _) .nil)))
  have hblank : Yields blankAnswer [.string " ", .string "\n"] := yields_iff.mpr rfl
  have hwhite : List.Forall₂ Form [.string " ", .string "\n"] [[' '], ['\n']] :=
    .cons (.verbatim " ") (.cons (.verbatim "\n") .nil)
  obtain ⟨hink, -, hheard⟩ := ((ink_kept inkedAnswer).2 _ hinked).2 _ hforms
  obtain ⟨-, hempty, hsilent⟩ := ((ink_kept blankAnswer).2 _ hblank).2 _ hwhite
  have hall : ∀ form ∈ [[' '], ['\n']], ∀ c ∈ form, isBlank c = true :=
    List.forall_mem_cons.mpr ⟨List.forall_mem_singleton.mpr rfl,
      List.forall_mem_singleton.mpr (List.forall_mem_singleton.mpr rfl)⟩
  refine ⟨hink, ?_, hempty.mpr hall,
    (hsilent Sink.device Sink.device (findingCall blankAnswer) w (hfinds _)).mpr hall⟩
  -- one visible character is enough
  rw [hheard Sink.device Sink.device (findingCall inkedAnswer) w (hfinds _)]
  intro hblank
  have hletter : isBlank 'G' = true := hblank _ (List.mem_cons_self ..) 'G' (by decide)
  exact absurd hletter (by decide)

end Fragment

end ImageText
