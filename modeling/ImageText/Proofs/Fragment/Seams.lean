import ImageText.Proofs.Fragment.Shapes
import ImageText.Proofs.Text.Trim

/-!
# Pages one after the other

The fragments of all pages are joined and the whole is trimmed once, so the text of two pages is not the
join of their two texts: white space at the seam stays, and a page of which nothing is visible leaves no
line feed behind. What makes it manageable is that a line feed is white space itself. Joining two lists
of lines is always a text, a line feed and a text, up to trimming, also when one of the lists is empty.

> `trim_joinLines_append`: the seam of two lists of lines,
> `flatten_append`: the text of two lists of records is the text of the one, white space with a line feed
> in it, and the text of the other, and if one of the two is empty, it is the other.
-/

namespace ImageText.Fragment

open Json (Value)
open Text (Visible isBlank trim)

/-! ## Lines one after the other -/

theorem joinLines_cons (s : List Char) {rest : List (List Char)} (h : rest ≠ []) :
    joinLines (s :: rest) = s ++ '\n' :: joinLines rest := by
  cases rest with
  | nil => exact absurd rfl h
  | cons t rest =>
    rw [joinLines, List.intercalate_cons_cons, List.append_assoc]
    rfl

theorem joinLines_singleton (s : List Char) : joinLines [s] = s := List.intercalate_singleton

theorem joinLines_append {texts more : List (List Char)} (h : texts ≠ []) (hmore : more ≠ []) :
    joinLines (texts ++ more) = joinLines texts ++ '\n' :: joinLines more := by
  induction texts with
  | nil => exact absurd rfl h
  | cons s rest ih =>
    by_cases hrest : rest = []
    · rw [hrest, joinLines_singleton]
      exact joinLines_cons s hmore
    · rw [List.cons_append, joinLines_cons s (List.append_ne_nil_of_left_ne_nil hrest more), ih hrest,
        joinLines_cons s hrest, List.append_assoc]
      rfl

/-- A line feed is nothing to see, so what is visible is visible in one of the lines. -/
theorem visible_joinLines {texts : List (List Char)} :
    Visible (joinLines texts) ↔ ∃ s ∈ texts, Visible s := by
  induction texts with
  | nil => exact iff_of_false Text.not_visible_nil fun ⟨_, hs, _⟩ => nomatch hs
  | cons s rest ih =>
    simp only [List.mem_cons, exists_eq_or_imp]
    by_cases hrest : rest = []
    · rw [hrest, joinLines_singleton]
      exact (or_iff_left fun ⟨_, hs, _⟩ => nomatch hs).symm
    · rw [joinLines_cons s hrest, Text.visible_lineFeed, ih]

/-- **The seam of two lists of lines**, up to trimming. -/
theorem trim_joinLines_append (texts more : List (List Char)) :
    trim (joinLines (texts ++ more)) = trim (joinLines texts ++ '\n' :: joinLines more) := by
  by_cases htexts : texts = []
  · rw [htexts]
    exact (Text.trim_lineFeed_left Text.not_visible_nil _).symm
  · by_cases hmore : more = []
    · rw [hmore, List.append_nil]
      exact (Text.trim_lineFeed_right _ Text.not_visible_nil).symm
    · rw [joinLines_append htexts hmore]

/-! ## Pages one after the other -/

/-- The fragments of an answer, one per line, before they are trimmed. -/
def joined (answer : Value) : List Char := joinLines ((all answer).map chars)

theorem toList_flatten (answer : Value) : (flatten answer).toList = trim (joined answer) :=
  String.toList_ofList

theorem flatten_eq_empty_iff {answer : Value} : flatten answer = "" ↔ ¬ Visible (joined answer) := by
  rw [← Text.trim_eq_nil_iff, ← toList_flatten, String.toList_eq_nil_iff]

theorem all_append (a b : List Value) :
    all (.array (a ++ b)) = all (.array a) ++ all (.array b) := by
  simp only [all, records, List.flatMap_append, List.filter_append]

theorem toList_flatten_append (a b : List Value) :
    (flatten (.array (a ++ b))).toList = trim (joined (.array a) ++ '\n' :: joined (.array b)) := by
  rw [toList_flatten, joined, all_append, List.map_append, trim_joinLines_append]
  rfl

/-- **The text of two lists of records** is that of the fragments of the one, a line feed, and those of
the other, trimmed once. So if one of them has no text, it is the text of the other; and otherwise it is
the one text, white space with a line feed in it, and the other text. -/
theorem flatten_append (a b : List Value) :
    (∀ left right, Yields (.array a) left → Yields (.array b) right →
        flatten (.array (a ++ b))
          = String.ofList (trim (joinLines (left.map chars) ++ '\n' :: joinLines (right.map chars))))
      ∧ (flatten (.array a) = "" → flatten (.array (a ++ b)) = flatten (.array b))
      ∧ (flatten (.array b) = "" → flatten (.array (a ++ b)) = flatten (.array a))
      ∧ (flatten (.array a) ≠ "" → flatten (.array b) ≠ "" →
        ∃ gap : String, (∀ c ∈ gap.toList, isBlank c = true) ∧ '\n' ∈ gap.toList
          ∧ flatten (.array (a ++ b)) = flatten (.array a) ++ gap ++ flatten (.array b)) := by
  refine ⟨fun left right ha hb => ?_, fun ha => ?_, fun hb => ?_, fun ha hb => ?_⟩
  · rw [yields_iff.mp ha, yields_iff.mp hb, ← String.toList_inj, String.toList_ofList]
    exact toList_flatten_append a b
  · refine String.toList_inj.mp ?_
    rw [toList_flatten_append, Text.trim_lineFeed_left (flatten_eq_empty_iff.mp ha), toList_flatten]
  · refine String.toList_inj.mp ?_
    rw [toList_flatten_append, Text.trim_lineFeed_right _ (flatten_eq_empty_iff.mp hb), toList_flatten]
  · rw [ne_eq, flatten_eq_empty_iff, not_not] at ha hb
    obtain ⟨before, after, hbefore, hafter, hseam⟩ := Text.trim_seam ha hb ['\n']
    have hblank : ¬ Visible (before ++ '\n' :: after) := by
      rw [Text.visible_lineFeed]
      exact not_or.mpr ⟨hbefore, hafter⟩
    refine ⟨String.ofList (before ++ '\n' :: after), ?_, ?_, String.toList_inj.mp ?_⟩
    · rw [String.toList_ofList]
      exact Text.not_visible_iff.mp hblank
    · rw [String.toList_ofList]
      exact List.mem_append_right _ (List.mem_cons_self ..)
    · rw [toList_flatten_append, String.toList_append, String.toList_append, String.toList_ofList,
        toList_flatten, toList_flatten]
      exact hseam

/-- White space at the seam stays, with that of a fragment which is nothing else. -/
theorem flatten_append_padded :
    let a : List Value := [.object [(textsKey, .array [.string " a ", .string "\t"])], .null]
    let b : List Value := [.array [.array [.null, .array [.string " b "]]]]
    flatten (.array a) ≠ "" ∧ flatten (.array b) ≠ ""
      ∧ (∃ gap : String, (∀ c ∈ gap.toList, isBlank c = true) ∧ '\n' ∈ gap.toList
        ∧ flatten (.array (a ++ b)) = flatten (.array a) ++ gap ++ flatten (.array b))
      ∧ flatten (.array (a ++ b)) = "a \n\t\n b" := by
  intro a b
  have ha : flatten (.array a) ≠ "" := by decide
  have hb : flatten (.array b) ≠ "" := by decide
  exact ⟨ha, hb, (flatten_append a b).2.2.2 ha hb, by decide⟩

end ImageText.Fragment
