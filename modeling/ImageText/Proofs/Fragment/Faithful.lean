import ImageText.Proofs.Fragment.Seams
import ImageText.Proofs.Json.Printer
import ImageText.Proofs.Json.ReadBack

/-!
# Fragments in JSON form

An item that is not a string is shown in its JSON form. Somebody who finds it in the text can have it
back: it is a document for the reader that read the engine's answer, it stands on one line, and since it
begins and ends with something visible, it stands there as it was shown, also at the ends of the text
where white space is taken away. All this is about values that are `Exact`, and what a document is read
as holds no others, apart from doubles:

> `exact_of_read`: an item of an answer that was read is exact unless a double is in it,
> `json_form_faithful`: an exact item in JSON form is read back and is not touched by trimming.

A string is shown as it is, so it may look like any of them.
-/

namespace ImageText.Fragment

open Json (Value)
open Text (Tight isBlank trimStart trimEnd)

/-! ## Items are parts of an answer -/

theorem part_of_ofLine? {entry item : Value} (h : ofLine? entry = some item) : item.Part entry := by
  unfold ofLine? at h
  split at h
  next box first extras more =>
    cases h
    have hsecond : Value.array (item :: extras) ∈ box :: .array (item :: extras) :: more :=
      List.mem_cons_of_mem _ (List.mem_cons_self ..)
    exact .item hsecond (.item (List.mem_cons_self ..) .self)
  next => cases h

theorem part_of_mem_ofRecord {record item : Value} (h : item ∈ ofRecord record) :
    item.Part record := by
  unfold ofRecord at h
  split at h
  next lines =>
    obtain ⟨entry, hentry, hitem⟩ := List.mem_filterMap.mp h
    exact .item hentry (part_of_ofLine? hitem)
  next members =>
    split at h
    next items hmember =>
      obtain ⟨before, behind, hmembers, -⟩ := List.lookup_eq_some_iff.mp hmember
      have hmem : (textsKey, Value.array items) ∈ members := by
        rw [hmembers]
        exact List.mem_append_right _ (List.mem_cons_self ..)
      exact .member hmem (.item h .self)
    next => cases h
  next => cases h

/-- What is found in an answer is a part of it. -/
theorem part_of_mem_all {answer item : Value} (h : item ∈ all answer) : item.Part answer := by
  obtain ⟨record, hrecord, hitem⟩ := List.mem_flatMap.mp (List.mem_filter.mp h).1
  unfold records at hrecord
  split at hrecord
  · exact .item hrecord (part_of_mem_ofRecord hitem)
  · cases hrecord

/-- **An item of an answer that was read is exact unless a double is in it**, and it is not nested too
deeply to be read again. -/
theorem exact_of_read {document : Bytes} {answer item : Value}
    (hread : Json.readDocument document = .ok answer) (hitem : item ∈ all answer)
    (hwhole : item.Whole) : item.Exact ∧ item.depth ≤ 127 := by
  obtain ⟨hproper, hdepth⟩ := Json.proper_readDocument hread
  have hpart := part_of_mem_all hitem
  exact ⟨⟨hpart.proper hproper, hwhole⟩, Nat.le_trans hpart.depth_le hdepth⟩

/-! ## The edges of a JSON form -/

/-- What is shown of an item that is not a string is its JSON form. -/
theorem chars_eq {item : Value} (h : ∀ s, item ≠ .string s) : chars item = item.chars := by
  cases item with
  | string s => exact absurd rfl (h s)
  | _ => rfl

theorem tight_wholeText (n : Int) : Tight (Json.wholeText n) := by
  refine Text.tight_of_forall (List.forall_mem_append.mpr ⟨?_, ?_⟩)
  · split
    · exact List.forall_mem_singleton.mpr rfl
    · exact List.forall_mem_nil _
  · exact fun c hc => Text.isBlank_digit (Json.toDigits_digit _ c hc)

/-- A JSON form has a beginning and an end, and both are visible. -/
theorem edges_chars {item : Value} (hexact : item.Exact) (h : ∀ s, item ≠ .string s) :
    chars item ≠ [] ∧ Tight (chars item) := by
  rw [chars_eq h]
  cases item with
  | null => exact ⟨List.cons_ne_nil _ _, Text.tight_of_all rfl⟩
  | bool b => cases b <;> exact ⟨List.cons_ne_nil _ _, Text.tight_of_all rfl⟩
  | number n =>
    cases n with
    | whole n => exact ⟨List.append_ne_nil_of_right_ne_nil _ Nat.toDigits_ne_nil, tight_wholeText n⟩
    | real d => exact absurd rfl (hexact.whole _ .self d)
  | string s => exact absurd rfl (h s)
  | array items => exact ⟨List.cons_ne_nil _ _, Text.tight_enclosed (by decide) _ (by decide)⟩
  | object members => exact ⟨List.cons_ne_nil _ _, Text.tight_enclosed (by decide) _ (by decide)⟩

/-! ## A line among others -/

/-- Lines, each with a line feed behind it. -/
def linesBefore (lines : List (List Char)) : List Char := lines.flatMap fun line => line ++ ['\n']

/-- Lines, each with a line feed before it. -/
def linesBehind (lines : List (List Char)) : List Char := lines.flatMap fun line => '\n' :: line

theorem joinLines_first (line : List Char) (behind : List (List Char)) :
    joinLines (line :: behind) = line ++ linesBehind behind := by
  induction behind generalizing line with
  | nil => rw [joinLines_singleton, linesBehind, List.flatMap_nil, List.append_nil]
  | cons next behind ih =>
    rw [joinLines_cons line (List.cons_ne_nil _ _), ih, linesBehind, linesBehind, List.flatMap_cons]
    rfl

/-- A line divides a text into what stands before it and what stands behind it. -/
theorem joinLines_around (before : List (List Char)) (line : List Char) (behind : List (List Char)) :
    joinLines (before ++ line :: behind) = linesBefore before ++ (line ++ linesBehind behind) := by
  induction before with
  | nil => exact joinLines_first line behind
  | cons first before ih =>
    rw [List.cons_append, joinLines_cons first (List.append_ne_nil_of_right_ne_nil _ (List.cons_ne_nil _ _)),
      ih, linesBefore, linesBefore, List.flatMap_cons, List.append_assoc, List.append_assoc]
    rfl

/-! ## A fragment and its item -/

/-- **An item in JSON form is faithful.** The reader of answers reads the item back from it, exactly if
at most 127 containers are open in it at once. It has no control character, so no line feed, and neither
begins nor ends with white space. No other item has this form, however deep it is nested. And wherever the
item is among the fragments of an answer, it stands in the text as it is shown: trimming takes white space
from the lines before it and behind it and nothing else. -/
theorem json_form_faithful {item : Value} (hexact : item.Exact) (hform : ∀ s, item ≠ .string s) :
    (Json.readDocument (Text.encode (chars item)) = .ok item ↔ item.depth ≤ 127)
      ∧ (∀ c ∈ chars item, 0x20 ≤ c.toNat)
      ∧ (chars item ≠ [] ∧ Tight (chars item))
      ∧ (∀ other : Value, other.Exact → (∀ s, other ≠ .string s) → chars other = chars item →
        other = item)
      ∧ ∀ answer before behind, Yields answer (before ++ item :: behind) →
        (flatten answer).toList = trimStart (linesBefore (before.map chars))
          ++ (chars item ++ trimEnd (linesBehind (behind.map chars))) := by
  have hchars := chars_eq hform
  obtain ⟨hne, htight⟩ := edges_chars hexact hform
  refine ⟨?_, ?_, ⟨hne, htight⟩, ?_, ?_⟩
  · rw [hchars, Json.eq_ok_iff, Json.readDocument_chars hexact, Option.ite_none_right_eq_some,
      and_iff_left rfl, ← Nat.lt_succ_iff]
    rfl
  · rw [hchars]
    exact Json.printable_chars item
  · intro other hother hother' h
    rw [hchars, chars_eq hother'] at h
    exact Json.chars_inj hother hexact h
  · intro answer before behind hyields
    rw [toList_flatten, joined, ← yields_iff.mp hyields, List.map_append, List.map_cons,
      joinLines_around, Text.trim_around hne htight]

/-- An object with the least whole number, a string that is white space throughout, and nothing. -/
def nestedItem : Value :=
  .object [("a", .array [.number (.whole (-0x8000000000000000)), .string "\n ", .null]),
    ("b", .object [])]

/-- The object as it is shown. -/
def nestedForm : String :=
  "\x7b\"a\":[-9223372036854775808,\"\\n \",null],\"b\":\x7b\x7d\x7d"

/-- An answer with the object between a padded string and one of white space. -/
def nestedAnswer : Value :=
  .array [.object [(textsKey, .array [.string " s", nestedItem, .string "\t"])]]

/-- The answer as it may be written, with the members of the object in another order. -/
def nestedDocument : String :=
  "[\x7b\"rec_texts\":[\" s\",\x7b\"b\":\x7b\x7d, \"a\":[-9223372036854775808,\"\\n \",null]\x7d,\"\\t\"]\x7d]"

theorem whole_nestedItem : nestedItem.Whole := by
  refine Value.whole_object.mpr ?_
  simp only [List.forall_mem_cons]
  refine ⟨Value.whole_array.mpr ?_, Value.whole_object.mpr (List.forall_mem_nil _), List.forall_mem_nil _⟩
  simp only [List.forall_mem_cons]
  exact ⟨Value.whole_scalar nofun nofun nofun, Value.whole_scalar nofun nofun nofun,
    Value.whole_scalar nofun nofun nofun, List.forall_mem_nil _⟩

/-- The object is read back from its line, from which nothing is taken although the text is trimmed on
both sides of it. -/
theorem json_form_faithful_nested :
    Json.readDocument (utf8 nestedDocument) = .ok nestedAnswer
      ∧ nestedItem.Exact ∧ (∀ s, nestedItem ≠ .string s)
      ∧ Json.readDocument (utf8 nestedForm) = .ok nestedItem
      ∧ flatten nestedAnswer = "s\n" ++ nestedForm := by
  have hread : Json.readDocument (utf8 nestedDocument) = .ok nestedAnswer := by rfl
  have hyields : Yields nestedAnswer ([.string " s"] ++ nestedItem :: [.string "\t"]) :=
    yields_iff.mpr rfl
  have hmem : nestedItem ∈ all nestedAnswer := by
    rw [← yields_iff.mp hyields]
    exact List.mem_append_right _ (List.mem_cons_self ..)
  obtain ⟨hexact, hdepth⟩ := exact_of_read hread hmem whole_nestedItem
  have hchars : chars nestedItem = nestedForm.toList := by decide
  -- what is left of the lines on both sides
  have hbefore : trimStart (linesBefore ([.string " s"].map chars)) = "s\n".toList := by decide
  have hbehind : trimEnd (linesBehind ([.string "\t"].map chars)) = [] := by decide
  obtain ⟨hback, -, -, -, htext⟩ := json_form_faithful hexact nofun
  refine ⟨hread, hexact, nofun, ?_, String.toList_inj.mp ?_⟩
  · rw [utf8, ← hchars]
    exact hback.mpr hdepth
  · rw [htext _ _ _ hyields, hbefore, hbehind, hchars, List.append_nil, String.toList_append]

end ImageText.Fragment
