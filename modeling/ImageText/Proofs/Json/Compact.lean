import ImageText.Json.Printer
import ImageText.Proofs.Engine.Layout
import Mathlib.Data.List.Forall2

/-!
# The layout of a compact form

What is printed of a value is a document without a blank, so it has a layout like any other, with no gap
that is not empty. Every character of a string is one atom: itself, an escape of one letter, or a code unit
for a control character that has none.

> `exists_row`: a printed literal is a row of atoms that spells the string,
> `encode_items`, `encode_members`: what is printed between brackets are items and entries, provided
> each of the values is printed as a layout.

`Compact` is the grammar of compact forms, by which a form is put together from the forms of the parts.
-/

namespace ImageText.Json

open Text (encode)

/-! ## Literals -/

/-- A control character is no half of a surrogate pair. -/
theorem text?_control {n : Nat} (h : n < 0x20) (row : List Atom) :
    Atom.text? (Engine.unitAtom n :: row) = (Atom.text? row).map (Char.ofNat n :: ·) := by
  obtain ⟨a, b, c, d, hv, hunit⟩ := Engine.unitAtom_eq (n := n) (by omega)
  have htrail : ¬ isTrail n = true := by rw [Engine.isTrail_iff]; omega
  have hlead : ¬ isLead n = true := by rw [Engine.isLead_iff]; omega
  rw [hunit, Atom.text?_unit hv htrail hlead]

/-- Every character of a literal is printed as one atom, which spells it. -/
theorem exists_atom (c : Char) :
    ∃ a : Atom, a.bytes = encode (escapeChar c)
      ∧ ∀ row, Atom.text? (a :: row) = (Atom.text? row).map (c :: ·) := by
  -- an escape of one letter stands for its character by computation
  have hshort : ∀ (letter b : UInt8) (h : shortEscape? letter = some b) (d : Char),
      [slashByte, letter] = encode ['\\', d] → Char.ofNat b.toNat = c →
      ∃ a : Atom, a.bytes = encode ['\\', d]
        ∧ ∀ row, Atom.text? (a :: row) = (Atom.text? row).map (c :: ·) := by
    intro letter b h d hbytes hc
    exact ⟨.short letter b h, hbytes, fun row => by rw [Atom.text?, hc]⟩
  unfold escapeChar
  split
  next hc => exact hshort 0x22 0x22 rfl '"' rfl hc.symm
  split
  next hc => exact hshort 0x5C 0x5C rfl '\\' rfl hc.symm
  split
  next hc => exact hshort 0x62 0x08 rfl 'b' rfl hc.symm
  split
  next hc => exact hshort 0x66 0x0C rfl 'f' rfl hc.symm
  split
  next hc => exact hshort 0x6E 0x0A rfl 'n' rfl hc.symm
  split
  next hc => exact hshort 0x72 0x0D rfl 'r' rfl hc.symm
  split
  next hc => exact hshort 0x74 0x09 rfl 't' rfl hc.symm
  split
  next hcontrol =>
    refine ⟨Engine.unitAtom c.toNat, Engine.bytes_unitAtom (by omega), ?_⟩
    intro row
    rw [text?_control hcontrol, Char.ofNat_toNat]
  next hquote hslash _ _ _ _ _ hcontrol =>
    exact ⟨.raw c ⟨hquote, hslash, Nat.le_of_not_lt hcontrol⟩, (Text.encode_singleton c).symm,
      fun row => by rw [Atom.text?]⟩

/-- What stands between the quotes of a printed literal. -/
theorem exists_row (s : List Char) :
    ∃ row : List Atom, row.flatMap Atom.bytes = encode (s.flatMap escapeChar)
      ∧ Atom.text? row = some s := by
  induction s with
  | nil => exact ⟨[], rfl, rfl⟩
  | cons c s ih =>
    obtain ⟨a, hbytes, hspell⟩ := exists_atom c
    obtain ⟨row, hrow, htext⟩ := ih
    refine ⟨a :: row, ?_, ?_⟩
    · rw [List.flatMap_cons, List.flatMap_cons, Text.encode_append, hbytes, hrow]
    · rw [hspell, htext]
      rfl

/-- **A printed literal spells its string.** -/
theorem exists_literal (s : String) :
    ∃ row : List Atom, encode (literal s) = quoteByte :: (Label.atoms row).others
      ∧ (Label.atoms row).text? = some s := by
  obtain ⟨row, hrow, htext⟩ := exists_row s.toList
  refine ⟨row, ?_, ?_⟩
  · show encode (['"'] ++ (s.toList.flatMap escapeChar ++ ['"'])) = _
    rw [Text.encode_append, Text.encode_append, ← hrow]
    rfl
  · show (Atom.text? row).map String.ofList = _
    rw [htext, Option.map_some, String.ofList_toList]

/-! ## Between brackets -/

/-- Texts with commas between them and a bracket of one byte behind them. -/
theorem encode_intercalate {bracket : Char} {closing : UInt8} (h : encode [bracket] = [closing])
    (texts : List (List Char)) :
    encode (List.intercalate [','] texts ++ [bracket]) = enclosed closing (texts.map encode) := by
  induction texts with
  | nil => exact h
  | cons t rest ih =>
    rw [List.map_cons, enclosed]
    by_cases hrest : rest = []
    · rw [hrest, List.intercalate_singleton, Text.encode_append, h]
      rfl
    · -- the comma belongs to what follows
      rw [List.intercalate_cons_of_ne_nil hrest, Engine.Datum.following_enclosed closing
        (by rwa [ne_eq, List.map_eq_nil_iff]), ← ih]
      simp only [Text.encode_append, List.append_assoc]
      rfl

theorem itemChars_eq (items : List Value) :
    itemChars items = List.intercalate [','] (items.map Value.chars) := by
  induction items with
  | nil => rfl
  | cons v rest ih =>
    cases rest with
    | nil => exact List.intercalate_singleton.symm
    | cons w rest =>
      rw [List.map_cons, List.map_cons, List.intercalate_cons_cons, ← List.map_cons, ← ih,
        List.append_assoc]
      rfl

/-- A member as it is printed. -/
def memberText (m : String × Value) : List Char := literal m.1 ++ ':' :: m.2.chars

theorem memberChars_eq (members : List (String × Value)) :
    memberChars members = List.intercalate [','] (members.map memberText) := by
  induction members with
  | nil => rfl
  | cons m rest ih =>
    cases rest with
    | nil => exact List.intercalate_singleton.symm
    | cons n rest =>
      rw [List.map_cons, List.map_cons, List.intercalate_cons_cons, ← List.map_cons, ← ih,
        List.append_assoc, memberText, List.append_assoc]
      rfl

/-! ## The grammar -/

/-- A compact form of a value. -/
inductive Compact : Value → List Char → Prop
  | null : Compact .null "null".toList
  | yes : Compact (.bool true) "true".toList
  | no : Compact (.bool false) "false".toList
  | number (n : Number) : Compact (.number n) n.chars
  | string (s : String) : Compact (.string s) (literal s)
  | array {items : List Value} {forms : List (List Char)} (h : List.Forall₂ Compact items forms) :
      Compact (.array items) ('[' :: (List.intercalate [','] forms ++ [']']))
  | object {members : List (String × Value)} {forms : List (List Char)}
      (h : List.Forall₂ Compact (members.map Prod.snd) forms) :
      Compact (.object members) ('\x7b' :: (List.intercalate [',']
        (List.zipWith (fun m form => literal m.1 ++ ':' :: form) members forms) ++ ['\x7d']))

theorem zipWith_memberText (members : List (String × Value)) :
    List.zipWith (fun m form => literal m.1 ++ ':' :: form) members
        (members.map fun m => m.2.chars) = members.map memberText := by
  induction members with
  | nil => rfl
  | cons m rest ih => exact congrArg (memberText m :: ·) ih

mutual

/-- **The compact form is what is printed.** -/
theorem compact_iff (v : Value) {cs : List Char} : Compact v cs ↔ cs = v.chars := by
  cases v with
  | null => exact ⟨fun h => by cases h; rfl, by rintro rfl; exact .null⟩
  | bool b =>
    cases b
    · exact ⟨fun h => by cases h; rfl, by rintro rfl; exact .no⟩
    · exact ⟨fun h => by cases h; rfl, by rintro rfl; exact .yes⟩
  | number n => exact ⟨fun h => by cases h; rfl, by rintro rfl; exact .number n⟩
  | string s => exact ⟨fun h => by cases h; rfl, by rintro rfl; exact .string s⟩
  | array items =>
    rw [Value.chars, itemChars_eq]
    constructor
    · intro h
      cases h with
      | array h => rw [(compact_items items).mp h]
    · rintro rfl
      exact .array ((compact_items items).mpr rfl)
  | object members =>
    rw [Value.chars, memberChars_eq, ← zipWith_memberText]
    constructor
    · intro h
      cases h with
      | object h => rw [(compact_members members).mp h]
    · rintro rfl
      exact .object ((compact_members members).mpr rfl)

theorem compact_items (items : List Value) {forms : List (List Char)} :
    List.Forall₂ Compact items forms ↔ forms = items.map Value.chars := by
  cases items with
  | nil => exact List.forall₂_nil_left_iff
  | cons v rest =>
    rw [List.forall₂_cons_left_iff, List.map_cons]
    constructor
    · rintro ⟨form, more, hv, hrest, rfl⟩
      rw [(compact_iff v).mp hv, (compact_items rest).mp hrest]
    · rintro rfl
      exact ⟨_, _, (compact_iff v).mpr rfl, (compact_items rest).mpr rfl, rfl⟩

theorem compact_members (members : List (String × Value)) {forms : List (List Char)} :
    List.Forall₂ Compact (members.map Prod.snd) forms
      ↔ forms = members.map fun m => m.2.chars := by
  cases members with
  | nil => exact List.forall₂_nil_left_iff
  | cons m rest =>
    obtain ⟨key, v⟩ := m
    rw [List.map_cons, List.forall₂_cons_left_iff, List.map_cons]
    constructor
    · rintro ⟨form, more, hv, hrest, rfl⟩
      rw [(compact_iff v).mp hv, (compact_members rest).mp hrest]
    · rintro rfl
      exact ⟨_, _, (compact_iff v).mpr rfl, (compact_members rest).mpr rfl, rfl⟩

end

/-! ## Items and entries -/

/-- An item is what is printed of a value. -/
def Item.Prints (v : Value) (i : Item Layout) : Prop := i.text Layout.bytes = encode v.chars

/-- An entry is what is printed of a member. -/
def Entry.Prints (m : String × Value) (e : Entry Layout) : Prop :=
  e.text Layout.bytes = encode (literal m.1 ++ ':' :: m.2.chars)

/-- A member whose value is printed as a layout is printed as an entry. -/
theorem exists_entry (key : String) {v : Value} {l : Layout} (h : l.bytes = encode v.chars) :
    ∃ e : Entry Layout, e.Prints (key, v) ∧ (∃ row, e.label = .atoms row)
      ∧ e.label.text? = some key ∧ e.item.value = l := by
  obtain ⟨row, hbytes, htext⟩ := exists_literal key
  refine ⟨⟨.none, .atoms row, .none, ⟨.none, l, .none⟩⟩, ?_, ⟨row, rfl⟩, htext, rfl⟩
  show _ = encode (literal key ++ ([':'] ++ v.chars))
  rw [Text.encode_append, Text.encode_append, hbytes, ← h]
  simp only [Entry.text, Entry.body, Entry.joint, Gap.none, List.append_nil, List.nil_append,
    List.cons_append]
  rfl

/-- **Printed items are items**, with a comma before each but the first. -/
theorem encode_items {items : List Value} {layouts : List (Item Layout)}
    (h : List.Forall₂ Item.Prints items layouts) :
    encode (itemChars items ++ [']']) = enclosed closeArray (itemTexts layouts) := by
  have htexts : (items.map Value.chars).map encode = layouts.map (Item.text Layout.bytes) := by
    rw [List.map_map, ← List.forall₂_eq_eq_eq, List.forall₂_map_left_iff, List.forall₂_map_right_iff]
    exact h.imp fun _ _ hi => hi.symm
  rw [itemChars_eq, encode_intercalate (show encode [']'] = [closeArray] from rfl), htexts,
    itemTexts_eq]

/-- **Printed members are entries**, with a comma before each but the first. -/
theorem encode_members {members : List (String × Value)} {entries : List (Entry Layout)}
    (h : List.Forall₂ Entry.Prints members entries) :
    encode (memberChars members ++ ['\x7d']) = enclosed closeObject (entryTexts entries) := by
  have htexts : (members.map memberText).map encode = entries.map (Entry.text Layout.bytes) := by
    rw [List.map_map, ← List.forall₂_eq_eq_eq, List.forall₂_map_left_iff, List.forall₂_map_right_iff]
    exact h.imp fun _ _ he => he.symm
  rw [memberChars_eq, encode_intercalate (show encode ['\x7d'] = [closeObject] from rfl), htexts,
    entryTexts_eq]

end ImageText.Json
