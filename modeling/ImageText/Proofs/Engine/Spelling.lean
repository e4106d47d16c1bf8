import ImageText.Engine.Spelling
import ImageText.Proofs.Engine.Layout

/-!
# The texts of values

A value is shown by going through its items and entries, so what holds of its texts is proved by going
through them. The text of a value of the interpreter is a text of the interpreter. It does not depend on
the room for calls, as long as there is enough, and there is enough for values that are nested no deeper
and have no whole numbers that are too long. Nothing else can go wrong.

> `inRange_text`, `grows_text`, `only_text`, `asText_of_modest`.
-/

namespace ImageText.Engine

/-- A text of the interpreter. -/
def InRange (s : CodePoints) : Prop := ∀ n ∈ s, n < pointBound

theorem inRange_append {s t : CodePoints} (hs : InRange s) (ht : InRange t) : InRange (s ++ t) :=
  List.forall_mem_append.mpr ⟨hs, ht⟩

theorem inRange_ofChars (s : List Char) : InRange (ofChars s) := by
  intro n hn
  obtain ⟨c, -, rfl⟩ := List.mem_map.mp hn
  have := Text.toNat_scalar c
  rw [pointBound]
  omega

theorem inRange_ofString (s : String) : InRange (ofString s) := inRange_ofChars _

namespace Datum

/-! ## How a value is shown -/

theorem inRange_quoted {quote : Nat} (hquote : quote < pointBound) {s : CodePoints}
    (h : InRange s) : InRange (quote :: (s ++ [quote])) :=
  List.forall_mem_cons.mpr ⟨hquote, inRange_append h (List.forall_mem_singleton.mpr hquote)⟩

theorem quoteFor_lt (s : List Nat) : quoteFor s < pointBound := by
  unfold quoteFor pointBound
  split <;> decide

theorem inRange_spelledText {s : CodePoints} (h : InRange s) : InRange (spelledText s) := by
  refine inRange_quoted (quoteFor_lt s) ?_
  intro n hn
  obtain ⟨m, hm, hn⟩ := List.mem_flatMap.mp hn
  unfold spelledPoint at hn
  split at hn
  · exact inRange_ofChars _ n hn
  · split at hn
    · exact inRange_ofChars _ n hn
    · rw [List.mem_singleton.mp hn]
      exact h m hm

theorem inRange_spelledBytes (bs : Bytes) : InRange (spelledBytes bs) := by
  refine inRange_append (inRange_ofChars _) (inRange_quoted (quoteFor_lt _) ?_)
  intro n hn
  obtain ⟨b, -, hn⟩ := List.mem_flatMap.mp hn
  unfold spelledByte at hn
  split at hn
  · exact inRange_ofChars _ n hn
  · split at hn
    · rw [List.mem_singleton.mp hn, pointBound]
      have := b.toNat_lt
      omega
    · exact inRange_ofChars _ n hn

/-- What stands between commas. -/
theorem inRange_listed {s t : CodePoints} (hs : InRange s) (ht : InRange t) :
    InRange (s ++ ofString ", " ++ t) :=
  inRange_append (inRange_append hs (inRange_ofString _)) ht

theorem inRange_enclosed (opening closing : String) {s : CodePoints} (h : InRange s) :
    InRange (ofString opening ++ s ++ ofString closing) :=
  inRange_append (inRange_append (inRange_ofString _) h) (inRange_ofString _)

/-! ## Texts of the interpreter -/

mutual

/-- A value is shown as a text of the interpreter. -/
theorem inRange_shown (d : Datum) (h : d.Proper) {room : Nat} {s : CodePoints}
    (hs : d.shown room = .ok s) : InRange s := by
  cases d with
  | str t =>
    cases hs
    exact inRange_spelledText h
  | bytes bs =>
    cases hs
    exact inRange_spelledBytes bs
  | bool b => cases b <;> cases hs <;> exact inRange_ofString _
  | int n =>
    obtain ⟨cs, -, rfl⟩ := map_ok hs
    exact inRange_ofChars cs
  | float x =>
    cases hs
    exact inRange_ofChars _
  | list items =>
    obtain ⟨body, hbody, rfl⟩ := map_ok hs
    exact inRange_enclosed _ _ (inRange_shownItems items h hbody)
  | tuple items =>
    obtain ⟨body, hbody, rfl⟩ := map_ok hs
    exact inRange_enclosed _ _ (inRange_shownItems items h hbody)
  | dict entries =>
    obtain ⟨body, hbody, rfl⟩ := map_ok hs
    exact inRange_enclosed _ _ (inRange_shownEntries entries h hbody)
  | opaqueObject text =>
    cases hs
    exact h
  | _ =>
    cases hs
    exact inRange_ofString _

theorem inRange_shownItems (items : List Datum) (h : AllProper items) {room : Nat} {s : CodePoints}
    (hs : shownItems room items = .ok s) : InRange s := by
  cases items with
  | nil =>
    cases hs
    exact List.forall_mem_nil _
  | cons x rest =>
    obtain ⟨head, hhead, hs⟩ := bind_ok hs
    obtain ⟨left, -, hhead⟩ := calling_ok hhead
    have hx := inRange_shown x h.1 hhead
    cases rest with
    | nil =>
      cases hs
      exact hx
    | cons y rest =>
      obtain ⟨tail, htail, rfl⟩ := map_ok hs
      exact inRange_listed hx (inRange_shownItems (y :: rest) h.2 htail)

theorem inRange_shownEntries (entries : List (Datum × Datum)) (h : EntriesProper entries)
    {room : Nat} {s : CodePoints} (hs : shownEntries room entries = .ok s) : InRange s := by
  cases entries with
  | nil =>
    cases hs
    exact List.forall_mem_nil _
  | cons e rest =>
    obtain ⟨k, v⟩ := e
    obtain ⟨⟨hk, hv⟩, hrest⟩ := h
    obtain ⟨key, hkey, hs⟩ := bind_ok hs
    obtain ⟨value, hvalue, hs⟩ := bind_ok hs
    obtain ⟨left, -, hkey⟩ := calling_ok hkey
    obtain ⟨left', -, hvalue⟩ := calling_ok hvalue
    have hentry := inRange_append (inRange_append (inRange_shown k hk hkey) (inRange_ofString ": "))
      (inRange_shown v hv hvalue)
    cases rest with
    | nil =>
      cases hs
      exact hentry
    | cons e rest =>
      obtain ⟨tail, htail, rfl⟩ := map_ok hs
      exact inRange_listed hentry (inRange_shownEntries (e :: rest) hrest htail)

end

theorem inRange_text {d : Datum} (h : d.Proper) {room : Nat} {s : CodePoints}
    (hs : d.text room = .ok s) : InRange s := by
  unfold text at hs
  split at hs
  · cases hs
    exact h
  · obtain ⟨left, -, hs⟩ := calling_ok hs
    exact inRange_shown d h hs

theorem inRange_asText {d : Datum} (h : d.Proper) {room : Nat} {s : CodePoints}
    (hs : d.asText room = .ok s) : InRange s := by
  obtain ⟨left, -, hs⟩ := calling_ok hs
  exact inRange_text h hs

/-! ## Room for texts -/

mutual

theorem grows_shown (d : Datum) : Grows fun room => d.shown room := by
  cases d with
  | list items => exact (grows_shownItems items).map _
  | tuple items => exact (grows_shownItems items).map _
  | dict entries => exact (grows_shownEntries entries).map _
  | bool b => cases b <;> exact .const _
  | _ => exact .const _

theorem grows_shownItems (items : List Datum) : Grows fun room => shownItems room items := by
  cases items with
  | nil => exact .const _
  | cons x rest =>
    refine .bind (.calling (grows_shown x)) fun head => ?_
    cases rest with
    | nil => exact .const _
    | cons y rest => exact (grows_shownItems (y :: rest)).map _

theorem grows_shownEntries (entries : List (Datum × Datum)) :
    Grows fun room => shownEntries room entries := by
  cases entries with
  | nil => exact .const _
  | cons e rest =>
    obtain ⟨k, v⟩ := e
    refine .bind (.calling (grows_shown k)) fun key => ?_
    refine .bind (.calling (grows_shown v)) fun value => ?_
    cases rest with
    | nil => exact .const _
    | cons e rest => exact (grows_shownEntries (e :: rest)).map _

end

/-- **The text of a value does not depend on the room.** -/
theorem grows_text (d : Datum) : Grows fun room => d.text room := by
  cases d with
  | str s => exact .const _
  | _ => exact .calling (grows_shown _)

mutual

theorem only_shown (d : Datum) (room : Nat) : Only Raised.IsLimit (d.shown room) := by
  cases d with
  | list items => exact (only_shownItems items room).map _
  | tuple items => exact (only_shownItems items room).map _
  | dict entries => exact (only_shownEntries entries room).map _
  | int n => exact (only_intText n).map _
  | bool b => cases b <;> exact .ok _
  | _ => exact .ok _

theorem only_shownItems (items : List Datum) (room : Nat) :
    Only Raised.IsLimit (shownItems room items) := by
  cases items with
  | nil => exact .ok _
  | cons x rest =>
    refine .bind (.limited (only_shown x)) fun head => ?_
    cases rest with
    | nil => exact .ok _
    | cons y rest => exact (only_shownItems (y :: rest) room).map _

theorem only_shownEntries (entries : List (Datum × Datum)) (room : Nat) :
    Only Raised.IsLimit (shownEntries room entries) := by
  cases entries with
  | nil => exact .ok _
  | cons e rest =>
    obtain ⟨k, v⟩ := e
    refine .bind (.limited (only_shown k)) fun key => ?_
    refine .bind (.limited (only_shown v)) fun value => ?_
    cases rest with
    | nil => exact .ok _
    | cons e rest => exact (only_shownEntries (e :: rest) room).map _

end

/-- **Only a limit keeps a value from having a text.** -/
theorem only_text (d : Datum) (room : Nat) : Only Raised.IsLimit (d.text room) := by
  cases d with
  | str s => exact .ok s
  | _ => exact .limited (only_shown _)

theorem only_asText (d : Datum) (room : Nat) : Only Raised.IsLimit (d.asText room) :=
  .limited (only_text d)

/-! ## Values within the limits -/

mutual

/-- At most `n` containers are open in one another in a value, and its whole numbers are short. An array
is what it hands out. -/
def Modest (n : Nat) : Datum → Prop
  | int m => Short m
  | list items => 0 < n ∧ AllModest (n - 1) items
  | tuple items => 0 < n ∧ AllModest (n - 1) items
  | dict entries => 0 < n ∧ EntriesModest (n - 1) entries
  | mapping entries => 0 < n ∧ EntriesModest (n - 1) entries
  | array content _ => content.Modest n
  | null | bool _ | float _ | str _ | bytes _ | generator _ | opaqueObject _ => True

/-- So it is in all of some values. -/
def AllModest (n : Nat) : List Datum → Prop
  | [] => True
  | x :: rest => x.Modest n ∧ AllModest n rest

/-- So it is in the keys and values of some entries. -/
def EntriesModest (n : Nat) : List (Datum × Datum) → Prop
  | [] => True
  | (k, v) :: rest => (k.Modest n ∧ v.Modest n) ∧ EntriesModest n rest

end

mutual

theorem shown_of_modest {n room : Nat} (hroom : n ≤ room) (d : Datum) (h : d.Modest n) :
    ∃ s, d.shown room = .ok s := by
  cases d with
  | int m => exact exists_map ⟨_, intText_eq_ok.mpr ⟨h, rfl⟩⟩ _
  | list items => exact exists_map (shownItems_of_modest (by have := h.1; omega) items h.2) _
  | tuple items => exact exists_map (shownItems_of_modest (by have := h.1; omega) items h.2) _
  | dict entries => exact exists_map (shownEntries_of_modest (by have := h.1; omega) entries h.2) _
  | bool b => cases b <;> exact ⟨_, rfl⟩
  | _ => exact ⟨_, rfl⟩

/-- Every item takes a call. -/
theorem shownItems_of_modest {n room : Nat} (hroom : n + 1 ≤ room) (items : List Datum)
    (h : AllModest n items) : ∃ s, shownItems room items = .ok s := by
  cases items with
  | nil => exact ⟨_, rfl⟩
  | cons x rest =>
    have hx := shown_of_modest (Nat.le_sub_one_of_lt hroom) x h.1
    refine exists_bind (exists_calling (by omega) hx) fun head _ => ?_
    cases rest with
    | nil => exact ⟨_, rfl⟩
    | cons y rest => exact exists_map (shownItems_of_modest hroom (y :: rest) h.2) _

theorem shownEntries_of_modest {n room : Nat} (hroom : n + 1 ≤ room)
    (entries : List (Datum × Datum)) (h : EntriesModest n entries) :
    ∃ s, shownEntries room entries = .ok s := by
  cases entries with
  | nil => exact ⟨_, rfl⟩
  | cons e rest =>
    obtain ⟨k, v⟩ := e
    obtain ⟨⟨hk, hv⟩, hrest⟩ := h
    have hkey := shown_of_modest (Nat.le_sub_one_of_lt hroom) k hk
    have hvalue := shown_of_modest (Nat.le_sub_one_of_lt hroom) v hv
    refine exists_bind (exists_calling (by omega) hkey) fun key _ => ?_
    refine exists_bind (exists_calling (by omega) hvalue) fun value _ => ?_
    cases rest with
    | nil => exact ⟨_, rfl⟩
    | cons e rest => exact exists_map (shownEntries_of_modest hroom (e :: rest) hrest) _

end

/-- **A value within the limits has a text** where there is room for two more calls. -/
theorem asText_of_modest {n room : Nat} (hroom : n + 2 ≤ room) {d : Datum} (h : d.Modest n) :
    ∃ s, d.asText room = .ok s := by
  refine exists_calling (by omega) ?_
  cases d with
  | str s => exact ⟨s, rfl⟩
  | _ => exact exists_calling (by omega) (shown_of_modest (by omega) _ h)

end Datum

end ImageText.Engine
