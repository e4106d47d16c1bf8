import ImageText.Engine.Plain
import ImageText.Proofs.Engine.Spelling

/-!
# Plain data are data

Making an answer plain puts texts in the place of keys and of unfamiliar objects. They are texts like any
other, so plain data of a value of the interpreter are values of the interpreter. Nothing but a limit can
keep a value from having plain data, and a value within the limits has some: it takes two calls for
every container, and one for the value in the middle.

> `proper_listed`, `proper_plain`, `only_plain`, `plain_of_modest`.
-/

namespace ImageText.Engine

namespace Datum

/-! ## Making a value plain -/

theorem looking_ok {α : Type} {room : Nat} {inside : Nat → Except Raised α} {a : α}
    (h : looking room inside = .ok a) : ∃ left, inside left = .ok a := by
  obtain ⟨outer, -, h⟩ := calling_ok h
  obtain ⟨left, -, h⟩ := calling_ok h
  exact ⟨left, h⟩

theorem looking_map_ok {α β : Type} {room : Nat} {inside : Nat → Except Raised α} {f : α → β} {b : β}
    (h : looking room (fun room => (inside room).map f) = .ok b) :
    ∃ left a, inside left = .ok a ∧ f a = b := by
  obtain ⟨left, h⟩ := looking_ok h
  obtain ⟨a, ha, hb⟩ := map_ok h
  exact ⟨left, a, ha, hb⟩

theorem plainItems_cons_ok {room : Nat} {x : Datum} {rest data : List Datum}
    (h : plainItems room (x :: rest) = .ok data) :
    ∃ head tail, x.plain room = .ok head ∧ plainItems room rest = .ok tail ∧ data = head :: tail := by
  obtain ⟨head, hhead, h⟩ := bind_ok h
  obtain ⟨tail, htail, rfl⟩ := map_ok h
  exact ⟨head, tail, hhead, htail, rfl⟩

theorem plainEntries_cons_ok {room : Nat} {acc rest data : List (Datum × Datum)} {k v : Datum}
    (h : plainEntries room acc ((k, v) :: rest) = .ok data) :
    ∃ key value, k.asText room = .ok key ∧ v.plain room = .ok value
      ∧ plainEntries room (putText key value acc) rest = .ok data := by
  obtain ⟨key, hkey, h⟩ := bind_ok h
  obtain ⟨value, hvalue, h⟩ := bind_ok h
  exact ⟨key, value, hkey, hvalue, h⟩

/-! ## Plain data are values -/

/-- The first spelling of a key stays, and the last value. -/
theorem forall_put {P Q : Datum → Prop} {k v : Datum} (hk : P k) (hv : Q v)
    {entries : List (Datum × Datum)} (h : ∀ e ∈ entries, P e.1 ∧ Q e.2) :
    ∀ e ∈ put k v entries, P e.1 ∧ Q e.2 := by
  induction entries with
  | nil => exact List.forall_mem_singleton.mpr ⟨hk, hv⟩
  | cons e rest ih =>
    obtain ⟨key, value⟩ := e
    obtain ⟨⟨hkey, hvalue⟩, hrest⟩ := List.forall_mem_cons.mp h
    unfold put
    split
    · exact List.forall_mem_cons.mpr ⟨⟨hkey, hv⟩, hrest⟩
    · exact List.forall_mem_cons.mpr ⟨⟨hkey, hvalue⟩, ih hrest⟩

theorem entriesProper_iff (entries : List (Datum × Datum)) :
    EntriesProper entries ↔ ∀ e ∈ entries, e.1.Proper ∧ e.2.Proper := by
  induction entries with
  | nil => exact ⟨fun _ e he => (nomatch he), fun _ => trivial⟩
  | cons e rest ih =>
    rw [List.forall_mem_cons, ← ih]
    exact Iff.rfl

mutual

/-- **Plain data of a value of the interpreter are values of the interpreter.** -/
theorem proper_plain (d : Datum) (h : d.Proper) {room : Nat} {data : Datum}
    (hd : d.plain room = .ok data) : data.Proper := by
  cases d with
  | null =>
    obtain ⟨left, -, hd⟩ := calling_ok hd
    cases hd
    exact trivial
  | array content size =>
    obtain ⟨left, hd⟩ := looking_ok hd
    cases hd
    -- a large array is left out
    split
    · exact trivial
    · exact h
  | dict entries =>
    obtain ⟨left, data, hdata, rfl⟩ := looking_map_ok hd
    exact proper_plainEntries entries h (show EntriesProper [] from trivial) hdata
  | mapping entries =>
    obtain ⟨left, data, hdata, rfl⟩ := looking_map_ok hd
    exact proper_plainEntries entries h (show EntriesProper [] from trivial) hdata
  | list items =>
    obtain ⟨left, data, hdata, rfl⟩ := looking_map_ok hd
    exact proper_plainItems items h hdata
  | tuple items =>
    obtain ⟨left, data, hdata, rfl⟩ := looking_map_ok hd
    exact proper_plainItems items h hdata
  | bytes bs =>
    obtain ⟨left, text, htext, rfl⟩ := looking_map_ok hd
    exact inRange_asText h htext
  | generator items =>
    obtain ⟨left, text, htext, rfl⟩ := looking_map_ok hd
    exact inRange_asText h htext
  | opaqueObject text =>
    obtain ⟨left, text, htext, rfl⟩ := looking_map_ok hd
    exact inRange_asText h htext
  | _ =>
    obtain ⟨left, hd⟩ := looking_ok hd
    cases hd
    exact h
termination_by structural d

theorem proper_plainItems (items : List Datum) (h : AllProper items) {room : Nat}
    {data : List Datum} (hd : plainItems room items = .ok data) : AllProper data := by
  cases items with
  | nil =>
    cases hd
    exact trivial
  | cons x rest =>
    obtain ⟨head, tail, hhead, htail, rfl⟩ := plainItems_cons_ok hd
    exact ⟨proper_plain x h.1 hhead, proper_plainItems rest h.2 htail⟩
termination_by structural items

theorem proper_plainEntries (entries : List (Datum × Datum)) (h : EntriesProper entries)
    {room : Nat} {acc data : List (Datum × Datum)} (hacc : EntriesProper acc)
    (hd : plainEntries room acc entries = .ok data) : EntriesProper data := by
  cases entries with
  | nil =>
    cases hd
    exact hacc
  | cons e rest =>
    obtain ⟨k, v⟩ := e
    obtain ⟨⟨hk, hv⟩, hrest⟩ := h
    obtain ⟨key, value, hkey, hvalue, hd⟩ := plainEntries_cons_ok hd
    -- the text of the key is put into the data with what has become of the value
    have hput := forall_put (P := Proper) (Q := Proper) (k := str key) (inRange_asText hk hkey)
      (proper_plain v hv hvalue) ((entriesProper_iff acc).mp hacc)
    exact proper_plainEntries rest hrest ((entriesProper_iff _).mpr hput) hd
termination_by structural entries

end

/-! ## Room for plain data -/

/-- Nothing but want of room comes of a call and a look. -/
theorem only_looking {α : Type} {room : Nat} {inside : Nat → Except Raised α}
    (h : ∀ left, Only Raised.IsLimit (inside left)) : Only Raised.IsLimit (looking room inside) :=
  .limited fun _ => .limited h

mutual

/-- **Only a limit keeps a value from having plain data.** -/
theorem only_plain (d : Datum) (room : Nat) : Only Raised.IsLimit (d.plain room) := by
  cases d with
  | null => exact .limited fun _ => .ok _
  | dict entries => exact only_looking fun left => (only_plainEntries entries left []).map _
  | mapping entries => exact only_looking fun left => (only_plainEntries entries left []).map _
  | list items => exact only_looking fun left => (only_plainItems items left).map _
  | tuple items => exact only_looking fun left => (only_plainItems items left).map _
  | bytes bs => exact only_looking fun left => (only_asText (bytes bs) (left + 1)).map _
  | generator items => exact only_looking fun left => (only_asText (generator items) (left + 1)).map _
  | opaqueObject text =>
    exact only_looking fun left => (only_asText (opaqueObject text) (left + 1)).map _
  | _ => exact only_looking fun _ => .ok _

theorem only_plainItems (items : List Datum) (room : Nat) :
    Only Raised.IsLimit (plainItems room items) := by
  cases items with
  | nil => exact .ok _
  | cons x rest => exact (only_plain x room).bind fun _ => (only_plainItems rest room).map _

theorem only_plainEntries (entries : List (Datum × Datum)) (room : Nat)
    (acc : List (Datum × Datum)) : Only Raised.IsLimit (plainEntries room acc entries) := by
  cases entries with
  | nil => exact .ok _
  | cons e rest =>
    obtain ⟨k, v⟩ := e
    exact (only_asText k room).bind fun _ => (only_plain v room).bind fun _ =>
      only_plainEntries rest room _

end

theorem exists_looking {α : Type} {room : Nat} {inside : Nat → Except Raised α} (hroom : 2 ≤ room)
    (h : ∃ a, inside (room - 2) = .ok a) : ∃ a, looking room inside = .ok a :=
  exists_calling (by omega) (exists_calling (by omega) h)

mutual

/-- **A value within the limits has plain data.** Two calls are opened for every container, and the last
value may take three. -/
theorem plain_of_modest {n room : Nat} (hroom : 2 * n + 3 ≤ room) (d : Datum) (h : d.Modest n) :
    ∃ data, d.plain room = .ok data := by
  cases d with
  | null => exact exists_calling (by omega) ⟨_, rfl⟩
  | dict entries =>
    have := h.1
    exact exists_looking (by omega)
      (exists_map (plainEntries_of_modest (by omega) entries h.2 []) _)
  | mapping entries =>
    have := h.1
    exact exists_looking (by omega)
      (exists_map (plainEntries_of_modest (by omega) entries h.2 []) _)
  | list items =>
    have := h.1
    exact exists_looking (by omega) (exists_map (plainItems_of_modest (by omega) items h.2) _)
  | tuple items =>
    have := h.1
    exact exists_looking (by omega) (exists_map (plainItems_of_modest (by omega) items h.2) _)
  | bytes bs =>
    exact exists_looking (by omega) (exists_map (asText_of_modest (n := n) (by omega) h) _)
  | generator items =>
    exact exists_looking (by omega) (exists_map (asText_of_modest (n := n) (by omega) h) _)
  | opaqueObject text =>
    exact exists_looking (by omega) (exists_map (asText_of_modest (n := n) (by omega) h) _)
  | _ => exact exists_looking (by omega) ⟨_, rfl⟩

theorem plainItems_of_modest {n room : Nat} (hroom : 2 * n + 3 ≤ room) (items : List Datum)
    (h : AllModest n items) : ∃ data, plainItems room items = .ok data := by
  cases items with
  | nil => exact ⟨_, rfl⟩
  | cons x rest =>
    exact exists_bind (plain_of_modest hroom x h.1) fun _ _ =>
      exists_map (plainItems_of_modest hroom rest h.2) _

theorem plainEntries_of_modest {n room : Nat} (hroom : 2 * n + 3 ≤ room)
    (entries : List (Datum × Datum)) (h : EntriesModest n entries) (acc : List (Datum × Datum)) :
    ∃ data, plainEntries room acc entries = .ok data := by
  cases entries with
  | nil => exact ⟨_, rfl⟩
  | cons e rest =>
    obtain ⟨k, v⟩ := e
    obtain ⟨⟨hk, hv⟩, hrest⟩ := h
    exact exists_bind (asText_of_modest (by omega) hk) fun _ _ =>
      exists_bind (plain_of_modest hroom v hv) fun _ _ =>
        plainEntries_of_modest hroom rest hrest _

end

theorem entriesModest_iff {n : Nat} (entries : List (Datum × Datum)) :
    EntriesModest n entries ↔ ∀ e ∈ entries, e.1.Modest n ∧ e.2.Modest n := by
  induction entries with
  | nil => exact iff_of_true trivial (List.forall_mem_nil _)
  | cons e rest ih =>
    rw [List.forall_mem_cons, ← ih]
    exact Iff.rfl

mutual

/-- Plain data of a value within the limits are within them, too. -/
theorem modest_plain {n : Nat} (d : Datum) (h : d.Modest n) {room : Nat} {data : Datum}
    (hd : d.plain room = .ok data) : data.Modest n := by
  cases d with
  | null =>
    obtain ⟨left, -, hd⟩ := calling_ok hd
    cases hd
    exact trivial
  | array content size =>
    obtain ⟨left, hd⟩ := looking_ok hd
    cases hd
    split
    · exact trivial
    · exact h
  | dict entries =>
    obtain ⟨left, data, hdata, rfl⟩ := looking_map_ok hd
    exact ⟨h.1, modest_plainEntries entries h.2 (show EntriesModest _ [] from trivial) hdata⟩
  | mapping entries =>
    obtain ⟨left, data, hdata, rfl⟩ := looking_map_ok hd
    exact ⟨h.1, modest_plainEntries entries h.2 (show EntriesModest _ [] from trivial) hdata⟩
  | list items =>
    obtain ⟨left, data, hdata, rfl⟩ := looking_map_ok hd
    exact ⟨h.1, modest_plainItems items h.2 hdata⟩
  | tuple items =>
    obtain ⟨left, data, hdata, rfl⟩ := looking_map_ok hd
    exact ⟨h.1, modest_plainItems items h.2 hdata⟩
  | bytes bs =>
    obtain ⟨left, text, -, rfl⟩ := looking_map_ok hd
    exact trivial
  | generator items =>
    obtain ⟨left, text, -, rfl⟩ := looking_map_ok hd
    exact trivial
  | opaqueObject s =>
    obtain ⟨left, text, -, rfl⟩ := looking_map_ok hd
    exact trivial
  | _ =>
    obtain ⟨left, hd⟩ := looking_ok hd
    cases hd
    exact h
termination_by structural d

theorem modest_plainItems {n : Nat} (items : List Datum) (h : AllModest n items) {room : Nat}
    {data : List Datum} (hd : plainItems room items = .ok data) : AllModest n data := by
  cases items with
  | nil =>
    cases hd
    exact trivial
  | cons x rest =>
    obtain ⟨head, tail, hhead, htail, rfl⟩ := plainItems_cons_ok hd
    exact ⟨modest_plain x h.1 hhead, modest_plainItems rest h.2 htail⟩
termination_by structural items

theorem modest_plainEntries {n : Nat} (entries : List (Datum × Datum)) (h : EntriesModest n entries)
    {room : Nat} {acc data : List (Datum × Datum)} (hacc : EntriesModest n acc)
    (hd : plainEntries room acc entries = .ok data) : EntriesModest n data := by
  cases entries with
  | nil =>
    cases hd
    exact hacc
  | cons e rest =>
    obtain ⟨k, v⟩ := e
    obtain ⟨⟨-, hv⟩, hrest⟩ := h
    obtain ⟨key, value, -, hvalue, hd⟩ := plainEntries_cons_ok hd
    have hput := forall_put (P := Modest n) (Q := Modest n) (k := str key) trivial
      (modest_plain v hv hvalue) ((entriesModest_iff acc).mp hacc)
    exact modest_plainEntries rest hrest ((entriesModest_iff _).mpr hput) hd
termination_by structural entries

end

/-! ## An answer as a list -/

theorem allProper_iff (items : List Datum) : AllProper items ↔ ∀ x ∈ items, x.Proper := by
  induction items with
  | nil => exact ⟨fun _ x hx => (nomatch hx), fun _ => trivial⟩
  | cons x rest ih =>
    rw [List.forall_mem_cons, ← ih]
    exact Iff.rfl

/-- What a value yields are values of the interpreter. -/
theorem proper_iterate (d : Datum) (h : d.Proper) {items : List Datum}
    (hd : d.iterate = .ok items) : AllProper items := by
  cases d with
  | str s =>
    cases hd
    rw [allProper_iff]
    intro x hx
    obtain ⟨n, hn, rfl⟩ := List.mem_map.mp hx
    intro m hm
    rw [List.mem_singleton.mp hm]
    exact h n hn
  | bytes bs =>
    cases hd
    rw [allProper_iff]
    intro x hx
    obtain ⟨b, -, rfl⟩ := List.mem_map.mp hx
    exact trivial
  | list items => cases hd; exact h
  | tuple items => cases hd; exact h
  | generator items => cases hd; exact h
  | dict entries =>
    cases hd
    rw [allProper_iff]
    intro x hx
    obtain ⟨e, he, rfl⟩ := List.mem_map.mp hx
    exact ((entriesProper_iff entries).mp h e he).1
  | mapping entries =>
    cases hd
    rw [allProper_iff]
    intro x hx
    obtain ⟨e, he, rfl⟩ := List.mem_map.mp hx
    exact ((entriesProper_iff entries).mp h e he).1
  | array content size => exact proper_iterate content h hd
  | _ => cases hd

/-- **An answer as a list is a value of the interpreter.** -/
theorem proper_listed {d : Datum} (h : d.Proper) {answer : Datum} (hd : d.listed = .ok answer) :
    answer.Proper := by
  have hlist : d.iterate.map list = .ok answer → answer.Proper := by
    intro hd
    obtain ⟨items, hitems, rfl⟩ := map_ok hd
    exact proper_iterate d h hitems
  cases d with
  | null => cases hd; exact trivial
  | list items => cases hd; exact h
  | tuple items => cases hd; exact h
  | _ => exact hlist hd

end Datum

end ImageText.Engine
