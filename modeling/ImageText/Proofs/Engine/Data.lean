import ImageText.Proofs.Engine.Spelling

/-!
# Data of JSON

The engine's side writes values that are made of scalars, sequences and dictionaries, with texts or scalars
for keys. It refuses any other with a type error. A limit can keep either from being written, so an
exception says that a value is no such data only if it is a type error; and within the limits that is the
only exception that there is.

> `isData_of_dump`, `only_dump`, `only_dump_of_modest`.
-/

namespace ImageText.Engine

/-- An exception that is the work of a limit, or else a type error for want of a property. -/
def Raised.Denies (P : Prop) (r : Raised) : Prop := r.IsLimit ∨ (r.IsMistake ∧ ¬ P)

theorem Raised.Denies.mono {P Q : Prop} (hQP : Q → P) {r : Raised} (h : r.Denies P) :
    r.Denies Q :=
  h.imp_right fun h => ⟨h.1, fun hQ => h.2 (hQP hQ)⟩

theorem Raised.Denies.ordinary {P : Prop} {r : Raised} (h : r.Denies P) : r.escape = none :=
  h.elim Raised.IsLimit.ordinary fun h => h.1.ordinary

namespace Datum

/-- A key that is a text. -/
def IsText : Datum → Prop
  | str _ => True
  | _ => False

/-- A key that can be written: a text or a scalar. -/
def IsName : Datum → Prop
  | str _ | null | bool _ | int _ | float _ => True
  | _ => False

mutual

/-- A value is made of scalars, sequences and dictionaries, at every depth, with keys of one kind. -/
def IsData (Key : Datum → Prop) : Datum → Prop
  | null | bool _ | int _ | float _ | str _ => True
  | list items => AllData Key items
  | tuple items => AllData Key items
  | dict entries => EntriesData Key entries
  | bytes _ | mapping _ | array _ _ | generator _ | opaqueObject _ => False

/-- All of some values are. -/
def AllData (Key : Datum → Prop) : List Datum → Prop
  | [] => True
  | x :: rest => x.IsData Key ∧ AllData Key rest

/-- All of some entries are. -/
def EntriesData (Key : Datum → Prop) : List (Datum × Datum) → Prop
  | [] => True
  | (k, v) :: rest => (Key k ∧ v.IsData Key) ∧ EntriesData Key rest

end

theorem entriesData_iff {Key : Datum → Prop} (entries : List (Datum × Datum)) :
    EntriesData Key entries ↔ ∀ e ∈ entries, Key e.1 ∧ e.2.IsData Key := by
  induction entries with
  | nil => exact iff_of_true trivial (List.forall_mem_nil _)
  | cons e rest ih =>
    rw [List.forall_mem_cons, ← ih]
    exact Iff.rfl

/-! ## What is written is data -/

theorem isName_of_dumpedKey {k : Datum} {cs : List Char} (h : dumpedKey k = .ok cs) : IsName k := by
  rcases dumpedKey_ok h with ⟨s, rfl, -⟩ | ⟨word, hword, -⟩
  · exact trivial
  · cases k <;> first | exact trivial | cases hword

mutual

/-- **What is written is data.** -/
theorem isData_of_dump (d : Datum) {room : Nat} {cs : List Char} (h : d.dump room = .ok cs) :
    d.IsData IsName := by
  cases d with
  | list items =>
    obtain ⟨left, body, -, hbody, -⟩ := encoding_ok h
    exact allData_of_dumpItems items hbody
  | tuple items =>
    obtain ⟨left, body, -, hbody, -⟩ := encoding_ok h
    exact allData_of_dumpItems items hbody
  | dict entries =>
    obtain ⟨left, body, -, hbody, -⟩ := encoding_ok h
    exact entriesData_of_dumpEntries entries hbody
  | null => exact trivial
  | bool b => exact trivial
  | int n => exact trivial
  | float x => exact trivial
  | str s => exact trivial
  | _ => exact absurd h (refused_ne_ok _ _ _)

theorem allData_of_dumpItems (items : List Datum) {room : Nat} {cs : List Char}
    (h : dumpItems room items = .ok cs) : AllData IsName items := by
  cases items with
  | nil => exact trivial
  | cons x rest =>
    obtain ⟨head, hhead, htail⟩ := dumpItems_cons_ok h
    have hx := isData_of_dump x hhead
    rcases htail with ⟨rfl, -⟩ | ⟨tail, -, htail, -⟩
    · exact ⟨hx, trivial⟩
    · exact ⟨hx, allData_of_dumpItems rest htail⟩

theorem entriesData_of_dumpEntries (entries : List (Datum × Datum)) {room : Nat} {cs : List Char}
    (h : dumpEntries room entries = .ok cs) : EntriesData IsName entries := by
  cases entries with
  | nil => exact trivial
  | cons e rest =>
    obtain ⟨k, v⟩ := e
    obtain ⟨key, value, hkey, hvalue, htail⟩ := dumpEntries_cons_ok h
    have hentry := And.intro (isName_of_dumpedKey hkey) (isData_of_dump v hvalue)
    rcases htail with ⟨rfl, -⟩ | ⟨tail, -, htail, -⟩
    · exact ⟨hentry, trivial⟩
    · exact ⟨hentry, entriesData_of_dumpEntries rest htail⟩

end

/-! ## What is refused is none -/

theorem only_dumpedKey (k : Datum) : Only (Raised.Denies (IsName k)) (dumpedKey k) := by
  cases k with
  | str s => exact .ok _
  | null => exact .ok _
  | bool b => cases b <;> exact .ok _
  | int n => exact ((only_intText n).mono fun _ => Or.inl).map _
  | float x => exact .ok _
  | _ => exact .error (Or.inr ⟨⟨_, rfl⟩, id⟩)

theorem only_refused {P : Prop} (hP : ¬ P) (room : Nat) (x : Datum) :
    Only (Raised.Denies P) (x.refused room) :=
  .calling (fun _ => Or.inl) fun _ => .calling (fun _ => Or.inl) fun _ =>
    .error (Or.inr ⟨⟨_, rfl⟩, hP⟩)

mutual

/-- **What is refused with a type error is no data.** -/
theorem only_dump (d : Datum) (room : Nat) :
    Only (Raised.Denies (d.IsData IsName)) (d.dump room) := by
  cases d with
  | list items => exact .calling (fun _ => Or.inl) fun left => (only_dumpItems items left).map _
  | tuple items => exact .calling (fun _ => Or.inl) fun left => (only_dumpItems items left).map _
  | dict entries =>
    exact .calling (fun _ => Or.inl) fun left => (only_dumpEntries entries left).map _
  | null => exact .ok _
  | bool b => cases b <;> exact .ok _
  | int n => exact (only_intText n).mono fun _ => Or.inl
  | float x => exact .ok _
  | str s => exact .ok _
  | _ => exact only_refused id room _

theorem only_dumpItems (items : List Datum) (room : Nat) :
    Only (Raised.Denies (AllData IsName items)) (dumpItems room items) := by
  cases items with
  | nil => exact .ok _
  | cons x rest =>
    have htail := (only_dumpItems rest room).mono fun _ => Raised.Denies.mono fun h =>
      (show x.IsData IsName ∧ AllData IsName rest from h).2
    refine .bind ((only_dump x room).mono fun _ => Raised.Denies.mono fun h => h.1) fun head => ?_
    cases rest with
    | nil => exact .ok _
    | cons y rest => exact htail.map _

theorem only_dumpEntries (entries : List (Datum × Datum)) (room : Nat) :
    Only (Raised.Denies (EntriesData IsName entries)) (dumpEntries room entries) := by
  cases entries with
  | nil => exact .ok _
  | cons e rest =>
    obtain ⟨k, v⟩ := e
    have htail := (only_dumpEntries rest room).mono fun _ => Raised.Denies.mono fun h =>
      (show (IsName k ∧ v.IsData IsName) ∧ EntriesData IsName rest from h).2
    refine .bind ((only_dumpedKey k).mono fun _ => Raised.Denies.mono fun h => h.1.1) fun key => ?_
    refine .bind ((only_dump v room).mono fun _ => Raised.Denies.mono fun h => h.1.2) fun value => ?_
    cases rest with
    | nil => exact .ok _
    | cons e rest => exact htail.map _

end

/-! ## Within the limits -/

theorem only_dumpedKey_of_modest {n : Nat} {k : Datum} (h : k.Modest n) :
    Only Raised.IsMistake (dumpedKey k) := by
  cases k with
  | str s => exact .ok _
  | null => exact .ok _
  | bool b => cases b <;> exact .ok _
  | int m =>
    have hword : intText m = .ok _ := intText_eq_ok.mpr ⟨h, rfl⟩
    rw [dumpedKey, dumpedScalar?, hword]
    · exact .ok _
    · nofun
  | float x => exact .ok _
  | _ => exact .error ⟨_, rfl⟩

mutual

/-- **Within the limits, only type errors are raised.** There is room for two more calls, which a refusal
takes. -/
theorem only_dump_of_modest {n room : Nat} (hroom : n + 2 ≤ room) (d : Datum) (h : d.Modest n) :
    Only Raised.IsMistake (d.dump room) := by
  cases d with
  | list items =>
    have := h.1
    exact .inside (by omega) ((only_dumpItems_of_modest (by omega) items h.2).map _)
  | tuple items =>
    have := h.1
    exact .inside (by omega) ((only_dumpItems_of_modest (by omega) items h.2).map _)
  | dict entries =>
    have := h.1
    exact .inside (by omega) ((only_dumpEntries_of_modest (by omega) entries h.2).map _)
  | null => exact .ok _
  | bool b => cases b <;> exact .ok _
  | int m =>
    have hword : intText m = .ok _ := intText_eq_ok.mpr ⟨h, rfl⟩
    rw [dump, dumpedScalar?, hword]
    · exact .ok _
    all_goals nofun
  | float x => exact .ok _
  | str s => exact .ok _
  | _ => exact .inside (by omega) (.inside (by omega) (.error ⟨_, rfl⟩))

theorem only_dumpItems_of_modest {n room : Nat} (hroom : n + 2 ≤ room) (items : List Datum)
    (h : AllModest n items) : Only Raised.IsMistake (dumpItems room items) := by
  cases items with
  | nil => exact .ok _
  | cons x rest =>
    have htail := only_dumpItems_of_modest hroom rest h.2
    refine .bind (only_dump_of_modest hroom x h.1) fun head => ?_
    cases rest with
    | nil => exact .ok _
    | cons y rest => exact htail.map _

theorem only_dumpEntries_of_modest {n room : Nat} (hroom : n + 2 ≤ room)
    (entries : List (Datum × Datum)) (h : EntriesModest n entries) :
    Only Raised.IsMistake (dumpEntries room entries) := by
  cases entries with
  | nil => exact .ok _
  | cons e rest =>
    obtain ⟨k, v⟩ := e
    obtain ⟨⟨hk, hv⟩, hrest⟩ := h
    have htail := only_dumpEntries_of_modest hroom rest hrest
    refine .bind (only_dumpedKey_of_modest hk) fun key => ?_
    refine .bind (only_dump_of_modest hroom v hv) fun value => ?_
    cases rest with
    | nil => exact .ok _
    | cons e rest => exact htail.map _

end

end Datum

end ImageText.Engine
