import ImageText.Proofs.Engine.Spelling
import ImageText.Proofs.Json.Range

/-!
# What can be read

The engine's side writes more than this side reads. The names of the numbers beyond the reals are no
JSON, a surrogate without its other half is no character, a whole number can be too large for a double,
and 128 brackets are too many. These are the only differences:

> `isSome_within`: plain data are read exactly if they are `Legible` and not nested too deeply.

A key that is no text is written as a text, so it can be read if it can be written. Legible data can be
written wherever there is room for their brackets.
-/

namespace ImageText.Engine

open Json (Value)

namespace Datum

/-! ## Numbers -/

/-- A whole number is read if it is not too large. -/
theorem isSome_numberIn_int (n : Int) :
    (numberIn? (Json.wholeText n)).isSome = true ↔ n.natAbs < Json.wholeBound := by
  rw [numberIn?_figure (Json.Figure.bytes_ofInt n), Option.isSome_map, Json.isSome_value_ofInt]

theorem wholeBound_le : Json.wholeBound ≤ 10 ^ 309 := by decide +kernel

/-- A whole number that can be read can be written. -/
theorem short_of_lt_wholeBound {n : Int} (h : n.natAbs < Json.wholeBound) : Short n :=
  short_of_lt (k := 309) (by decide) (Nat.lt_of_lt_of_le h wholeBound_le)

/-- The two greatest numbers of the format are read, too. -/
theorem isSome_realIn_greatest : ∀ negative : Bool, ∀ i < 2,
    (realIn? (.finite ⟨negative, ⟨2 ^ 53 - 2 + i, 971⟩⟩)).isSome = true := by
  decide +kernel

/-- **Every finite number is read.** -/
theorem isSome_realIn {x : Decimal.Binary64} (h : x.size.Fits) :
    (realIn? (.finite x)).isSome = true := by
  by_cases hgreatest : Json.Greatest x.size
  · -- the texts of these two are read digit by digit
    obtain ⟨negative, mantissa, exponent⟩ := x
    obtain ⟨hexp, hlow⟩ := hgreatest
    have hhigh := h.mantissa
    dsimp only at hexp hlow hhigh
    rw [Decimal.Magnitude.mantissaBound] at hhigh
    have hread := isSome_realIn_greatest negative (mantissa - (2 ^ 53 - 2)) (by omega)
    rw [show 2 ^ 53 - 2 + (mantissa - (2 ^ 53 - 2)) = mantissa by omega] at hread
    rw [hexp]
    exact hread
  · obtain ⟨f, -, hf⟩ := exists_figure_text floatLayout h
    rw [realIn?, numberIn?_figure hf.bytes, Option.isSome_map]
    exact Json.isSome_value_shortest h hgreatest hf

/-! ## Legible data -/

mutual

/-- How deep containers are nested. -/
def depth : Datum → Nat
  | list items => depths items + 1
  | tuple items => depths items + 1
  | generator items => depths items + 1
  | dict entries => entryDepths entries + 1
  | _ => 0

/-- The greatest depth among values. -/
def depths : List Datum → Nat
  | [] => 0
  | x :: rest => max x.depth (depths rest)

/-- The greatest depth among the values of entries. -/
def entryDepths : List (Datum × Datum) → Nat
  | [] => 0
  | (_, v) :: rest => max v.depth (entryDepths rest)

end

/-- A key of a dictionary that can be read: a text whose surrogates come in pairs, a word, or a number
that is not too long. -/
def LegibleKey : Datum → Prop
  | str s => paired s = true
  | int n => Short n
  | null | bool _ | float _ => True
  | _ => False

mutual

/-- Plain data that can be read. -/
def Legible : Datum → Prop
  | null | bool _ => True
  | int n => n.natAbs < Json.wholeBound
  | float (.finite _) => True
  | str s => paired s = true
  | list items => AllLegible items
  | tuple items => AllLegible items
  | dict entries => EntriesLegible entries
  | _ => False

/-- Items that can be read. -/
def AllLegible : List Datum → Prop
  | [] => True
  | x :: rest => x.Legible ∧ AllLegible rest

/-- Entries that can be read. -/
def EntriesLegible : List (Datum × Datum) → Prop
  | [] => True
  | (k, v) :: rest => (k.LegibleKey ∧ v.Legible) ∧ EntriesLegible rest

end

theorem isSome_spelled {s : CodePoints} (h : InRange s) :
    (spelled? s).isSome = true ↔ paired s = true := by
  rw [spelled?, Option.isSome_map, isSome_text?_rowOf h]

/-- A word for a scalar can be read. -/
theorem isSome_keyIn_word {k : Datum} {word : List Char} (h : k.dumpedScalar? = some (.ok word)) :
    k.keyIn?.isSome = true := by
  rw [keyIn?_word h]
  rfl

theorem isSome_keyIn {k : Datum} (h : k.Proper) : k.keyIn?.isSome = true ↔ k.LegibleKey := by
  cases k with
  | str s => exact isSome_spelled h
  | null => exact iff_of_true (isSome_keyIn_word rfl) trivial
  | bool b => cases b <;> exact iff_of_true (isSome_keyIn_word rfl) trivial
  | float x => exact iff_of_true (isSome_keyIn_word rfl) trivial
  | int n =>
    cases hword : intText n with
    | ok word =>
      exact iff_of_true (isSome_keyIn_word (congrArg some hword)) (intText_eq_ok.mp hword).1
    | error raised =>
      have hnone : (int n).keyIn? = none := by
        rw [keyIn?, dumpedScalar?, hword]
        intro cs hcs
        cases hcs
      rw [hnone]
      refine iff_of_false ?_ ?_
      · intro hsome
        cases hsome
      · intro hshort
        cases hword.symm.trans (intText_eq_ok.mpr ⟨hshort, rfl⟩)
  | _ => exact iff_of_false Bool.false_ne_true id

theorem isSome_enter (mean : Datum → Option Value) (members : List (String × Value))
    (e : Datum × Datum) :
    (enter mean members e).isSome = true
      ↔ e.1.keyIn?.isSome = true ∧ (mean e.2).isSome = true := by
  unfold enter
  cases e.1.keyIn? with
  | none => exact iff_of_false (fun h => nomatch h) (fun h => nomatch h.1)
  | some key =>
    show ((mean e.2).map _).isSome = true ↔ _
    rw [Option.isSome_map]
    exact ⟨fun h => ⟨rfl, h⟩, fun h => h.2⟩

/-! ## Reading plain data -/

mutual

/-- **Plain data are read exactly if they are legible and not nested too deeply.** The induction is on
the data; each bracket takes one from the budget. -/
theorem isSome_within (d : Datum) (h : d.Proper) (budget : Nat) :
    (d.within (budget + 1)).isSome = true ↔ d.Legible ∧ d.depth ≤ budget := by
  -- a leaf has no depth
  have hleaf : ∀ {P : Prop}, P ↔ P ∧ 0 ≤ budget :=
    ⟨fun h => ⟨h, Nat.zero_le budget⟩, fun h => h.1⟩
  cases d with
  | null => exact iff_of_true rfl ⟨trivial, Nat.zero_le budget⟩
  | bool b => exact iff_of_true rfl ⟨trivial, Nat.zero_le budget⟩
  | int n => exact (isSome_numberIn_int n).trans hleaf
  | float x =>
    cases x with
    | finite x => exact iff_of_true (isSome_realIn h) ⟨trivial, Nat.zero_le budget⟩
    | infinite negative => exact iff_of_false (fun h => nomatch h) fun h => h.1
    | nan => exact iff_of_false (fun h => nomatch h) fun h => h.1
  | str s =>
    rw [within, Option.isSome_map]
    exact (isSome_spelled h).trans hleaf
  | list items =>
    cases budget with
    | zero => exact iff_of_false (fun h => nomatch h) fun h => nomatch h.2
    | succ budget =>
      rw [within, if_neg (Nat.succ_ne_zero budget), Option.isSome_map]
      exact (isSome_withinItems items h budget).trans
        (and_congr_right fun _ => Nat.succ_le_succ_iff.symm)
  | tuple items =>
    cases budget with
    | zero => exact iff_of_false (fun h => nomatch h) fun h => nomatch h.2
    | succ budget =>
      rw [within, if_neg (Nat.succ_ne_zero budget), Option.isSome_map]
      exact (isSome_withinItems items h budget).trans
        (and_congr_right fun _ => Nat.succ_le_succ_iff.symm)
  | dict entries =>
    cases budget with
    | zero => exact iff_of_false (fun h => nomatch h) fun h => nomatch h.2
    | succ budget =>
      rw [within, if_neg (Nat.succ_ne_zero budget), Option.isSome_map]
      exact (isSome_withinEntries entries h budget []).trans
        (and_congr_right fun _ => Nat.succ_le_succ_iff.symm)
  | _ => exact iff_of_false (fun h => nomatch h) fun h => h.1

theorem isSome_withinItems (items : List Datum) (h : AllProper items) (budget : Nat) :
    (items.mapM fun x : Datum => x.within (budget + 1)).isSome = true
      ↔ AllLegible items ∧ depths items ≤ budget := by
  cases items with
  | nil => exact iff_of_true rfl ⟨trivial, Nat.zero_le budget⟩
  | cons x rest =>
    have hx := isSome_within x h.1 budget
    have hrest := isSome_withinItems rest h.2 budget
    have hboth : ((x :: rest).mapM fun x : Datum => x.within (budget + 1)).isSome = true
        ↔ (x.within (budget + 1)).isSome = true
          ∧ (rest.mapM fun x : Datum => x.within (budget + 1)).isSome = true := by
      rw [List.mapM_cons]
      cases x.within (budget + 1) with
      | none => exact iff_of_false (fun h => nomatch h) fun h => nomatch h.1
      | some v =>
        cases rest.mapM fun x : Datum => x.within (budget + 1) with
        | none => exact iff_of_false (fun h => nomatch h) fun h => nomatch h.2
        | some vs => exact iff_of_true rfl ⟨rfl, rfl⟩
    rw [hboth, hx, hrest, depths, Nat.max_le]
    exact and_and_and_comm

theorem isSome_withinEntries (entries : List (Datum × Datum)) (h : EntriesProper entries)
    (budget : Nat) (members : List (String × Value)) :
    (entries.foldlM (enter fun x : Datum => x.within (budget + 1)) members).isSome = true
      ↔ EntriesLegible entries ∧ entryDepths entries ≤ budget := by
  cases entries with
  | nil => exact iff_of_true rfl ⟨trivial, Nat.zero_le budget⟩
  | cons e rest =>
    obtain ⟨k, v⟩ := e
    obtain ⟨⟨hk, hv⟩, hproper⟩ := h
    have hentry := isSome_enter (fun x : Datum => x.within (budget + 1)) members (k, v)
    rw [isSome_keyIn hk, isSome_within v hv budget, ← and_assoc] at hentry
    rw [List.foldlM_cons, entryDepths, Nat.max_le, EntriesLegible, and_and_and_comm, ← hentry]
    cases enter (fun x : Datum => x.within (budget + 1)) members (k, v) with
    | none => exact iff_of_false (fun h => nomatch h) fun h => nomatch h.1
    | some next =>
      have hrest := isSome_withinEntries rest hproper budget next
      exact hrest.trans ⟨fun h => ⟨rfl, h⟩, fun h => h.2⟩

end

/-! ## Writing legible data -/

theorem legible_dumpedKey {k : Datum} (h : k.LegibleKey) : ∃ cs, dumpedKey k = .ok cs := by
  cases k with
  | null => exact ⟨_, rfl⟩
  | bool b => cases b <;> exact ⟨_, rfl⟩
  | int n => exact exists_map ⟨_, intText_eq_ok.mpr ⟨h, rfl⟩⟩ _
  | float x => exact ⟨_, rfl⟩
  | str s => exact ⟨_, rfl⟩
  | _ => exact absurd h id

theorem exists_encoding {α : Type} {room depth : Nat} {inside : Nat → Except Raised α}
    (hroom : depth + 1 ≤ room) (h : ∀ left, depth ≤ left → ∃ a, inside left = .ok a)
    (f : α → List Char) : ∃ cs, encoding room (fun room => (inside room).map f) = .ok cs :=
  exists_calling (by omega) (exists_map (h _ (by omega)) f)

mutual

/-- **Legible data can be written** where there is room for a bracket in every bracket. -/
theorem legible_dump (d : Datum) (h : d.Legible) {room : Nat} (hroom : d.depth ≤ room) :
    ∃ cs, d.dump room = .ok cs := by
  cases d with
  | null => exact ⟨_, rfl⟩
  | bool b => cases b <;> exact ⟨_, rfl⟩
  | int n => exact ⟨_, intText_eq_ok.mpr ⟨short_of_lt_wholeBound h, rfl⟩⟩
  | float x => exact ⟨_, rfl⟩
  | str s => exact ⟨_, rfl⟩
  | list items => exact exists_encoding hroom (fun _ => legible_dumpItems items h) _
  | tuple items => exact exists_encoding hroom (fun _ => legible_dumpItems items h) _
  | dict entries => exact exists_encoding hroom (fun _ => legible_dumpEntries entries h) _
  | _ => exact absurd h id

theorem legible_dumpItems (items : List Datum) (h : AllLegible items) {room : Nat}
    (hroom : depths items ≤ room) : ∃ cs, dumpItems room items = .ok cs := by
  cases items with
  | nil => exact ⟨_, rfl⟩
  | cons x rest =>
    obtain ⟨hx, hrest⟩ := Nat.max_le.mp hroom
    have htail := legible_dumpItems rest h.2 hrest
    refine exists_bind (legible_dump x h.1 hx) fun head _ => ?_
    cases rest with
    | nil => exact ⟨_, rfl⟩
    | cons y rest => exact exists_map htail _

theorem legible_dumpEntries (entries : List (Datum × Datum)) (h : EntriesLegible entries)
    {room : Nat} (hroom : entryDepths entries ≤ room) :
    ∃ cs, dumpEntries room entries = .ok cs := by
  cases entries with
  | nil => exact ⟨_, rfl⟩
  | cons e rest =>
    obtain ⟨k, v⟩ := e
    obtain ⟨⟨hk, hv⟩, hothers⟩ := h
    obtain ⟨hvalue, hrest⟩ := Nat.max_le.mp hroom
    have htail := legible_dumpEntries rest hothers hrest
    refine exists_bind (legible_dumpedKey hk) fun key _ => ?_
    refine exists_bind (legible_dump v hv hvalue) fun value _ => ?_
    cases rest with
    | nil => exact ⟨_, rfl⟩
    | cons e rest => exact exists_map htail _

end

/-- **What is written for legible data is read, and nothing else.** -/
theorem readDocument_legible {d : Datum} (h : d.Proper) {room : Nat} {cs : List Char}
    (hd : d.dump room = .ok cs) :
    (∃ v, Json.readDocument (Text.encode cs) = .ok v) ↔ d.Legible ∧ d.depth ≤ 127 := by
  rw [← isSome_within d h 127]
  have hread := readDocument_dump h hd
  rw [show Json.bracketBudget = 127 + 1 from rfl] at hread
  rw [← hread]
  cases Json.readDocument (Text.encode cs) with
  | error refusal => exact iff_of_false (fun ⟨_, h⟩ => nomatch h) fun h => nomatch h
  | ok v => exact iff_of_true ⟨v, rfl⟩ rfl

end Datum

end ImageText.Engine
