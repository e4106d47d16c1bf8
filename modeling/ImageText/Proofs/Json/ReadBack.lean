import ImageText.Proofs.Json.Compact
import ImageText.Proofs.Json.Proper

/-!
# Printed and read back

The compact form of a value is a document, and a reader makes a value of it again. It is the same value
if it is proper and no double is in it: a printed string spells itself, a whole number that fits 64 bits
is read as a whole number, and the members of an object, which come in the order of their keys, stay in
it. What may be in the way is the depth alone, since a reader opens only so many brackets.

> `exists_restoring`: what is printed of a value is a layout that means the value,
> `readDocument_chars`: so the value is read back, or it is nested too deeply and nothing is read,
> `chars_inj`: and no other value is printed in this way, however deep the two are nested.

Doubles are left out: their digits are read by single operations, each of which rounds.
-/

namespace ImageText.Json

open Text (encode)

/-- A layout is what is printed of a value, and means the value where so many brackets may be opened. -/
structure Layout.Restores (v : Value) (l : Layout) : Prop where
  bytes : l.bytes = encode v.chars
  within : ∀ budget, l.within budget = if v.depth < budget then some v else none

/-- An item is what is printed of a value, and means the value. -/
structure Item.Restores (v : Value) (i : Item Layout) : Prop where
  prints : i.Prints v
  value : i.value.Restores v

/-- An entry is what is printed of a member, and means the member. -/
structure Entry.Restores (m : String × Value) (e : Entry Layout) : Prop where
  prints : e.Prints m
  key : e.label.text? = some m.1
  value : e.item.value.Restores m.2

/-! ## Scalars -/

theorem restores_scalar {s : Scalar} {v : Value} (hbytes : s.first :: s.others = encode v.chars)
    (hvalue : s.value? = some v) (hdepth : v.depth = 0) : (Layout.scalar s).Restores v where
  bytes := by rw [Layout.bytes, hbytes]
  within budget := by
    cases budget with
    | zero => rw [Layout.within, if_neg (Nat.not_lt_zero _)]
    | succ budget => rw [Layout.within, hvalue, hdepth, if_pos (Nat.succ_pos _)]

theorem restores_whole {n : Int} (h : -0x8000000000000000 ≤ n ∧ n < 0x10000000000000000) :
    (Layout.scalar (.figure (.ofInt n))).Restores (.number (.whole n)) := by
  refine restores_scalar ?_ ?_ rfl
  · rw [Scalar.bytes_figure, Figure.bytes_ofInt]
    rfl
  · show (Figure.ofInt n).numeral.value.toOption.map Value.number = _
    rw [value_ofInt h.1 h.2]
    rfl

theorem exists_restoring_string (s : String) : ∃ l : Layout, l.Restores (.string s) := by
  obtain ⟨row, hbytes, htext⟩ := exists_literal s
  refine ⟨.scalar (.string (.atoms row)), restores_scalar hbytes.symm ?_ rfl⟩
  show (Label.atoms row).text?.map Value.string = _
  rw [htext]
  rfl

/-! ## Containers -/

section Containers

variable {budget : Nat} (hbudget : 0 < budget)

include hbudget

/-- Items mean what they are printed of, if none of them is nested too deeply. -/
theorem mapM_restores {items : List Value} {layouts : List (Item Layout)}
    (h : List.Forall₂ (fun v i => i.Restores v) items layouts) :
    (layouts.mapM fun i => i.value.within budget)
      = if itemDepth items < budget then some items else none := by
  induction h with
  | nil =>
    rw [List.mapM_nil, itemDepth, if_pos hbudget]
    rfl
  | @cons v i items layouts hi _ ih =>
    rw [List.mapM_cons, hi.value.within, ih, itemDepth]
    simp only [Nat.max_lt]
    by_cases hv : v.depth < budget
    · by_cases hrest : itemDepth items < budget
      · rw [if_pos hv, if_pos hrest, if_pos ⟨hv, hrest⟩]
        rfl
      · rw [if_pos hv, if_neg hrest, if_neg (not_and_of_not_right _ hrest)]
        rfl
    · rw [if_neg hv, if_neg (not_and_of_not_left _ hv)]
      rfl

/-- Entries put in what they are printed of, if none of it is nested too deeply. -/
theorem foldlM_restores {members : List (String × Value)} {entries : List (Entry Layout)}
    (h : List.Forall₂ (fun m e => e.Restores m) members entries) (start : List (String × Value)) :
    entries.foldlM (Layout.enter fun l => l.within budget) start
      = if memberDepth members < budget then some (collect members start) else none := by
  induction h generalizing start with
  | nil =>
    rw [List.foldlM_nil, memberDepth, if_pos hbudget]
    rfl
  | @cons m e members entries he _ ih =>
    rw [List.foldlM_cons, Layout.enter, he.key, he.value.within, memberDepth]
    simp only [Nat.max_lt]
    by_cases hv : m.2.depth < budget
    · rw [if_pos hv]
      show entries.foldlM _ (insert m.1 m.2 start) = _
      rw [ih, collect_cons]
      by_cases hrest : memberDepth members < budget
      · rw [if_pos hrest, if_pos ⟨hv, hrest⟩]
      · rw [if_neg hrest, if_neg (not_and_of_not_right _ hrest)]
    · rw [if_neg hv, if_neg (not_and_of_not_left _ hv)]
      rfl

end Containers

/-- A container means what its contents mean, if there is room for them within one more bracket. -/
theorem opened_restores {α : Type} {budget depth : Nat} {contents : Option α} {x : α} {f : α → Value}
    (h : 0 < budget → contents = if depth < budget then some x else none) :
    (if budget = 0 then none else contents.map f)
      = if depth + 1 < budget + 1 then some (f x) else none := by
  by_cases hbudget : budget = 0
  · rw [if_pos hbudget, if_neg (by omega)]
  · rw [if_neg hbudget, h (Nat.pos_of_ne_zero hbudget)]
    simp only [Nat.succ_lt_succ_iff]
    split <;> rfl

theorem restores_array {items : List Value} {layouts : List (Item Layout)}
    (h : List.Forall₂ (fun v i => i.Restores v) items layouts) :
    (Layout.array .none layouts).Restores (.array items) where
  bytes := by
    rw [Layout.bytes, ← encode_items (h.imp fun _ _ hi => hi.prints)]
    exact (Text.encode_append ['['] _).symm
  within budget := by
    rw [Value.depth]
    cases budget with
    | zero => rw [Layout.within, if_neg (Nat.not_lt_zero _)]
    | succ budget =>
      rw [Layout.within]
      exact opened_restores fun hbudget => mapM_restores hbudget h

/-- The members come in the order of their keys, so they are put into an object as they come. -/
theorem restores_object {members : List (String × Value)} {entries : List (Entry Layout)}
    (hkeys : Ascending members) (h : List.Forall₂ (fun m e => e.Restores m) members entries) :
    (Layout.object .none entries).Restores (.object members) where
  bytes := by
    rw [Layout.bytes, ← encode_members (h.imp fun _ _ he => he.prints)]
    exact (Text.encode_append ['\x7b'] _).symm
  within budget := by
    rw [Value.depth]
    cases budget with
    | zero => rw [Layout.within, if_neg (Nat.not_lt_zero _)]
    | succ budget =>
      have hcollect : collect members [] = members := collect_ascending hkeys
      rw [Layout.within]
      refine opened_restores fun hbudget => ?_
      rw [foldlM_restores hbudget h, hcollect]

/-! ## Whole values -/

mutual

/-- **What is printed of a value is a layout that means the value**, if the value is exact. -/
theorem exists_restoring (v : Value) (h : v.Exact) : ∃ l : Layout, l.Restores v := by
  cases v with
  | null => exact ⟨.scalar .null, restores_scalar rfl rfl rfl⟩
  | bool b => exact ⟨.scalar (.bool b), by cases b <;> exact restores_scalar rfl rfl rfl⟩
  | number n =>
    cases n with
    | whole n => exact ⟨_, restores_whole (h.proper _ .self)⟩
    | real d => exact absurd rfl (h.whole _ .self d)
  | string s => exact exists_restoring_string s
  | array items =>
    obtain ⟨layouts, hlayouts⟩ := exists_restoring_items items (Value.exact_array h)
    exact ⟨_, restores_array hlayouts⟩
  | object members =>
    obtain ⟨hkeys, hmembers⟩ := Value.exact_object h
    obtain ⟨entries, hentries⟩ := exists_restoring_members members hmembers
    exact ⟨_, restores_object hkeys hentries⟩

theorem exists_restoring_items (items : List Value) (h : ∀ v ∈ items, v.Exact) :
    ∃ layouts : List (Item Layout), List.Forall₂ (fun v i => i.Restores v) items layouts := by
  match items with
  | [] => exact ⟨[], .nil⟩
  | v :: rest =>
    obtain ⟨hfirst, hrest⟩ := List.forall_mem_cons.mp h
    obtain ⟨l, hl⟩ := exists_restoring v hfirst
    obtain ⟨layouts, hlayouts⟩ := exists_restoring_items rest hrest
    have hprints : (⟨.none, l, .none⟩ : Item Layout).Prints v := by
      show [] ++ (l.bytes ++ []) = _
      rw [List.append_nil, List.nil_append, hl.bytes]
    exact ⟨_, .cons ⟨hprints, hl⟩ hlayouts⟩

theorem exists_restoring_members (members : List (String × Value)) (h : ∀ m ∈ members, m.2.Exact) :
    ∃ entries : List (Entry Layout), List.Forall₂ (fun m e => e.Restores m) members entries := by
  match members with
  | [] => exact ⟨[], .nil⟩
  | (key, v) :: rest =>
    obtain ⟨hfirst, hrest⟩ := List.forall_mem_cons.mp h
    obtain ⟨l, hl⟩ := exists_restoring v hfirst
    obtain ⟨entries, hentries⟩ := exists_restoring_members rest hrest
    obtain ⟨e, hprints, -, hkey, hvalue⟩ := exists_entry key hl.bytes
    exact ⟨_, .cons ⟨hprints, hkey, hvalue ▸ hl⟩ hentries⟩

end

/-- **A value is read back from what is printed of it**, unless it is nested too deeply; then nothing is
read. -/
theorem readDocument_chars {v : Value} (h : v.Exact) :
    (readDocument (encode v.chars)).toOption = if v.depth < bracketBudget then some v else none := by
  obtain ⟨l, hl⟩ := exists_restoring v h
  have hread := readDocument_layout .none .none l
  rw [hl.within, hl.bytes] at hread
  rw [← hread]
  show _ = (readDocument ([] ++ (encode v.chars ++ []))).toOption
  rw [List.append_nil, List.nil_append]

/-- **Two values are not printed alike.** A reader with enough room reads both of them back. -/
theorem chars_inj {v w : Value} (hv : v.Exact) (hw : w.Exact) (h : v.chars = w.chars) : v = w := by
  obtain ⟨l, hl⟩ := exists_restoring v hv
  obtain ⟨l', hl'⟩ := exists_restoring w hw
  -- room for the deeper of the two
  let budget := max v.depth w.depth + 1
  have hreads : ∀ {x : Value} {k : Layout}, k.Restores x → x.depth < budget →
      (readValue (encode x.chars).length budget (encode x.chars)).toOption = some (x, []) := by
    intro x k hk hdepth
    have hread := readValue_layout (encode x.chars).length budget k (by rw [hk.bytes]) [] ends_nil
    rwa [hk.within, if_pos hdepth, hk.bytes, List.append_nil] at hread
  have hread := hreads hl (by omega)
  rw [h, hreads hl' (by omega)] at hread
  cases hread
  rfl

end ImageText.Json
