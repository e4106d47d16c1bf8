import ImageText.Json.Reader
import ImageText.Proofs.Json.Members
import ImageText.Proofs.Json.Range

/-!
# Values as they are read

The type of values has room for more than a document can say: a whole number may be of any size, the
members of an object may stand in any order, and containers may be nested without an end. What is read
keeps to less, and this file says to how much. A value is `Proper` if every whole number in it fits 64
bits and every object in it lists its members in the order of their keys.

> `proper_readDocument`: whatever is read is proper, with at most 127 containers open at once.

So a statement about proper values leaves out nothing that a document can be read as. The walks from
comma to comma are told what holds of one item, and what one entry keeps.
-/

namespace ImageText.Json

/-! ## Parts of a value -/

/-- A value is another one or stands somewhere in it. -/
inductive Value.Part (x : Value) : Value → Prop
  | self : Part x x
  | item {items : List Value} {v : Value} (hmem : v ∈ items) (h : Part x v) : Part x (.array items)
  | member {members : List (String × Value)} {m : String × Value} (hmem : m ∈ members)
      (h : Part x m.2) : Part x (.object members)

namespace Value

/-- What is asked of a value by itself, whatever stands in it: a whole number fits 64 bits, and members
are in the order of their keys. Nothing is asked of a double. -/
def Sound : Value → Prop
  | number (.whole n) => -0x8000000000000000 ≤ n ∧ n < 0x10000000000000000
  | object members => Ascending members
  | _ => True

/-- A value of which every part is sound. -/
def Proper (v : Value) : Prop := ∀ x : Value, x.Part v → x.Sound

/-- A value of which no part is a double. -/
def Whole (v : Value) : Prop := ∀ x : Value, x.Part v → ∀ d, x ≠ .number (.real d)

/-- A proper value without a double. -/
structure Exact (v : Value) : Prop where
  proper : v.Proper
  whole : v.Whole

end Value

mutual

/-- How deep containers are nested. -/
def Value.depth : Value → Nat
  | .array items => itemDepth items + 1
  | .object members => memberDepth members + 1
  | _ => 0

/-- The greatest depth among items. -/
def itemDepth : List Value → Nat
  | [] => 0
  | v :: rest => max v.depth (itemDepth rest)

/-- The greatest depth among the values of members. -/
def memberDepth : List (String × Value) → Nat
  | [] => 0
  | (_, v) :: rest => max v.depth (memberDepth rest)

end

theorem itemDepth_lt {items : List Value} {n : Nat} (hn : 0 < n) :
    itemDepth items < n ↔ ∀ v ∈ items, v.depth < n := by
  induction items with
  | nil => exact iff_of_true hn (List.forall_mem_nil _)
  | cons v rest ih => rw [itemDepth, Nat.max_lt, List.forall_mem_cons, ih]

theorem memberDepth_lt {members : List (String × Value)} {n : Nat} (hn : 0 < n) :
    memberDepth members < n ↔ ∀ m ∈ members, m.2.depth < n := by
  induction members with
  | nil => exact iff_of_true hn (List.forall_mem_nil _)
  | cons m rest ih => rw [memberDepth, Nat.max_lt, List.forall_mem_cons, ih]

namespace Value

/-! A property of all parts of a value is one of the value itself and of all parts of what is in it. -/

theorem forall_part_scalar {P : Value → Prop} {v : Value} (harray : ∀ items, v ≠ .array items)
    (hobject : ∀ members, v ≠ .object members) : (∀ x : Value, x.Part v → P x) ↔ P v := by
  constructor
  · exact fun h => h v .self
  · rintro h x (_ | _ | _)
    · exact h
    · exact absurd rfl (harray _)
    · exact absurd rfl (hobject _)

theorem forall_part_array {P : Value → Prop} {items : List Value} :
    (∀ x : Value, x.Part (.array items) → P x)
      ↔ P (.array items) ∧ ∀ v ∈ items, ∀ x : Value, x.Part v → P x := by
  constructor
  · exact fun h => ⟨h _ .self, fun v hv x hx => h x (.item hv hx)⟩
  · rintro ⟨hself, hitems⟩ x (_ | ⟨hv, hx⟩)
    · exact hself
    · exact hitems _ hv x hx

theorem forall_part_object {P : Value → Prop} {members : List (String × Value)} :
    (∀ x : Value, x.Part (.object members) → P x)
      ↔ P (.object members) ∧ ∀ m ∈ members, ∀ x : Value, x.Part m.2 → P x := by
  constructor
  · exact fun h => ⟨h _ .self, fun m hm x hx => h x (.member hm hx)⟩
  · rintro ⟨hself, hmembers⟩ x (_ | _ | ⟨hm, hx⟩)
    · exact hself
    · exact hmembers _ hm x hx

theorem Part.trans {x y z : Value} (hxy : x.Part y) (hyz : y.Part z) : x.Part z := by
  induction hyz with
  | self => exact hxy
  | item hmem _ ih => exact .item hmem ih
  | member hmem _ ih => exact .member hmem ih

theorem Part.proper {x v : Value} (h : x.Part v) (hv : v.Proper) : x.Proper :=
  fun y hy => hv y (hy.trans h)

theorem Part.depth_le {x v : Value} (h : x.Part v) : x.depth ≤ v.depth := by
  induction h with
  | self => exact Nat.le_refl _
  | @item items v hmem _ ih =>
    have hv : v.depth < itemDepth items + 1 :=
      (itemDepth_lt (Nat.succ_pos _)).mp (Nat.lt_succ_self _) v hmem
    rw [depth]
    omega
  | @member members m hmem _ ih =>
    have hm : m.2.depth < memberDepth members + 1 :=
      (memberDepth_lt (Nat.succ_pos _)).mp (Nat.lt_succ_self _) m hmem
    rw [depth]
    omega

theorem proper_array {items : List Value} : (array items).Proper ↔ ∀ v ∈ items, v.Proper :=
  forall_part_array.trans (and_iff_right trivial)

theorem proper_object {members : List (String × Value)} :
    (object members).Proper ↔ Ascending members ∧ ∀ m ∈ members, m.2.Proper :=
  forall_part_object

theorem whole_scalar {v : Value} (harray : ∀ items, v ≠ .array items)
    (hobject : ∀ members, v ≠ .object members) (h : ∀ d, v ≠ .number (.real d)) : v.Whole :=
  (forall_part_scalar harray hobject).mpr h

theorem whole_array {items : List Value} : (array items).Whole ↔ ∀ v ∈ items, v.Whole :=
  forall_part_array.trans (and_iff_right nofun)

theorem whole_object {members : List (String × Value)} :
    (object members).Whole ↔ ∀ m ∈ members, m.2.Whole :=
  forall_part_object.trans (and_iff_right nofun)

theorem exact_array {items : List Value} (h : (array items).Exact) : ∀ v ∈ items, v.Exact :=
  fun v hv => ⟨proper_array.mp h.proper v hv, whole_array.mp h.whole v hv⟩

theorem exact_object {members : List (String × Value)} (h : (object members).Exact) :
    Ascending members ∧ ∀ m ∈ members, m.2.Exact := by
  obtain ⟨hkeys, hproper⟩ := proper_object.mp h.proper
  exact ⟨hkeys, fun m hm => ⟨hproper m hm, whole_object.mp h.whole m hm⟩⟩

end Value

/-! ## Scalars -/

/-- A double is no whole number. -/
theorem real?_ne_whole (negative : Bool) (significand : Nat) (power : Int) (n : Int) :
    ((Numeral.real? negative significand power).elim (.error 0) .ok : Except Nat Number)
      ≠ .ok (.whole n) := by
  intro h
  rw [Numeral.real?] at h
  cases hmagnitude : (Decimal.Magnitude.ofNat significand).bind
      (Decimal.Magnitude.approximate 3 · power) with
  | none =>
    rw [hmagnitude] at h
    cases h
  | some m =>
    rw [hmagnitude] at h
    cases h

/-- A numeral that is read as a whole number fits 64 bits. -/
theorem sound_value {numeral : Numeral} {n : Number} (h : numeral.value = .ok n) :
    (Value.number n).Sound := by
  cases n with
  | real d => trivial
  | whole n =>
    have hkept : numeral.kept ≤ 0xFFFFFFFFFFFFFFFF := numeral.kept_fits
    rw [Numeral.value_eq] at h
    split at h
    · split at h
      · split at h
        · cases h
          exact ⟨by omega, by omega⟩
        · split at h
          · exact absurd h (real?_ne_whole _ _ _ n)
          next hnegative =>
            cases h
            rw [maxNegative] at hnegative
            exact ⟨by omega, by omega⟩
      · exact absurd h (real?_ne_whole _ _ _ n)
    · split at h
      · split at h
        · cases h
        · cases h
      · exact absurd h (real?_ne_whole _ _ _ n)

theorem sound_readNumber {input rest : Bytes} {n : Number}
    (h : readNumber input = .ok (n, rest)) : (Value.number n).Sound := by
  simp only [readNumber, bind, Except.bind] at h
  split at h
  · cases h
  next p _ =>
    split at h
    next hvalue =>
      cases h
      exact sound_value hvalue
    next => cases h

/-- A scalar that is sound is proper, and nothing is nested in it. -/
theorem proper_scalar {v : Value} (harray : ∀ items, v ≠ .array items)
    (hobject : ∀ members, v ≠ .object members) (h : v.Sound) : v.Proper ∧ v.depth = 0 := by
  refine ⟨(Value.forall_part_scalar harray hobject).mpr h, ?_⟩
  cases v with
  | array items => exact absurd rfl (harray items)
  | object members => exact absurd rfl (hobject members)
  | _ => rfl

/-- What comes of a result comes of what was read. -/
theorem read_map {α β : Type} {r : Step α} {f : α → β} {y : β} {rest : Bytes}
    (h : (r.map fun p => (f p.1, p.2)) = .ok (y, rest)) : ∃ x, r = .ok (x, rest) ∧ y = f x := by
  cases r with
  | error stop => cases h
  | ok p =>
    cases h
    exact ⟨p.1, rfl, rfl⟩

/-- A word stands for nothing or for a truth value. -/
theorem wordOf?_cases {b : UInt8} {v : Value} {word : Bytes} (h : wordOf? b = some (v, word)) :
    v = .null ∨ ∃ truth, v = .bool truth := by
  unfold wordOf? at h
  split at h
  · cases h
    exact Or.inl rfl
  split at h
  · cases h
    exact Or.inr ⟨true, rfl⟩
  split at h
  · cases h
    exact Or.inr ⟨false, rfl⟩
  · cases h

/-- A scalar that is read is proper. -/
theorem proper_readScalar {b : UInt8} {input rest : Bytes} {v : Value}
    (h : readScalar b input = .ok (v, rest)) : v.Proper ∧ v.depth = 0 := by
  unfold readScalar at h
  split at h
  next w word hword =>
    obtain ⟨_, -, rfl⟩ := read_map (f := fun _ => w) h
    rcases wordOf?_cases hword with rfl | ⟨truth, rfl⟩
    · exact proper_scalar nofun nofun trivial
    · exact proper_scalar nofun nofun trivial
  split at h
  · obtain ⟨n, hn, rfl⟩ := read_map h
    exact proper_scalar nofun nofun (sound_readNumber hn)
  split at h
  · obtain ⟨s, -, rfl⟩ := read_map h
    exact proper_scalar nofun nofun trivial
  · cases h

/-! ## The walks -/

section Walks

variable {α σ : Type}

/-- What holds of every item that is read holds of the items of an array. -/
theorem readItems_forall {P : α → Prop} {item : Bytes → Step α}
    (hitem : ∀ input x rest, item input = .ok (x, rest) → P x) {fuel : Nat} {acc : List α}
    {input : Bytes} (hacc : ∀ x ∈ acc, P x) {xs : List α} {rest : Bytes}
    (h : readItems item fuel acc input = .ok (xs, rest)) : ∀ x ∈ xs, P x := by
  fun_induction readItems item fuel acc input with
  | case4 fuel acc input x behind hx more _ =>
    -- the last item
    cases h
    simp only [List.mem_reverse, List.forall_mem_cons]
    exact ⟨hitem _ _ _ hx, hacc⟩
  | case7 fuel acc input x behind hx _ _ _ _ _ _ _ ih =>
    -- one more item behind a comma
    exact ih (List.forall_mem_cons.mpr ⟨hitem _ _ _ hx, hacc⟩) h
  | _ => cases h

theorem readArray_forall {P : α → Prop} {item : Bytes → Step α}
    (hitem : ∀ input x rest, item input = .ok (x, rest) → P x) {size : Nat} {input : Bytes}
    {xs : List α} {rest : Bytes} (h : readArray size item input = .ok (xs, rest)) :
    ∀ x ∈ xs, P x := by
  unfold readArray at h
  split at h
  · cases h
  split at h
  · cases h
    exact List.forall_mem_nil _
  · exact readItems_forall hitem (List.forall_mem_nil _) h

/-- What every entry keeps is kept by the entries of an object. -/
theorem readEntries_keeps {P : σ → Prop} {entry : σ → String → Bytes → Step σ}
    (hentry : ∀ state key input next rest, P state → entry state key input = .ok (next, rest) → P next)
    {fuel : Nat} {state : σ} {input : Bytes} (hstate : P state) {last : σ} {rest : Bytes}
    (h : readEntries entry fuel state input = .ok (last, rest)) : P last := by
  fun_induction readEntries entry fuel state input with
  | case5 fuel state input key behind _ next more hnext =>
    -- the last entry
    cases h
    exact hentry _ _ _ _ _ hstate hnext
  | case7 fuel state input key behind _ next more hnext _ _ _ _ _ ih =>
    -- one more entry behind a comma
    exact ih (hentry _ _ _ _ _ hstate hnext) h
  | _ => cases h

theorem readObject_keeps {P : σ → Prop} {entry : σ → String → Bytes → Step σ}
    (hentry : ∀ state key input next rest, P state → entry state key input = .ok (next, rest) → P next)
    {size : Nat} {state : σ} {input : Bytes} (hstate : P state) {last : σ} {rest : Bytes}
    (h : readObject size entry state input = .ok (last, rest)) : P last := by
  unfold readObject at h
  split at h
  · cases h
  split at h
  · cases h
    exact hstate
  split at h
  · exact readEntries_keeps hentry hstate h
  · cases h

end Walks

/-! ## Whole values -/

/-- A member that is read is put among the members before it. -/
theorem readMember_ok {value : Bytes → Step Value} {members next : List (String × Value)}
    {key : String} {input rest : Bytes}
    (h : readMember value members key input = .ok (next, rest)) :
    ∃ behind v, value behind = .ok (v, rest) ∧ next = insert key v members := by
  unfold readMember at h
  split at h
  · cases h
  next behind _ =>
    split at h
    · cases h
    next v _ hv =>
      cases h
      exact ⟨behind, v, hv, rfl⟩

/-- **What is read is proper and not deeper than allowed.** The induction is on the number of brackets
that may still be opened. -/
theorem proper_readValue {size budget : Nat} {input rest : Bytes} {v : Value}
    (h : readValue size budget input = .ok (v, rest)) : v.Proper ∧ v.depth < budget := by
  induction budget generalizing input v rest with
  | zero => cases h
  | succ budget ih =>
    rw [readValue] at h
    split at h
    · cases h
    split at h
    · -- an array
      split at h
      · cases h
      next hbudget =>
        obtain ⟨items, hitems, rfl⟩ := read_map h
        have hread := readArray_forall (P := fun v => v.Proper ∧ v.depth < budget)
          (fun _ _ _ => ih) hitems
        refine ⟨Value.proper_array.mpr fun v hv => (hread v hv).1, Nat.succ_lt_succ ?_⟩
        exact (itemDepth_lt (Nat.pos_of_ne_zero hbudget)).mpr fun v hv => (hread v hv).2
    split at h
    · -- an object: one more member leaves the keys in their order
      split at h
      · cases h
      next hbudget =>
        obtain ⟨members, hmembers, rfl⟩ := read_map h
        have hread := readObject_keeps
          (P := fun ms => Ascending ms ∧ ∀ m ∈ ms, m.2.Proper ∧ m.2.depth < budget)
          (fun ms key input next rest hms hnext => by
            obtain ⟨behind, v, hv, rfl⟩ := readMember_ok hnext
            refine ⟨ascending_insert key v hms.1, fun m hm => ?_⟩
            rcases mem_insert hm with rfl | hm
            · exact ih hv
            · exact hms.2 m hm)
          ⟨List.Pairwise.nil, List.forall_mem_nil _⟩ hmembers
        refine ⟨Value.proper_object.mpr ⟨hread.1, fun m hm => (hread.2 m hm).1⟩, Nat.succ_lt_succ ?_⟩
        exact (memberDepth_lt (Nat.pos_of_ne_zero hbudget)).mpr fun m hm => (hread.2 m hm).2
    · obtain ⟨hproper, hdepth⟩ := proper_readScalar h
      exact ⟨hproper, by omega⟩

/-- Whatever a document is read as is proper, with at most 127 containers open at once. -/
theorem proper_readDocument {input : Bytes} {v : Value} (h : readDocument input = .ok v) :
    v.Proper ∧ v.depth ≤ 127 := by
  unfold readDocument readDocumentWith at h
  split at h
  · cases h
  next x rest hread =>
    split at h
    · cases h
    next _ hend =>
      cases h
      unfold endDocument at hend
      split at hend
      · cases hend
        obtain ⟨hproper, hdepth⟩ := proper_readValue hread
        exact ⟨hproper, Nat.le_of_lt_succ hdepth⟩
      · cases hend

end ImageText.Json
