import ImageText.Json.Value

/-!
# Members under distinct keys

An object keeps its members in the order of their keys, so it does not matter in which order members
under different keys are put into it:

> `insert_comm`, `insert_insert`: different keys do not interfere, and of two members with one key the
> later stays.

A list of members as they came, each key once, is the same object as the one that was built in
another order. `collect_replace` is that for a dictionary of the engine's side, in which a key that comes
again keeps its place and gets a new value, and `collect_ascending` is that for members which come in
the order of their keys already.
-/

namespace ImageText.Json

section Insert

variable {α : Type}

theorem lt_or_eq_or_gt (a b : String) : a < b ∨ a = b ∨ b < a := by
  by_cases hlt : a < b
  · exact Or.inl hlt
  by_cases hgt : b < a
  · exact Or.inr (Or.inr hgt)
  · exact Or.inr (Or.inl (String.le_antisymm (String.not_lt.mp hgt) (String.not_lt.mp hlt)))

section Step

variable {key k : String} (x y : α) (rest : List (String × α))

theorem insert_of_lt (h : key < k) : insert key x ((k, y) :: rest) = (key, x) :: (k, y) :: rest := by
  rw [insert, if_pos h]

theorem insert_self : insert k x ((k, y) :: rest) = (k, x) :: rest := by
  rw [insert, if_neg (String.lt_irrefl k), if_pos rfl]

theorem insert_of_gt (h : k < key) :
    insert key x ((k, y) :: rest) = (k, y) :: insert key x rest := by
  have hne : key ≠ k := by
    rintro rfl
    exact String.lt_irrefl _ h
  rw [insert, if_neg (String.lt_asymm h), if_neg hne]

end Step

/-- Of two members with one key the later stays. -/
theorem insert_insert (key : String) (x y : α) (members : List (String × α)) :
    insert key x (insert key y members) = insert key x members := by
  induction members with
  | nil => exact insert_self x y []
  | cons m rest ih =>
    obtain ⟨k, z⟩ := m
    rcases lt_or_eq_or_gt key k with hlt | rfl | hgt
    · rw [insert_of_lt y z rest hlt, insert_self, insert_of_lt x z rest hlt]
    · rw [insert_self, insert_self, insert_self]
    · rw [insert_of_gt y z rest hgt, insert_of_gt x z _ hgt, insert_of_gt x z rest hgt, ih]

/-- A member goes in before or behind one with a greater key, whichever is put in first. -/
theorem insert_comm_of_lt {a b : String} (hab : a < b) (x y : α) (members : List (String × α)) :
    insert a x (insert b y members) = insert b y (insert a x members) := by
  induction members with
  | nil => exact (insert_of_lt x y [] hab).trans (insert_of_gt y x [] hab).symm
  | cons m rest ih =>
    obtain ⟨k, z⟩ := m
    rcases lt_or_eq_or_gt a k with hlt | rfl | hgt
    · rw [insert_of_lt x z rest hlt, insert_of_gt y x _ hab]
      -- whichever way `b` goes in, what comes first is greater than `a`
      rcases lt_or_eq_or_gt b k with hlt' | rfl | hgt'
      · rw [insert_of_lt y z rest hlt', insert_of_lt x y _ hab]
      · rw [insert_self, insert_of_lt x y rest hlt]
      · rw [insert_of_gt y z rest hgt', insert_of_lt x z _ hlt]
    · rw [insert_of_gt y z rest hab, insert_self, insert_self, insert_of_gt y x rest hab]
    · have hgt' := String.lt_trans hgt hab
      rw [insert_of_gt y z rest hgt', insert_of_gt x z _ hgt, insert_of_gt x z rest hgt,
        insert_of_gt y z _ hgt', ih]

/-- Members under different keys do not interfere. -/
theorem insert_comm {key other : String} (hne : key ≠ other) (x y : α)
    (members : List (String × α)) :
    insert key x (insert other y members) = insert other y (insert key x members) := by
  rcases lt_or_eq_or_gt key other with hlt | heq | hgt
  · exact insert_comm_of_lt hlt x y members
  · exact absurd heq hne
  · exact (insert_comm_of_lt hgt y x members).symm

/-- Put members into an object, one after the other. -/
def collect (members : List (String × α)) (start : List (String × α)) : List (String × α) :=
  members.foldl (fun acc m => insert m.1 m.2 acc) start

theorem collect_cons (m : String × α) (members start : List (String × α)) :
    collect (m :: members) start = collect members (insert m.1 m.2 start) := rfl

/-- A member under a key that does not come any more may be put in at once. -/
theorem collect_insert {key : String} (x : α) {members : List (String × α)}
    (h : ∀ m ∈ members, m.1 ≠ key) (start : List (String × α)) :
    collect members (insert key x start) = insert key x (collect members start) := by
  induction members generalizing start with
  | nil => rfl
  | cons m rest ih =>
    rw [collect_cons, collect_cons, insert_comm (h m (List.mem_cons_self ..)),
      ih fun n hn => h n (List.mem_cons_of_mem _ hn)]

/-- A new value for a key, in the place of the key, or behind all others. -/
def replace (key : String) (x : α) : List (String × α) → List (String × α)
  | [] => [(key, x)]
  | (k, y) :: rest => if k = key then (k, x) :: rest else (k, y) :: replace key x rest

theorem mem_keys_replace {key k : String} {x : α} {members : List (String × α)}
    (h : k ∈ (replace key x members).map Prod.fst) : k = key ∨ k ∈ members.map Prod.fst := by
  induction members with
  | nil => exact Or.inl (List.mem_singleton.mp h)
  | cons m rest ih =>
    unfold replace at h
    split at h
    · exact Or.inr h
    · rcases List.mem_cons.mp h with rfl | h
      · exact Or.inr (List.mem_cons_self ..)
      · exact (ih h).imp_right (List.mem_cons_of_mem _)

theorem nodup_replace (key : String) (x : α) {members : List (String × α)}
    (h : (members.map Prod.fst).Nodup) : ((replace key x members).map Prod.fst).Nodup := by
  induction members with
  | nil => exact List.nodup_cons.mpr ⟨List.not_mem_nil, List.nodup_nil⟩
  | cons m rest ih =>
    unfold replace
    split
    · exact h
    next hne =>
      rw [List.map_cons, List.nodup_cons] at h ⊢
      refine ⟨fun hmem => ?_, ih h.2⟩
      rcases mem_keys_replace hmem with rfl | hmem
      · exact hne rfl
      · exact h.1 hmem

/-- **A new value for a key comes to the same as a later member with the key.** -/
theorem collect_replace (key : String) (x : α) {members : List (String × α)}
    (h : (members.map Prod.fst).Nodup) (start : List (String × α)) :
    collect (replace key x members) start = insert key x (collect members start) := by
  induction members generalizing start with
  | nil => rfl
  | cons m rest ih =>
    rw [List.map_cons, List.nodup_cons] at h
    unfold replace
    split
    next heq =>
      have hrest : ∀ n ∈ rest, n.1 ≠ key := by
        rintro n hn rfl
        exact h.1 (heq ▸ List.mem_map_of_mem hn)
      rw [collect_cons, collect_cons, heq, collect_insert x hrest, collect_insert m.2 hrest,
        insert_insert]
    next => rw [collect_cons, collect_cons, ih h.2]

/-! ## Members in the order of their keys -/

/-- The keys of members ascend, so no key comes twice. -/
def Ascending (members : List (String × α)) : Prop := members.Pairwise fun m n => m.1 < n.1

theorem mem_insert {key : String} {x : α} {members : List (String × α)} {m : String × α}
    (h : m ∈ insert key x members) : m = (key, x) ∨ m ∈ members := by
  induction members with
  | nil => exact Or.inl (List.mem_singleton.mp h)
  | cons n rest ih =>
    obtain ⟨k, y⟩ := n
    rcases lt_or_eq_or_gt key k with hlt | rfl | hgt
    · rw [insert_of_lt x y rest hlt] at h
      exact List.mem_cons.mp h
    · rw [insert_self] at h
      exact (List.mem_cons.mp h).imp_right (List.mem_cons_of_mem _)
    · rw [insert_of_gt x y rest hgt] at h
      rcases List.mem_cons.mp h with rfl | h
      · exact Or.inr (List.mem_cons_self ..)
      · exact (ih h).imp_right (List.mem_cons_of_mem _)

/-- One more member leaves members in their order. -/
theorem ascending_insert (key : String) (x : α) {members : List (String × α)}
    (h : Ascending members) : Ascending (insert key x members) := by
  induction members with
  | nil => exact List.pairwise_singleton _ _
  | cons n rest ih =>
    obtain ⟨k, y⟩ := n
    obtain ⟨hfirst, hrest⟩ := List.pairwise_cons.mp h
    rcases lt_or_eq_or_gt key k with hlt | rfl | hgt
    · rw [insert_of_lt x y rest hlt]
      refine List.pairwise_cons.mpr ⟨?_, h⟩
      exact List.forall_mem_cons.mpr ⟨hlt, fun m hm => String.lt_trans hlt (hfirst m hm)⟩
    · rw [insert_self]
      exact List.pairwise_cons.mpr ⟨hfirst, hrest⟩
    · rw [insert_of_gt x y rest hgt]
      refine List.pairwise_cons.mpr ⟨fun m hm => ?_, ih hrest⟩
      rcases mem_insert hm with rfl | hm
      · exact hgt
      · exact hfirst m hm

/-- A member under the greatest key comes last. -/
theorem insert_last {key : String} (x : α) {members : List (String × α)}
    (h : ∀ m ∈ members, m.1 < key) : insert key x members = members ++ [(key, x)] := by
  induction members with
  | nil => rfl
  | cons n rest ih =>
    rw [insert_of_gt x n.2 rest (h n (List.mem_cons_self ..)),
      ih fun m hm => h m (List.mem_cons_of_mem _ hm)]
    rfl

/-- **Members that come in the order of their keys stay as they came.** -/
theorem collect_ascending {start members : List (String × α)} (h : Ascending (start ++ members)) :
    collect members start = start ++ members := by
  induction members generalizing start with
  | nil => exact (List.append_nil start).symm
  | cons m rest ih =>
    have hlast : ∀ n ∈ start, n.1 < m.1 := fun n hn =>
      (List.pairwise_append.mp h).2.2 n hn m (List.mem_cons_self ..)
    rw [List.append_cons] at h ⊢
    rw [collect_cons, insert_last m.2 hlast, ih h]

end Insert

end ImageText.Json
