import Mathlib.Algebra.Group.Nat.Defs
import ImageText.Engine.Limits
import ImageText.Json.Printer

/-!
# Within the limits and beyond them

A result depends on the room that there is for calls in two ways only. What comes out with some room
comes out the same with more (`Grows`), and what is raised for want of room is one of the exceptions
that a limit raises (`Only` with `Raised.IsLimit`). Both properties go through everything that results
are put together with, so for a recursion over a value each is proved by going through its cases.

> `intText_eq_ok`: a whole number has a text exactly if it has at most 4300 digits.
-/

namespace ImageText.Engine

/-- A limit of the interpreter raises the exception. -/
def Raised.IsLimit (r : Raised) : Prop := r = tooLong "" ∨ ∃ doing, r = tooDeep doing

/-- A type error. -/
def Raised.IsMistake (r : Raised) : Prop := ∃ message, r = Raised.typeError message

theorem Raised.IsLimit.ordinary {r : Raised} (h : r.IsLimit) : r.escape = none := by
  rcases h with rfl | ⟨doing, rfl⟩ <;> rfl

theorem Raised.IsMistake.ordinary {r : Raised} (h : r.IsMistake) : r.escape = none := by
  obtain ⟨message, rfl⟩ := h
  rfl

/-- A type error has a name of its own. -/
theorem Raised.IsMistake.not_limit {r : Raised} (h : r.IsMistake) : ¬ r.IsLimit := by
  obtain ⟨message, rfl⟩ := h
  have hlong : ofString "TypeError" ≠ ofString "ValueError" := by decide
  have hdeep : ofString "TypeError" ≠ ofString "RecursionError" := by decide
  rintro (h | ⟨doing, h⟩)
  · exact hlong (congrArg Raised.name h)
  · exact hdeep (congrArg Raised.name h)

/-! ## What it takes to have a result -/

section Results

variable {α β : Type}

theorem map_ok {f : α → β} {r : Except Raised α} {b : β} (h : r.map f = .ok b) :
    ∃ a, r = .ok a ∧ f a = b := by
  cases r with
  | error raised => cases h
  | ok a => exact ⟨a, rfl, Except.ok.inj h⟩

theorem bind_ok {f : α → Except Raised β} {r : Except Raised α} {b : β} (h : r.bind f = .ok b) :
    ∃ a, r = .ok a ∧ f a = .ok b := by
  cases r with
  | error raised => cases h
  | ok a => exact ⟨a, rfl, h⟩

theorem calling_ok {room : Nat} {doing : String} {inside : Nat → Except Raised α} {a : α}
    (h : calling room doing inside = .ok a) : ∃ left, room = left + 1 ∧ inside left = .ok a := by
  cases room with
  | zero => cases h
  | succ left => exact ⟨left, rfl, h⟩

/-- There is a result of a map where there is something to map. -/
theorem exists_map {r : Except Raised α} (h : ∃ a, r = .ok a) (f : α → β) :
    ∃ b, r.map f = .ok b := by
  obtain ⟨a, rfl⟩ := h
  exact ⟨f a, rfl⟩

theorem exists_bind {r : Except Raised α} (h : ∃ a, r = .ok a) {f : α → Except Raised β}
    (hf : ∀ a, r = .ok a → ∃ b, f a = .ok b) : ∃ b, r.bind f = .ok b := by
  obtain ⟨a, rfl⟩ := h
  exact hf a rfl

theorem exists_calling {room : Nat} {doing : String} {inside : Nat → Except Raised α}
    (hroom : 0 < room) (h : ∃ a, inside (room - 1) = .ok a) :
    ∃ a, calling room doing inside = .ok a := by
  cases room with
  | zero => exact absurd hroom (Nat.lt_irrefl 0)
  | succ left => exact h

end Results

/-! ## What can be raised -/

/-- Whatever is raised is of one kind. -/
def Only {α : Type} (P : Raised → Prop) (result : Except Raised α) : Prop :=
  ∀ r, result = .error r → P r

namespace Only

variable {α β : Type} {P Q : Raised → Prop}

theorem ok (a : α) : Only P (.ok a) := nofun

theorem error {r : Raised} (h : P r) : Only P (.error r : Except Raised α) := by
  intro r' hr'
  cases hr'
  exact h

theorem map {result : Except Raised α} (h : Only P result) (f : α → β) : Only P (result.map f) := by
  cases result with
  | ok a => exact ok (f a)
  | error r => exact error (h r rfl)

theorem bind {result : Except Raised α} (h : Only P result) {f : α → Except Raised β}
    (hf : ∀ a, Only P (f a)) : Only P (result.bind f) := by
  cases result with
  | ok a => exact hf a
  | error r => exact error (h r rfl)

theorem mono {result : Except Raised α} (h : Only P result) (hPQ : ∀ r, P r → Q r) :
    Only Q result :=
  fun r hr => hPQ r (h r hr)

/-- Want of room is the work of a limit. -/
theorem calling (hP : ∀ r, r.IsLimit → P r) {room : Nat} {doing : String}
    {inside : Nat → Except Raised α} (h : ∀ left, Only P (inside left)) :
    Only P (Engine.calling room doing inside) := by
  cases room with
  | zero => exact error (hP _ (Or.inr ⟨doing, rfl⟩))
  | succ left => exact h left

theorem limited {room : Nat} {doing : String} {inside : Nat → Except Raised α}
    (h : ∀ left, Only Raised.IsLimit (inside left)) :
    Only Raised.IsLimit (Engine.calling room doing inside) :=
  calling (fun _ hr => hr) h

/-- Where there is room for the call, only what is inside counts. -/
theorem inside {room : Nat} {doing : String} {inside : Nat → Except Raised α} (hroom : 0 < room)
    (h : Only P (inside (room - 1))) : Only P (Engine.calling room doing inside) := by
  cases room with
  | zero => exact absurd hroom (Nat.lt_irrefl 0)
  | succ left => exact h

end Only

/-! ## More room -/

/-- What there is room for comes out the same with more room. -/
def Grows {α : Type} (result : Nat → Except Raised α) : Prop :=
  ∀ room more a, room ≤ more → result room = .ok a → result more = .ok a

namespace Grows

variable {α β : Type}

theorem const (result : Except Raised α) : Grows fun _ => result :=
  fun _ _ _ _ h => h

theorem map {result : Nat → Except Raised α} (h : Grows result) (f : α → β) :
    Grows fun room => (result room).map f := by
  intro room more b hmore hb
  obtain ⟨a, ha, rfl⟩ := map_ok hb
  dsimp only
  rw [h _ _ _ hmore ha]
  rfl

theorem bind {result : Nat → Except Raised α} (h : Grows result) {f : Nat → α → Except Raised β}
    (hf : ∀ a, Grows fun room => f room a) : Grows fun room => (result room).bind (f room) := by
  intro room more b hmore hb
  obtain ⟨a, ha, hb⟩ := bind_ok hb
  dsimp only
  rw [h _ _ _ hmore ha]
  exact hf a _ _ _ hmore hb

theorem calling {doing : String} {inside : Nat → Except Raised α} (h : Grows inside) :
    Grows fun room => calling room doing inside := by
  intro room more a hmore ha
  obtain ⟨left, rfl, ha⟩ := calling_ok ha
  obtain ⟨larger, rfl⟩ : ∃ larger, more = larger + 1 := ⟨more - 1, by omega⟩
  exact h _ _ _ (by omega) ha

/-- Two results with room enough are the same. -/
theorem unique {result : Nat → Except Raised α} (h : Grows result) {room other : Nat} {a b : α}
    (ha : result room = .ok a) (hb : result other = .ok b) : a = b := by
  have hmore := h _ _ _ (Nat.le_max_left room other) ha
  have hother := h _ _ _ (Nat.le_max_right room other) hb
  exact Except.ok.inj (hmore.symm.trans hother)

end Grows

/-! ## Whole numbers -/

/-- A whole number with few enough digits. -/
def Short (n : Int) : Prop := n.natAbs < 10 ^ maxDigits

/-- **A whole number has a text exactly if it is short.** -/
theorem intText_eq_ok {n : Int} {cs : List Char} :
    intText n = .ok cs ↔ Short n ∧ cs = Json.wholeText n := by
  have hlength : maxDigits < (Nat.toDigits 10 n.natAbs).length ↔ ¬ Short n := by
    rw [Short, ← Nat.length_toDigits_le_iff (by decide) (by decide), Nat.not_le]
  unfold intText
  dsimp only
  by_cases hshort : Short n
  · rw [if_neg fun hlong => hlength.mp hlong hshort, Except.ok.injEq, and_iff_right hshort]
    exact eq_comm
  · rw [if_pos (hlength.mpr hshort)]
    exact iff_of_false nofun fun h => hshort h.1

theorem only_intText (n : Int) : Only Raised.IsLimit (intText n) := by
  unfold intText
  dsimp only
  split
  · exact .error (Or.inl rfl)
  · exact .ok _

/-- Numbers with fewer than 4300 digits are short. -/
theorem short_of_lt {n : Int} {k : Nat} (hk : k ≤ maxDigits) (h : n.natAbs < 10 ^ k) : Short n :=
  Nat.lt_of_lt_of_le h (Nat.pow_le_pow_right (by decide) hk)

end ImageText.Engine
