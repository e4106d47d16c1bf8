import ImageText.Json.Printer
import ImageText.Proofs.Engine.Layout

/-!
# What is printed of a value

A string may hold any character, and its literal escapes those below `20`; a number is written with
digits and a few signs. So the compact form of a value holds no such character, and neither does its
UTF-8 form, where a longer character has no byte below `80`:

> `printable_chars`, `printable_encode`: every character, and every byte, is `20` or greater.

What is printed can therefore be handed over as one argument, whatever the strings in it hold.
-/

namespace ImageText.Json

open Engine.Datum (plain_magnitudeText plain_sign plain_toDigits)
open Text (encode encodeChar)

/-- A text without the characters below `20`. -/
def Printable (cs : List Char) : Prop := ∀ c ∈ cs, 0x20 ≤ c.toNat

theorem printable_of_all {cs : List Char} (h : cs.all (fun c => decide (0x20 ≤ c.toNat)) = true) :
    Printable cs :=
  fun c hc => of_decide_eq_true (List.all_eq_true.mp h c hc)

theorem printable_append {cs ds : List Char} (hcs : Printable cs) (hds : Printable ds) :
    Printable (cs ++ ds) :=
  List.forall_mem_append.mpr ⟨hcs, hds⟩

theorem printable_cons {c : Char} {cs : List Char} (hc : 0x20 ≤ c.toNat) (hcs : Printable cs) :
    Printable (c :: cs) :=
  List.forall_mem_cons.mpr ⟨hc, hcs⟩

theorem printable_nil : Printable [] := List.forall_mem_nil _

theorem printable_enclosed {first last : Char} {cs : List Char} (hfirst : 0x20 ≤ first.toNat)
    (h : Printable cs) (hlast : 0x20 ≤ last.toNat) : Printable (first :: (cs ++ [last])) :=
  printable_cons hfirst (printable_append h (printable_cons hlast printable_nil))

/-! ## Strings -/

/-- The four digits of a control character. -/
theorem printable_digits : ∀ n < 0x20,
    (Text.hex 4 n).all (fun c => decide (0x20 ≤ c.toNat)) = true := by
  decide

theorem printable_escapeChar (c : Char) : Printable (escapeChar c) := by
  have hslash : 0x20 ≤ '\\'.toNat := by decide
  have hshort : ∀ letter : Char, 0x20 ≤ letter.toNat → Printable ['\\', letter] :=
    fun letter h => printable_cons hslash (printable_cons h printable_nil)
  unfold escapeChar
  split
  · exact hshort '"' (by decide)
  split
  · exact hshort '\\' (by decide)
  split
  · exact hshort 'b' (by decide)
  split
  · exact hshort 'f' (by decide)
  split
  · exact hshort 'n' (by decide)
  split
  · exact hshort 'r' (by decide)
  split
  · exact hshort 't' (by decide)
  split
  next hcontrol =>
    exact printable_cons hslash
      (printable_cons (by decide) (printable_of_all (printable_digits _ hcontrol)))
  next hplain => exact printable_cons (Nat.le_of_not_lt hplain) printable_nil

theorem printable_literal (s : String) : Printable (literal s) := by
  refine printable_enclosed (by decide) ?_ (by decide)
  intro d hd
  obtain ⟨c, -, hc⟩ := List.mem_flatMap.mp hd
  exact printable_escapeChar c d hc

/-! ## Values -/

theorem printable_number (n : Number) : Printable n.chars := by
  cases n with
  | whole n =>
    refine printable_append ?_ fun c hc => (plain_toDigits _ c hc).2.2.1
    split
    · exact printable_cons (by decide) printable_nil
    · exact printable_nil
  | real x =>
    exact printable_append (fun c hc => (plain_sign _ c hc).2.2.1)
      fun c hc => (plain_magnitudeText _ _ c hc).2.2.1

mutual

/-- **No value is printed with a character below `20`.** -/
theorem printable_chars (v : Value) : Printable v.chars := by
  cases v with
  | null => exact printable_of_all rfl
  | bool b => cases b <;> exact printable_of_all rfl
  | number n => exact printable_number n
  | string s => exact printable_literal s
  | array items => exact printable_enclosed (by decide) (printable_items items) (by decide)
  | object members => exact printable_enclosed (by decide) (printable_members members) (by decide)

theorem printable_items (items : List Value) : Printable (itemChars items) := by
  match items with
  | [] => exact printable_nil
  | [v] => exact printable_chars v
  | v :: w :: rest =>
    exact printable_append (printable_chars v)
      (printable_cons (by decide) (printable_items (w :: rest)))

theorem printable_members (members : List (String × Value)) : Printable (memberChars members) := by
  match members with
  | [] => exact printable_nil
  | [(k, v)] =>
    exact printable_append (printable_literal k) (printable_cons (by decide) (printable_chars v))
  | (k, v) :: m :: rest =>
    exact printable_append (printable_literal k) (printable_cons (by decide)
      (printable_append (printable_chars v)
        (printable_cons (by decide) (printable_members (m :: rest)))))

end

/-! ## Bytes -/

theorem printable_encodeChar {c : Char} (h : 0x20 ≤ c.toNat) {b : UInt8} (hb : b ∈ encodeChar c) :
    0x20 ≤ b := by
  by_cases hquote : c = '"'
  · subst hquote
    cases List.mem_singleton.mp hb
    decide
  · by_cases hslash : c = '\\'
    · subst hslash
      cases List.mem_singleton.mp hb
      decide
    · exact UInt8.not_lt.mp (encodeChar_plain ⟨hquote, hslash, h⟩ b hb).2.2

theorem printable_encode {cs : List Char} (h : Printable cs) : ∀ b ∈ encode cs, 0x20 ≤ b := by
  intro b hb
  obtain ⟨c, hc, hmem⟩ := List.mem_flatMap.mp hb
  exact printable_encodeChar (h c hc) hmem

end ImageText.Json
