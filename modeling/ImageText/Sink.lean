import ImageText.Outlet

/-!
# Devices of limited means

A sink keeps what is written to it and can be short of everything that a device may be short of:
room, the size of a single write, attention, and the will to flush. `Sink.device` makes a device of
it.
-/

namespace ImageText

/-- A device that keeps what it takes. -/
structure Sink where
  /-- The bytes taken so far, last first. -/
  taken : Bytes := []
  /-- How many bytes may be taken in all. -/
  capacity : Option Nat := none
  /-- The failure once there is no room; without one a write then takes nothing. -/
  full : Option SystemError := none
  /-- How many bytes one write may take. -/
  chunk : Option Nat := none
  /-- How many writes are yet to be interrupted. -/
  interrupts : Nat := 0
  /-- The failure of every flush. -/
  flushError : Option SystemError := none
  /-- How many flushes were asked for. -/
  flushes : Nat := 0
  deriving Repr

namespace Sink

/-- The bytes taken so far. -/
def content (s : Sink) : Bytes := s.taken.reverse

/-- The bytes of an offer that one write may take. -/
def offer (s : Sink) (bytes : Bytes) : Bytes := s.chunk.elim bytes bytes.take

/-- The room that is left, if there is a limit. -/
def room? (s : Sink) : Option Nat := s.capacity.map (· - s.taken.length)

/-- Take some bytes. -/
def take (s : Sink) (bytes : Bytes) : Reply × Sink :=
  (.took bytes.length, { s with taken := bytes.reverse ++ s.taken })

/-- One write: interruptions come first, then the size of a write, then the room. -/
def write (s : Sink) (bytes : Bytes) : Reply × Sink :=
  match s.interrupts with
  | n + 1 => (.interrupted, { s with interrupts := n })
  | 0 =>
    match s.room? with
    | none => s.take (s.offer bytes)
    | some 0 => ((s.full.elim (.took 0) .failed), s)
    | some room => s.take ((s.offer bytes).take room)

/-- One flush. -/
def flush (s : Sink) : Except SystemError Unit × Sink :=
  (s.flushError.elim (.ok ()) .error, { s with flushes := s.flushes + 1 })

theorem write_interrupted (s : Sink) (bytes : Bytes) (h : (s.write bytes).1 = .interrupted) :
    (s.write bytes).2.interrupts < s.interrupts := by
  unfold write at h ⊢
  split <;> rename_i heq
  · simp [heq]
  · rw [heq] at h
    simp only at h
    split at h
    · simp [take] at h
    · cases hf : s.full <;> simp [hf] at h
    · simp [take] at h

/-- A sink as a device; the interruptions that are left bound those in a row. -/
def device : Device Sink where
  write := write
  flush := flush
  patience := interrupts
  patience_lt := write_interrupted

end Sink

end ImageText
