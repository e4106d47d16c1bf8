import ImageText.SystemError
import ImageText.Text.Bytes

/-!
# Writing all of something

A device takes as much of the offered bytes as it likes, or it is interrupted, or it fails. An
`Outlet` is what a writer wants instead: everything is written, or the write has failed.
`Device.writeAll` makes one from the other. An interrupted write is tried again, and a write that
takes nothing at all is a failure; since every device runs out of interruptions, and every other
answer either takes a byte or ends the loop, it comes to an end.
-/

namespace ImageText

/-- What a device does with the bytes it is offered. -/
inductive Reply where
  /-- It took the first `count` of them. -/
  | took (count : Nat)
  /-- It took none and may be asked again. -/
  | interrupted
  /-- It took none and will not. -/
  | failed (error : SystemError)
  deriving DecidableEq, Repr

/-- A device with state `σ` to which bytes are written. -/
structure Device (σ : Type) where
  write : σ → Bytes → Reply × σ
  flush : σ → Except SystemError Unit × σ
  /-- A bound on the interruptions in a row. -/
  patience : σ → Nat
  patience_lt : ∀ s bytes, (write s bytes).1 = .interrupted →
    patience (write s bytes).2 < patience s

namespace Device

variable {σ : Type}

/-- Offer the bytes until all of them are taken. -/
def writeAll (device : Device σ) (s : σ) (bytes : Bytes) : Except SystemError Unit × σ :=
  if bytes = [] then (.ok (), s)
  else match _h : device.write s bytes with
    | (.failed error, s) => (.error error, s)
    | (.interrupted, s) => device.writeAll s bytes
    | (.took count, s) =>
      if count = 0 then (.error .nothingWritten, s)
      else device.writeAll s (bytes.drop count)
termination_by (bytes.length, device.patience s)
decreasing_by
  · have := device.patience_lt _ bytes (by rw [_h])
    rw [_h] at this
    exact Prod.Lex.right _ this
  · have : bytes.length ≠ 0 := by simpa using ‹¬bytes = []›
    apply Prod.Lex.left
    simp only [List.length_drop]
    omega

end Device

/-- A place to which bytes are written, all of them or with a failure. -/
structure Outlet (m : Type → Type) where
  write : Bytes → m (Except SystemError Unit)
  flush : m (Except SystemError Unit)

namespace Outlet

variable {m : Type → Type} [Monad m]

/-- The outlet of a device whose state is part of a larger one. -/
def ofDevice {σ : Type} (device : Device σ) (within : ∀ {α : Type}, (σ → α × σ) → m α) :
    Outlet m where
  write bytes := within fun s => device.writeAll s bytes
  flush := within device.flush

/-- Write several byte strings, up to the first failure. -/
def writePieces (outlet : Outlet m) : List Bytes → m (Except SystemError Unit)
  | [] => pure (.ok ())
  | piece :: rest => do
    match ← outlet.write piece with
    | .error error => return .error error
    | .ok () => outlet.writePieces rest

end Outlet

end ImageText
