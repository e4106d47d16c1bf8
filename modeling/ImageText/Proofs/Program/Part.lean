import ImageText.Proofs.Bridge
import ImageText.Proofs.Outlet

/-!
# Work done in one part of a state

The program works on one state: two devices, the system that it runs on, and a clock. Most of what it
does touches one of these parts alone. `Part.within` is an action on a part as an action on the whole.
It goes along with doing things one after the other, so what the bridge does through a system that is a
part of something larger it does in that part:

> `probe_within`, `recognize_within`
-/

namespace ImageText

namespace Part

variable {ω σ γ δ : Type} (part : Part ω σ)

/-- An action on a part. -/
def within (act : StateM σ γ) : StateM ω γ :=
  fun w => let (x, s) := act (part.get w); (x, part.put w s)

theorem within_pure (x : γ) : part.within (pure x) = pure x :=
  funext fun w => congrArg (Prod.mk x) (part.put_get w)

theorem within_bind (x : StateM σ γ) (f : γ → StateM σ δ) :
    part.within (x >>= f) = part.within x >>= fun a => part.within (f a) := by
  funext w
  show _ = part.within (f (x (part.get w)).1) (part.put w (x (part.get w)).2)
  simp only [within, part.get_put, part.put_put]
  rfl

/-- The first of two parts. -/
def first (σ κ : Type) : Part (σ × κ) σ where
  get := Prod.fst
  put s x := (x, s.2)
  get_put _ _ := rfl
  put_put _ _ _ := rfl
  put_get _ := rfl

end Part

variable {ω σ : Type}

/-- A system that is a part of a state. -/
def Host.within (host : Host (StateM σ)) (part : Part ω σ) : Host (StateM ω) where
  isFile path := part.within (host.isFile path)
  launch command := part.within (host.launch command)

namespace Bridge

section Within

variable (host : Host (StateM σ)) (part : Part ω σ) (note : Record → StateM σ Unit) (b : Bridge)

theorem execute_within (c : Command) :
    execute (host.within part) (fun r => part.within (note r)) c
      = part.within (execute host note c) := by
  rw [execute, execute, part.within_bind]
  refine congrArg (part.within (host.launch c) >>= ·) (funext fun reply => ?_)
  cases reply with
  | error error => exact (part.within_pure _).symm
  | ok finished =>
    dsimp only
    cases stderrRecord? finished with
    | none => exact (part.within_pure _).symm
    | some record =>
      dsimp only
      rw [part.within_bind]
      exact congrArg (part.within (note record) >>= ·) (funext fun _ => (part.within_pure _).symm)

theorem probe_within :
    b.probe (host.within part) (fun r => part.within (note r)) = part.within (b.probe host note) := by
  rw [probe, probe, part.within_bind, execute_within]
  refine congrArg (part.within (note _) >>= ·) (funext fun _ => ?_)
  rw [part.within_bind]
  refine congrArg (part.within (execute host note _) >>= ·) (funext fun out => ?_)
  cases out <;> exact (part.within_pure _).symm

theorem recognize_within (image : Path) (o : Options) :
    b.recognize (host.within part) (fun r => part.within (note r)) image o
      = part.within (b.recognize host note image o) := by
  rw [recognize, recognize, part.within_bind]
  refine congrArg (part.within (host.isFile image) >>= ·) (funext fun found => ?_)
  cases found with
  | false => exact (part.within_pure _).symm
  | true =>
    simp only [if_true]
    rw [part.within_bind, execute_within]
    refine congrArg (part.within (note _) >>= ·) (funext fun _ => ?_)
    rw [part.within_bind]
    refine congrArg (part.within (execute host note _) >>= ·) (funext fun out => ?_)
    cases out with
    | error failure => exact (part.within_pure _).symm
    | ok out =>
      dsimp only
      rw [part.within_bind]
      exact congrArg (part.within (note _) >>= ·) (funext fun _ => (part.within_pure _).symm)

end Within

end Bridge

end ImageText
