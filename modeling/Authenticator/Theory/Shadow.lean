/-
# Theory.Shadow -- one program is another, seen through a view of its state

`Shadows view m n` says that `n` does to the view of a state what `m` does to the state: the
same outcome, and the view of the state `m` leaves.  It is a functional refinement, and every way
to build programs keeps it (`Shadows.bind`, `Shadows.mapError`).

`Worklist.Shadows` lifts it to a queue of tasks: if what a task expands to is not told apart by
the view, and every action has a shadow, so is a whole run (`Worklist.Shadows.drain`).
-/
import Authenticator.Theory.Worklist

namespace Authenticator.Theory

set_option autoImplicit false

universe u v w x

namespace Prog

section Shadows

variable {ε ε' : Type u} {σ τ : Type v} {α β : Type w} {view : σ → τ}

/-- `n` is `m`, seen through the view. -/
def Shadows (view : σ → τ) (m : Prog ε σ α) (n : Prog ε τ α) : Prop :=
  ∀ s, n (view s) = ((m s).1, view (m s).2)

variable {m : Prog ε σ α} {n : Prog ε τ α}

theorem Shadows.ran (shadows : Shadows view m n) {s s' : σ} {r : Except ε α} (ran : m s = (r, s')) :
    n (view s) = (r, view s') := by
  rw [shadows s, ran]

theorem shadows_pure (a : α) : Shadows view (pure a : Prog ε σ α) (pure a) := fun _ => rfl

theorem shadows_ofExcept (r : Except ε α) : Shadows view (ofExcept r) (ofExcept r) := fun _ => rfl

theorem shadows_modify {f : σ → σ} {g : τ → τ} (same : ∀ s, g (view s) = view (f s)) :
    Shadows view (modify f : Prog ε σ Unit) (modify g) := fun s => by
  simp only [modify, same s]

theorem Shadows.bind {f : α → Prog ε σ β} {g : α → Prog ε τ β} (first : Shadows view m n)
    (later : ∀ a, Shadows view (f a) (g a)) : Shadows view (m >>= f) (n >>= g) := by
  intro s
  rcases ran : m s with ⟨outcome, t⟩
  cases outcome with
  | ok a =>
      rw [bind_ok ran, bind_ok (first.ran ran)]
      exact later a t
  | error e => rw [bind_error ran, bind_error (first.ran ran)]

/-- What is read of the state is read through the view. -/
theorem shadows_get_bind {σ τ β : Type v} {view : σ → τ} {f : σ → Prog ε σ β} {g : τ → Prog ε τ β}
    (later : ∀ s, Shadows view (f s) (g (view s))) : Shadows view (get >>= f) (get >>= g) :=
  fun s => later s s

theorem Shadows.mapError (shadows : Shadows view m n) (f : ε → ε') :
    Shadows view (m.mapError f) (n.mapError f) := by
  intro s
  simp only [Prog.mapError, shadows s]

end Shadows

end Prog

namespace Worklist

variable {ε : Type u} {σ σ' : Type v} {τ : Type w} {δ : Type x} {view : σ → σ'}
variable {V : Worklist ε σ τ δ} {W : Worklist ε σ' τ δ}

/-- The queue `W` is the queue `V`, seen through the view. -/
structure Shadows (view : σ → σ') (V : Worklist ε σ τ δ) (W : Worklist ε σ' τ δ) : Prop where
  expand : ∀ t s, W.expand t (view s) = ((V.expand t s).1, view (V.expand t s).2)
  act : ∀ t d, Prog.Shadows view (V.act t d) (W.act t d)

namespace Shadows

variable (shadows : Shadows view V W)

include shadows

theorem actAll (t : τ) (actions : List δ) (queue : List τ) :
    Prog.Shadows view (V.actAll t actions queue) (W.actAll t actions queue) := by
  induction actions generalizing queue with
  | nil => exact Prog.shadows_pure _
  | cons d rest ih => exact (shadows.act t d).bind fun follow => ih _

/-- **A run of the queue has a shadow**, whatever its bound. -/
theorem drain (steps : Nat) (queue : List τ) :
    Prog.Shadows view (V.drain steps queue) (W.drain steps queue) := by
  induction steps generalizing queue with
  | zero => exact fun _ => rfl
  | succ steps ih =>
      cases queue with
      | nil => exact fun _ => rfl
      | cons t queue =>
          intro s
          have all := shadows.actAll t (V.expand t s).1 queue (V.expand t s).2
          unfold Worklist.drain
          rw [shadows.expand t s, all]
          rcases V.actAll t (V.expand t s).1 queue (V.expand t s).2 with ⟨outcome, s'⟩
          cases outcome with
          | ok later => exact ih later s'
          | error e => rfl

end Shadows

/-- A run that ends well met no failure. -/
theorem drainsWithin_of_ok (W : Worklist ε σ τ δ) (ok : σ → δ → List δ → Prop) (steps : Nat)
    (queue : List τ) (s : σ) (ends : (W.drain steps queue s).1 = .ok ()) :
    W.DrainsWithin ok steps queue s := by
  have acts : ∀ (t : τ) (actions : List δ) (queue : List τ) (s : σ) (left : List τ),
      (W.actAll t actions queue s).1 = .ok left → W.ActsWithin ok t actions s := by
    intro t actions
    induction actions with
    | nil => exact fun _ _ _ _ => trivial
    | cons d rest ih =>
        intro queue s left ran
        unfold ActsWithin
        rcases acted : W.act t d s with ⟨outcome, s'⟩
        cases outcome with
        | ok follow =>
            have goes : W.actAll t (d :: rest) queue s = W.actAll t rest (queue ++ follow.toList) s' :=
              Prog.bind_ok acted _
            rw [goes] at ran
            exact ih _ s' left ran
        | error e =>
            have failed : W.actAll t (d :: rest) queue s = (.error e, s') := Prog.bind_error acted _
            rw [failed] at ran
            cases ran
  induction steps generalizing queue s with
  | zero => trivial
  | succ steps ih =>
      cases queue with
      | nil => trivial
      | cons t queue =>
          unfold drain at ends
          unfold DrainsWithin
          rcases ran : W.actAll t (W.expand t s).1 queue (W.expand t s).2 with ⟨outcome, s'⟩
          rw [ran] at ends
          cases outcome with
          | ok left =>
              exact ⟨acts t _ queue _ left (congrArg Prod.fst ran), ih left s' ends⟩
          | error e => cases ends

end Worklist

end Authenticator.Theory
