/-
# Theory.Budget -- what a queue of tasks may cost

A meter reads the state.  Every task comes with a price and every action with a toll; a task
pays with its price for the tolls of the actions it expands to, and an action pays with its toll
for what the meter goes up and for the price of the task that follows it.  Then a whole run costs
no more than the tasks it starts with (`Budgeted.drain`), whatever fails and wherever.
-/
import Mathlib.Algebra.GroupWithZero.Nat
import Authenticator.Theory.Worklist

namespace Authenticator.Theory

set_option autoImplicit false

universe u v w x

namespace Worklist

variable {ε : Type u} {σ : Type v} {τ : Type w} {δ : Type x}

/-- Prices pay for tolls, and tolls for the meter. -/
structure Budgeted (W : Worklist ε σ τ δ) (meter : σ → Nat) (price : τ → Nat) (toll : δ → Nat) :
    Prop where
  expand : ∀ t s, meter (W.expand t s).2 = meter s ∧ ((W.expand t s).1.map toll).sum ≤ price t
  act : ∀ t d s follow s', W.act t d s = (.ok follow, s') →
    meter s' + (follow.toList.map price).sum ≤ meter s + toll d
  fail : ∀ t d s e s', W.act t d s = (.error e, s') → meter s' ≤ meter s + toll d

variable {W : Worklist ε σ τ δ} {meter : σ → Nat} {price : τ → Nat} {toll : δ → Nat}

/-- What is left to pay is an invariant. -/
theorem Budgeted.keeps (budgeted : W.Budgeted meter price toll) (purse : Nat) :
    W.Keeps (fun _ _ _ => True)
      (fun queue s => meter s + (queue.map price).sum ≤ purse)
      (fun _ rest queue s => meter s + (rest.map toll).sum + (queue.map price).sum ≤ purse)
      (fun s => meter s ≤ purse) := by
  refine ⟨?_, ?_, ?_, ?_⟩
  · intro t queue s solvent
    obtain ⟨same, pays⟩ := budgeted.expand t s
    rw [List.map_cons, List.sum_cons] at solvent
    omega
  · intro t d rest queue s follow s' solvent acted
    have paid := budgeted.act t d s follow s' acted
    rw [List.map_cons, List.sum_cons] at solvent
    rw [List.map_append, List.sum_append]
    omega
  · intro t d rest queue s e s' solvent acted _
    have paid := budgeted.fail t d s e s' acted
    rw [List.map_cons, List.sum_cons] at solvent
    omega
  · intro t queue s solvent
    simpa using solvent

/-- **A run costs no more than its tasks.** -/
theorem Budgeted.drain (budgeted : W.Budgeted meter price toll) (steps : Nat) (queue : List τ)
    (s : σ) : meter (W.drain steps queue s).2 ≤ meter s + (queue.map price).sum := by
  have ended := (budgeted.keeps _).drain steps queue s (Nat.le_refl _)
    (W.drainsWithin_of_forall _ (fun _ _ _ => trivial) steps queue s)
  refine ended.state (fun _ s' left => ?_) fun _ solvent => solvent
  obtain ⟨queue', solvent⟩ := left
  omega

end Worklist

end Authenticator.Theory
