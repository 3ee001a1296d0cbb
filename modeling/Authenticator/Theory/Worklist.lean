/-
# Theory.Worklist -- a queue of tasks, each a list of fallible actions

A task is expanded into a list of actions, which run in order.  An action may add a
follow-up task at the back of the queue; an action that fails ends the whole run, and
neither the rest of its list nor the rest of the queue is done.  The number of tasks
is bounded.

`Keeps` is the invariant rule: `J` between tasks, `K` inside the list of one, and `E`
for the state a failure leaves; with a weight of the queue that every task lowers, the
queue is empty at the end (`drain_settles`) and the bound is never met (`drain_longer`).  The
failures of a run may be restricted to those that meet a condition on the state and on the
actions abandoned (`DrainsWithin`).
-/
import Authenticator.Theory.Prog

namespace Authenticator.Theory

set_option autoImplicit false

universe u v w x

structure Worklist (ε : Type u) (σ : Type v) (τ : Type w) (δ : Type x) where
  expand : τ → σ → List δ × σ
  act : τ → δ → Prog ε σ (Option τ)

namespace Worklist

variable {ε : Type u} {σ : Type v} {τ : Type w} {δ : Type x} (W : Worklist ε σ τ δ)

/-- Run the actions of one task; the result is the queue with its follow-ups. -/
def actAll (t : τ) : List δ → List τ → Prog ε σ (List τ)
  | [], queue => pure queue
  | d :: rest, queue => do
      let follow ← W.act t d
      actAll t rest (queue ++ follow.toList)

/-- Run the queue, first in first out, for at most `steps` tasks. -/
def drain : Nat → List τ → Prog ε σ Unit
  | 0, _ => fun s => (.ok (), s)
  | _ + 1, [] => fun s => (.ok (), s)
  | steps + 1, t :: queue => fun s =>
      match W.actAll t (W.expand t s).1 queue (W.expand t s).2 with
      | (.ok queue, s') => drain steps queue s'
      | (.error e, s') => (.error e, s')

section Failures

variable (ok : σ → δ → List δ → Prop)

/-- If an action of the list fails, the state before it and the actions abandoned meet
the condition. -/
def ActsWithin (t : τ) : List δ → σ → Prop
  | [], _ => True
  | d :: rest, s =>
      match W.act t d s with
      | (.ok _, s') => ActsWithin t rest s'
      | (.error _, _) => ok s d rest

/-- If the run fails, it does so where the condition holds. -/
def DrainsWithin : Nat → List τ → σ → Prop
  | 0, _, _ => True
  | _ + 1, [], _ => True
  | steps + 1, t :: queue, s =>
      W.ActsWithin ok t (W.expand t s).1 (W.expand t s).2 ∧
        match W.actAll t (W.expand t s).1 queue (W.expand t s).2 with
        | (.ok queue, s') => DrainsWithin steps queue s'
        | (.error _, _) => True

section Decide

variable [∀ s d rest, Decidable (ok s d rest)]

instance decidableActsWithin (t : τ) :
    (actions : List δ) → (s : σ) → Decidable (W.ActsWithin ok t actions s)
  | [], _ => isTrue trivial
  | d :: rest, s =>
      match acted : W.act t d s with
      | (.ok _, s') =>
          have := decidableActsWithin t rest s'
          decidable_of_iff (W.ActsWithin ok t rest s') (by simp only [ActsWithin, acted])
      | (.error _, _) => decidable_of_iff (ok s d rest) (by simp only [ActsWithin, acted])

instance decidableDrainsWithin :
    (steps : Nat) → (queue : List τ) → (s : σ) → Decidable (W.DrainsWithin ok steps queue s)
  | 0, _, _ => isTrue trivial
  | _ + 1, [], _ => isTrue trivial
  | steps + 1, t :: queue, s =>
      match ran : W.actAll t (W.expand t s).1 queue (W.expand t s).2 with
      | (.ok later, s') =>
          have := decidableDrainsWithin steps later s'
          decidable_of_iff (W.ActsWithin ok t (W.expand t s).1 (W.expand t s).2 ∧
            W.DrainsWithin ok steps later s') (by simp only [DrainsWithin, ran])
      | (.error _, _) =>
          decidable_of_iff (W.ActsWithin ok t (W.expand t s).1 (W.expand t s).2)
            (by simp only [DrainsWithin, ran, and_true])

end Decide

theorem actsWithin_of_forall (all : ∀ s d rest, ok s d rest) (t : τ) (actions : List δ) (s : σ) :
    W.ActsWithin ok t actions s := by
  induction actions generalizing s with
  | nil => trivial
  | cons d rest ih =>
      unfold ActsWithin
      split
      · exact ih _
      · exact all s d rest

theorem drainsWithin_of_forall (all : ∀ s d rest, ok s d rest) (steps : Nat) (queue : List τ)
    (s : σ) : W.DrainsWithin ok steps queue s := by
  induction steps generalizing queue s with
  | zero => trivial
  | succ steps ih =>
      cases queue with
      | nil => trivial
      | cons t queue =>
          refine ⟨W.actsWithin_of_forall ok all t _ _, ?_⟩
          split
          · exact ih _ _
          · trivial

end Failures

/-- What an invariant owes the four moments of a run. -/
structure Keeps (ok : σ → δ → List δ → Prop) (J : List τ → σ → Prop)
    (K : τ → List δ → List τ → σ → Prop) (E : σ → Prop) : Prop where
  enter : ∀ t queue s, J (t :: queue) s → K t (W.expand t s).1 queue (W.expand t s).2
  act : ∀ t d rest queue s follow s', K t (d :: rest) queue s →
    W.act t d s = (.ok follow, s') → K t rest (queue ++ follow.toList) s'
  abandon : ∀ t d rest queue s e s', K t (d :: rest) queue s → W.act t d s = (.error e, s') →
    ok s d rest → E s'
  leave : ∀ t queue s, K t [] queue s → J queue s

namespace Keeps

variable {W} {ok : σ → δ → List δ → Prop} {J : List τ → σ → Prop}
variable {K : τ → List δ → List τ → σ → Prop} {E : σ → Prop}

theorem actAll (keeps : W.Keeps ok J K E) (t : τ) (actions : List δ) (queue : List τ) (s : σ)
    (start : K t actions queue s) (within : W.ActsWithin ok t actions s) :
    Prog.Ends (K t []) E (W.actAll t actions queue s) := by
  induction actions generalizing queue s with
  | nil => exact start
  | cons d rest ih =>
      unfold ActsWithin at within
      cases acted : W.act t d s with
      | mk outcome s' =>
          rw [acted] at within
          cases outcome with
          | ok follow =>
              have later := ih _ _ (keeps.act t d rest queue s follow s' start acted) within
              have same : W.actAll t (d :: rest) queue s = W.actAll t rest (queue ++ follow.toList) s' :=
                Prog.bind_ok acted _
              rw [same]
              exact later
          | error e =>
              have same : W.actAll t (d :: rest) queue s = (.error e, s') := Prog.bind_error acted _
              rw [same]
              exact keeps.abandon t d rest queue s e s' start acted within

/-- **The run rule.** -/
theorem drain (keeps : W.Keeps ok J K E) (steps : Nat) (queue : List τ) (s : σ) (start : J queue s)
    (within : W.DrainsWithin ok steps queue s) :
    Prog.Ends (fun _ s' => ∃ queue, J queue s') E (W.drain steps queue s) := by
  induction steps generalizing queue s with
  | zero => exact ⟨queue, start⟩
  | succ steps ih =>
      cases queue with
      | nil => exact ⟨[], start⟩
      | cons t queue =>
          obtain ⟨here, later⟩ := within
          have task := keeps.actAll t _ queue _ (keeps.enter t queue s start) here
          unfold Worklist.drain
          cases ran : W.actAll t (W.expand t s).1 queue (W.expand t s).2 with
          | mk outcome s' =>
              rw [ran] at task later
              cases outcome with
              | ok queue => exact ih queue s' (keeps.leave t queue s' task) later
              | error e => exact task

/-- **The run rule for runs that end with an empty queue**: a task leaves a queue that weighs
less than itself, and there are as many steps as the queue weighs. -/
theorem drain_settles (keeps : W.Keeps ok J K E) {weight : List τ → Nat}
    (heavy : ∀ t rest, 0 < weight (t :: rest))
    (falls : ∀ t rest queue s, K t [] queue s → weight queue < weight (t :: rest))
    (steps : Nat) (queue : List τ) (s : σ) (start : J queue s) (enough : weight queue ≤ steps)
    (within : W.DrainsWithin ok steps queue s) :
    Prog.Ends (fun _ s' => J [] s') E (W.drain steps queue s) := by
  induction steps generalizing queue s with
  | zero =>
      cases queue with
      | nil => exact start
      | cons t queue =>
          have some := heavy t queue
          omega
  | succ steps ih =>
      cases queue with
      | nil => exact start
      | cons t queue =>
          obtain ⟨here, later⟩ := within
          have task := keeps.actAll t _ queue _ (keeps.enter t queue s start) here
          unfold Worklist.drain
          cases ran : W.actAll t (W.expand t s).1 queue (W.expand t s).2 with
          | mk outcome s' =>
              rw [ran] at task later
              cases outcome with
              | ok left =>
                  have lighter := falls t queue left s' task
                  exact ih left s' (keeps.leave t left s' task) (by omega) later
              | error e => exact task

/-- **The bound on the number of tasks does not matter** as soon as the queue weighs no more:
a longer run does the same. -/
theorem drain_longer {weight : List τ → Nat} (keeps : W.Keeps (fun _ _ _ => True) J K E)
    (heavy : ∀ t rest, 0 < weight (t :: rest))
    (falls : ∀ t rest queue s, K t [] queue s → weight queue < weight (t :: rest))
    (steps more : Nat) (queue : List τ) (s : σ) (start : J queue s) (enough : weight queue ≤ steps)
    (longer : steps ≤ more) : W.drain more queue s = W.drain steps queue s := by
  induction steps generalizing more queue s with
  | zero =>
      cases queue with
      | nil => cases more <;> rfl
      | cons t queue =>
          have some := heavy t queue
          omega
  | succ steps ih =>
      obtain ⟨left, rfl⟩ : ∃ left, more = left + 1 := ⟨more - 1, by omega⟩
      cases queue with
      | nil => rfl
      | cons t queue =>
          have task := keeps.actAll t _ queue _ (keeps.enter t queue s start)
            (W.actsWithin_of_forall _ (fun _ _ _ => trivial) t _ _)
          unfold Worklist.drain
          cases ran : W.actAll t (W.expand t s).1 queue (W.expand t s).2 with
          | mk outcome s' =>
              rw [ran] at task
              cases outcome with
              | ok queue' =>
                  have lighter := falls t queue queue' s' task
                  exact ih left queue' s' (keeps.leave t queue' s' task) (by omega) (by omega)
              | error e => rfl

end Keeps

end Worklist

end Authenticator.Theory
