/-
# Theory.Prog -- fallible programs that keep their state when they fail

`Prog ε σ α` is a function from a state to an outcome and a state.  Unlike a state
transformer over `Except`, an error does not undo what was done before it: the
state that comes back is the one the program had reached.  That is what a caller
sees of a method that mutates, returns early and leaves its receiver behind.

A `Checks` program tests a condition and changes nothing; checks compose.  `Ends` is
a postcondition with one part for the value and one for the state an error leaves.
-/
import Mathlib.Logic.Basic

namespace Authenticator.Theory

set_option autoImplicit false

universe u v w

def Prog (ε : Type u) (σ : Type v) (α : Type w) : Type (max u v w) := σ → Except ε α × σ

namespace Prog

instance (ε : Type u) (σ : Type v) : Monad (Prog ε σ) where
  pure a := fun s => (.ok a, s)
  bind m f := fun s =>
    match m s with
    | (.ok a, s') => f a s'
    | (.error e, s') => (.error e, s')

section Operations

variable {ε ε' : Type u} {σ τ : Type v} {α β : Type w}

def fail (e : ε) : Prog ε σ α := fun s => (.error e, s)

def get : Prog ε σ σ := fun s => (.ok s, s)

def modify (f : σ → σ) : Prog ε σ Unit := fun s => (.ok (), f s)

def ofExcept (r : Except ε α) : Prog ε σ α := fun s => (r, s)

/-- `map_err`. -/
def mapError (f : ε → ε') (m : Prog ε σ α) : Prog ε' σ α := fun s => ((m s).1.mapError f, (m s).2)

/-- Run a program on a part of the state. -/
def zoom (view : τ → σ) (put : σ → τ → τ) (m : Prog ε σ α) : Prog ε τ α := fun t =>
  ((m (view t)).1, put (m (view t)).2 t)

/-- Run a program so many times and keep what each run returned. -/
def times (m : Prog ε σ α) : Nat → Prog ε σ (List α)
  | 0 => pure []
  | n + 1 => do
      let first ← m
      let later ← m.times n
      return first :: later

end Operations

section Evaluation

variable {ε ε' : Type u} {σ : Type v} {α β : Type w}

theorem bind_apply (m : Prog ε σ α) (f : α → Prog ε σ β) (s : σ) :
    (m >>= f) s =
      match m s with
      | (.ok a, s') => f a s'
      | (.error e, s') => (.error e, s') := rfl

theorem bind_ok {m : Prog ε σ α} {a : α} {s s' : σ} (ran : m s = (.ok a, s'))
    (f : α → Prog ε σ β) : (m >>= f) s = f a s' := by
  rw [bind_apply, ran]

theorem bind_error {m : Prog ε σ α} {e : ε} {s s' : σ} (ran : m s = (.error e, s'))
    (f : α → Prog ε σ β) : (m >>= f) s = (.error e, s') := by
  rw [bind_apply, ran]

theorem bind_assoc {γ : Type w} (m : Prog ε σ α) (f : α → Prog ε σ β) (g : β → Prog ε σ γ) :
    m >>= f >>= g = m >>= fun a => f a >>= g := by
  funext s
  rcases ran : m s with ⟨outcome, t⟩
  cases outcome with
  | ok a => rw [bind_ok ran, bind_apply, bind_ok ran, bind_apply]
  | error e => rw [bind_error ran, bind_apply, bind_error ran]

theorem bind_eq_ok_iff {m : Prog ε σ α} {f : α → Prog ε σ β} {b : β} {s s' : σ} :
    (m >>= f) s = (.ok b, s') ↔ ∃ a t, m s = (.ok a, t) ∧ f a t = (.ok b, s') := by
  rw [bind_apply]
  rcases m s with ⟨outcome, t⟩
  cases outcome with
  | error e => simp
  | ok a =>
      constructor
      · intro ran
        exact ⟨a, t, rfl, ran⟩
      · rintro ⟨a, t, ⟨⟩, ran⟩
        exact ran

theorem mapError_ok {m : Prog ε σ α} {a : α} {s s' : σ} (f : ε → ε') (ran : m s = (.ok a, s')) :
    m.mapError f s = (.ok a, s') := by
  rw [mapError, ran]
  rfl

theorem mapError_error {m : Prog ε σ α} {e : ε} {s s' : σ} (f : ε → ε')
    (ran : m s = (.error e, s')) : m.mapError f s = (.error (f e), s') := by
  rw [mapError, ran]
  rfl

theorem mapError_eq_ok_iff {m : Prog ε σ α} {a : α} {f : ε → ε'} {s s' : σ} :
    m.mapError f s = (.ok a, s') ↔ m s = (.ok a, s') := by
  constructor
  · intro ran
    rcases known : m s with ⟨outcome, t⟩
    cases outcome with
    | ok b =>
        rw [mapError_ok f known] at ran
        cases ran
        rfl
    | error e =>
        rw [mapError_error f known] at ran
        cases ran
  · exact mapError_ok f

/-- Steps that never fail make a run that does not. -/
theorem forM_ok {step : β → Prog ε σ PUnit} {items : List β} {s : σ}
    (one : ∀ item ∈ items, ∀ s, ∃ s', step item s = (.ok ⟨⟩, s')) :
    ∃ s', items.forM step s = (.ok ⟨⟩, s') := by
  induction items generalizing s with
  | nil => exact ⟨s, rfl⟩
  | cons item items ih =>
      obtain ⟨t, first⟩ := one item List.mem_cons_self s
      obtain ⟨s', later⟩ := ih (s := t) fun i member => one i (List.mem_cons_of_mem _ member)
      exact ⟨s', (bind_ok first _).trans later⟩

/-- The outcome of a program meets `post` on success and `abort` on failure. -/
def Ends (post : α → σ → Prop) (abort : σ → Prop) : Except ε α × σ → Prop
  | (.ok a, s) => post a s
  | (.error _, s) => abort s

/-- Two programs in a row: either failure will do. -/
theorem Ends.bind {m : Prog ε σ α} {f : α → Prog ε σ β} {s : σ} {mid : α → σ → Prop}
    {post : β → σ → Prop} {abort : σ → Prop} (first : Ends mid abort (m s))
    (later : ∀ a s, mid a s → Ends post abort (f a s)) : Ends post abort ((m >>= f) s) := by
  rw [bind_apply]
  cases ran : m s with
  | mk outcome t =>
      rw [ran] at first
      cases outcome with
      | ok a => exact later a t first
      | error e => exact first

theorem Ends.mapError {m : Prog ε σ α} {s : σ} {post : α → σ → Prop} {abort : σ → Prop}
    (ended : Ends post abort (m s)) (f : ε → ε') : Ends post abort (m.mapError f s) := by
  cases ran : m s with
  | mk outcome t =>
      rw [ran] at ended
      cases outcome with
      | ok a =>
          rw [mapError_ok f ran]
          exact ended
      | error e =>
          rw [mapError_error f ran]
          exact ended

/-- What either outcome leads to holds of the state. -/
theorem Ends.state {post : α → σ → Prop} {abort P : σ → Prop} {r : Except ε α × σ}
    (ended : Ends post abort r) (one : ∀ a s, post a s → P s) (other : ∀ s, abort s → P s) :
    P r.2 := by
  obtain ⟨outcome, s⟩ := r
  cases outcome with
  | ok a => exact one a s ended
  | error e => exact other s ended

/-- What holds of the state holds of either outcome. -/
theorem ends_state {P : σ → Prop} : {r : Except ε α × σ} → P r.2 → Ends (fun _ => P) P r
  | (.ok _, _), held => held
  | (.error _, _), held => held

/-- **The rule for a run of steps**: what a step that succeeds keeps holds at the end, and a
step that fails leaves what it leaves. -/
theorem ends_forM {step : β → Prog ε σ PUnit} {I E : σ → Prop}
    (one : ∀ item s, I s → Ends (fun _ s' => I s') E (step item s)) (items : List β) {s : σ}
    (start : I s) : Ends (fun _ s' => I s') E (items.forM step s) := by
  induction items generalizing s with
  | nil => exact start
  | cons item items ih => exact (one item s start).bind fun _ _ held => ih held

/-- At `s`, the program succeeds exactly when `P` holds, and changes nothing. -/
def Checks (m : Prog ε σ Unit) (s : σ) (P : Prop) : Prop :=
  (P ∧ m s = (.ok (), s)) ∨ (¬ P ∧ ∃ e, m s = (.error e, s))

namespace Checks

variable {s : σ} {P Q : Prop}

theorem pure_ok (holds : P) : Checks (pure () : Prog ε σ Unit) s P := Or.inl ⟨holds, rfl⟩

theorem fail (e : ε) (fails : ¬ P) : Checks (Prog.fail e : Prog ε σ Unit) s P :=
  Or.inr ⟨fails, e, rfl⟩

/-- Two checks in a row test both. -/
theorem bind {m n : Prog ε σ Unit} (first : Checks m s P) (second : Checks n s Q) :
    Checks (m >>= fun _ => n) s (P ∧ Q) := by
  rcases first with ⟨holds, ran⟩ | ⟨fails, e, ran⟩
  · rcases second with ⟨holds', ran'⟩ | ⟨fails', e, ran'⟩
    · exact Or.inl ⟨⟨holds, holds'⟩, (bind_ok ran _).trans ran'⟩
    · exact Or.inr ⟨fun both => fails' both.2, e, (bind_ok ran _).trans ran'⟩
  · exact Or.inr ⟨fun both => fails both.1, e, bind_error ran _⟩

end Checks

end Evaluation

end Prog

end Authenticator.Theory
