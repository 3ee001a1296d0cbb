/-
# Theory.Client -- many clients of one server, a command at a time

A `Client` is a program that asks a server one command after another and goes on with what
it answered.  `alone` runs it undisturbed; `System.run` runs any number of them in the order
a schedule gives, a command at a time.

A `View` is what one client depends on: a store may do for another (`agree`).  Some of its
commands are `hidden`: their answers may be anything, and they change nothing it depends on.
A client is `Steady` when its outcome is the same whatever the hidden answers are.

`isolated` is the noninterference theorem: steady clients whose commands are silent for each
other end, under every schedule, as if each of them had run alone.
-/
import Mathlib.Logic.Function.Basic

namespace Authenticator.Theory

set_option autoImplicit false

universe u v w x y

inductive Client (ι : Type u) (ο : ι → Type v) (α : Type w) where
  | done (a : α)
  | call (c : ι) (next : ο c → Client ι ο α)

/-- The answer to a command, and the store after it. -/
abbrev Server (σ : Type x) (ι : Type u) (ο : ι → Type v) := (c : ι) → σ → ο c × σ

namespace Client

section Operations

variable {ι : Type u} {ο : ι → Type v} {α β : Type w} {σ : Type x}

def andThen : Client ι ο α → (α → Client ι ο β) → Client ι ο β
  | done a, f => f a
  | call c next, f => call c fun answer => (next answer).andThen f

instance : Monad (Client ι ο) where
  pure := done
  bind := andThen

/-- The client runs undisturbed. -/
def alone (serve : Server σ ι ο) : Client ι ο α → σ → α × σ
  | done a, s => (a, s)
  | call c next, s => (next (serve c s).1).alone serve (serve c s).2

variable (serve : Server σ ι ο)

@[simp] theorem alone_pure (a : α) (s : σ) : (pure a : Client ι ο α).alone serve s = (a, s) := rfl

@[simp] theorem alone_done (a : α) (s : σ) : (done a : Client ι ο α).alone serve s = (a, s) := rfl

@[simp] theorem alone_bind (m : Client ι ο α) (f : α → Client ι ο β) (s : σ) :
    (m >>= f).alone serve s = (f (m.alone serve s).1).alone serve (m.alone serve s).2 := by
  induction m generalizing s with
  | done a => rfl
  | call c next ih => exact ih (serve c s).1 (serve c s).2

end Operations

end Client

/-! ## Schedules -/

structure System (κ : Type y) (ι : Type u) (ο : ι → Type v) (α : Type w) (σ : Type x) where
  store : σ
  clients : κ → Client ι ο α

namespace System

variable {κ : Type y} {ι : Type u} {ο : ι → Type v} {α : Type w} {σ : Type x} [DecidableEq κ]
variable (serve : Server σ ι ο)

/-- The next command of the client whose turn it is. -/
def step (sys : System κ ι ο α σ) (turn : κ) : System κ ι ο α σ :=
  match sys.clients turn with
  | .done _ => sys
  | .call c next =>
      ⟨(serve c sys.store).2,
        Function.update sys.clients turn (next (serve c sys.store).1)⟩

def run (turns : List κ) (sys : System κ ι ο α σ) : System κ ι ο α σ := turns.foldl (step serve) sys

end System

/-! ## What one client depends on -/

/-- The stores that will do for a client in place of another, and the commands it may send. -/
structure View {ι : Type u} {ο : ι → Type v} {σ : Type x} (serve : Server σ ι ο) where
  agree : σ → σ → Prop
  refl : ∀ s, agree s s
  trans : ∀ {s t r}, agree s t → agree t r → agree s r
  hidden : ι → Prop
  permitted : σ → ι → Prop
  permitted_congr : ∀ {s t c}, agree s t → permitted s c → permitted t c
  seen : ∀ {s t c}, agree s t → permitted s c → ¬ hidden c →
    (serve c s).1 = (serve c t).1 ∧ agree (serve c s).2 (serve c t).2
  unseen : ∀ {s c}, permitted s c → hidden c → agree s (serve c s).2

namespace View

variable {ι : Type u} {ο : ι → Type v} {σ : Type x} {serve : Server σ ι ο} (V : View serve)
variable {α β : Type w}

/-- Whatever the hidden commands answer, the client sends permitted commands only and ends
with this value, in a store that will do for this one. -/
def Yields : Client ι ο α → σ → α × σ → Prop
  | .done a, s, r => a = r.1 ∧ V.agree r.2 s
  | .call c next, s, r => V.permitted s c ∧
      (V.hidden c → ∀ answer, Yields (next answer) s r) ∧
      (¬ V.hidden c → Yields (next (serve c s).1) (serve c s).2 r)

/-- The hidden answers do not matter: the outcome is that of the client alone. -/
def Steady (client : Client ι ο α) (s : σ) : Prop := V.Yields client s (client.alone serve s)

variable {V} {s t : σ} {client : Client ι ο α} {r : α × σ}

theorem Yields.congr (yields : V.Yields client s r) (agree : V.agree s t) : V.Yields client t r := by
  induction client generalizing s t with
  | done a => exact ⟨yields.1, V.trans yields.2 agree⟩
  | call c next ih =>
      obtain ⟨permitted, hidden, shown⟩ := yields
      refine ⟨V.permitted_congr agree permitted, fun unseen answer =>
        ih answer (hidden unseen answer) agree, fun seen => ?_⟩
      obtain ⟨answers, after⟩ := V.seen agree permitted seen
      rw [← answers]
      exact ih _ (shown seen) after

theorem Yields.bind {f : α → Client ι ο β} {q : β × σ} (first : V.Yields client s r)
    (later : V.Yields (f r.1) r.2 q) : V.Yields (client >>= f) s q := by
  induction client generalizing s with
  | done a =>
      obtain ⟨rfl, agree⟩ := first
      exact later.congr agree
  | call c next ih =>
      obtain ⟨permitted, hidden, shown⟩ := first
      exact ⟨permitted, fun unseen answer => ih answer (hidden unseen answer),
        fun seen => ih _ (shown seen)⟩

/-- **Two steady programs in a row.** -/
theorem Steady.bind {f : α → Client ι ο β} (first : V.Steady client s)
    (later : V.Steady (f (client.alone serve s).1) (client.alone serve s).2) :
    V.Steady (client >>= f) s := by
  unfold Steady
  rw [Client.alone_bind]
  exact Yields.bind first later

/-- What every permitted command keeps, a client that is alone keeps. -/
theorem Yields.alone_keeps {R : σ → σ → Prop} (refl : ∀ s, R s s)
    (trans : ∀ {s t u}, R s t → R t u → R s u) (kept : ∀ s c, V.permitted s c → R s (serve c s).2)
    (yields : V.Yields client s r) : R s (client.alone serve s).2 := by
  induction client generalizing s with
  | done a => exact refl s
  | call c next ih =>
      obtain ⟨permitted, hidden, shown⟩ := yields
      refine trans (kept s c permitted) (ih _ (s := (serve c s).2) ?_)
      by_cases unseen : V.hidden c
      · exact (hidden unseen _).congr (V.unseen permitted unseen)
      · exact shown unseen

theorem steady_done (a : α) (s : σ) : V.Steady (.done a) s := ⟨rfl, V.refl s⟩

/-- A command whose answer is seen. -/
theorem steady_call {c : ι} {next : ο c → Client ι ο α} (permitted : V.permitted s c)
    (seen : ¬ V.hidden c) (later : V.Steady (next (serve c s).1) (serve c s).2) :
    V.Steady (.call c next) s :=
  ⟨permitted, fun hidden => absurd hidden seen, fun _ => later⟩

end View

/-! ## Noninterference -/

section Isolation

variable {κ : Type y} {ι : Type u} {ο : ι → Type v} {α : Type w} {σ : Type x} [DecidableEq κ]
variable {serve : Server σ ι ο} {views : κ → View serve} {sys : System κ ι ο α σ}

/-- What one client may send is silent for the others. -/
def Apart (views : κ → View serve) : Prop :=
  ∀ mover other, mover ≠ other → ∀ s c, (views mover).permitted s c →
    (views other).agree s (serve c s).2

/-- **The step lemma**: the outcomes ahead stay what they are. -/
theorem yields_step (apart : Apart views) {outcome : κ → α × σ}
    (yields : ∀ k, (views k).Yields (sys.clients k) sys.store (outcome k)) (turn : κ) (k : κ) :
    (views k).Yields ((sys.step serve turn).clients k) (sys.step serve turn).store (outcome k) := by
  unfold System.step
  cases moves : sys.clients turn with
  | done a => exact yields k
  | call c next =>
      have mover := yields turn
      rw [moves] at mover
      obtain ⟨permitted, hidden, shown⟩ := mover
      dsimp only
      by_cases own : k = turn
      · subst own
        rw [Function.update_self]
        by_cases unseen : (views k).hidden c
        · exact (hidden unseen _).congr ((views k).unseen permitted unseen)
        · exact shown unseen
      · rw [Function.update_of_ne own]
        exact (yields k).congr (apart turn k (Ne.symm own) _ c permitted)

theorem yields_run (apart : Apart views) {outcome : κ → α × σ} (turns : List κ)
    (yields : ∀ k, (views k).Yields (sys.clients k) sys.store (outcome k)) (k : κ) :
    (views k).Yields ((sys.run serve turns).clients k) (sys.run serve turns).store (outcome k) := by
  induction turns generalizing sys with
  | nil => exact yields k
  | cons turn rest ih => exact ih (yields_step apart yields turn)

/-- **Noninterference.**  Under every schedule, a client that is done has the result it has
alone, and the store will do for the one it leaves alone. -/
theorem isolated (apart : Apart views) (steady : ∀ k, (views k).Steady (sys.clients k) sys.store)
    (turns : List κ) (k : κ) {a : α} (finished : (sys.run serve turns).clients k = .done a) :
    a = ((sys.clients k).alone serve sys.store).1 ∧
      (views k).agree ((sys.clients k).alone serve sys.store).2 (sys.run serve turns).store := by
  have outcome := yields_run apart turns steady k
  rwa [finished] at outcome

end Isolation

end Authenticator.Theory
