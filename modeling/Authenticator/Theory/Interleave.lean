/-
# Theory.Interleave -- two read-modify-write clients of one store

A client reads the store once, decides from what it read whether to write and what, and
writes later.  Between the two the other client may move.  A schedule is a list of turns;
`overwritten` names the client that wrote while the other had read and not yet written.

`run_outcome` is the whole story of two clients: a finished schedule is one of the two
serial orders, or one write was computed from a store that no longer was.
-/
import Mathlib.Logic.Function.Basic

namespace Authenticator.Theory.Interleave

set_option autoImplicit false

universe u

variable {σ : Type u}

/-- Where a client stands: before its read, with a write to perform, or done. -/
inductive Phase (σ : Type u) where
  | start
  | holding (write : σ → σ)
  | finished

def Phase.holds : Phase σ → Bool
  | .holding _ => true
  | _ => false

structure Config (σ : Type u) where
  store : σ
  phase : Bool → Phase σ

/-- What a client makes of the store it reads: the write to perform, if any. -/
abbrev Clients (σ : Type u) := Bool → σ → Option (σ → σ)

variable (clients : Clients σ)

def begin (s : σ) : Config σ := ⟨s, fun _ => .start⟩

/-- One command of the client whose turn it is. -/
def step (c : Config σ) (turn : Bool) : Config σ :=
  match c.phase turn with
  | .start =>
      match clients turn c.store with
      | some write => { c with phase := Function.update c.phase turn (.holding write) }
      | none => { c with phase := Function.update c.phase turn .finished }
  | .holding write => ⟨write c.store, Function.update c.phase turn .finished⟩
  | .finished => c

def run (turns : List Bool) (c : Config σ) : Config σ := turns.foldl (step clients) c

/-- The client that writes while the other has read and not yet written. -/
def overwritten : List Bool → Config σ → Option Bool
  | [], _ => none
  | turn :: rest, c =>
      if ∀ client, (c.phase client).holds then some turn
      else overwritten rest (step clients c turn)

/-- Both clients are done. -/
def Config.Done (c : Config σ) : Prop := ∀ client, c.phase client = .finished

/-- A client that is not disturbed. -/
def perform (client : Bool) (s : σ) : σ :=
  match clients client s with
  | some write => write s
  | none => s

/-! ## The stages of a schedule -/

/-- The stages a schedule from store `s` goes through before a write is overwritten. -/
inductive Stage (s : σ) (c : Config σ) : Prop where
  | fresh (stored : c.store = s) (start : ∀ client, c.phase client = .start)
  | alone (client : Bool) (write : σ → σ) (stored : c.store = s)
      (intends : clients client s = some write) (own : c.phase client = .holding write)
      (other : c.phase (!client) = .start)
  | crossed (stored : c.store = s)
      (hold : ∀ client, ∃ write, clients client s = some write ∧ c.phase client = .holding write)
  | ahead (client : Bool) (stored : c.store = perform clients client s)
      (own : c.phase client = .finished) (other : c.phase (!client) = .start)
  | behind (client : Bool) (write : σ → σ) (stored : c.store = perform clients client s)
      (intends : clients (!client) c.store = some write)
      (own : c.phase client = .finished) (other : c.phase (!client) = .holding write)
  | served (client : Bool) (stored : c.store = perform clients (!client) (perform clients client s))
      (done : c.Done)

variable {clients}

section Moves

variable {c : Config σ} {turn : Bool}

theorem step_start {write : σ → σ} (own : c.phase turn = .start)
    (intends : clients turn c.store = some write) :
    step clients c turn = ⟨c.store, Function.update c.phase turn (.holding write)⟩ := by
  simp only [step, own, intends]

theorem step_start_none (own : c.phase turn = .start) (idle : clients turn c.store = none) :
    step clients c turn = ⟨c.store, Function.update c.phase turn .finished⟩ := by
  simp only [step, own, idle]

theorem step_holding {write : σ → σ} (own : c.phase turn = .holding write) :
    step clients c turn = ⟨write c.store, Function.update c.phase turn .finished⟩ := by
  simp only [step, own]

theorem step_finished (own : c.phase turn = .finished) : step clients c turn = c := by
  simp only [step, own]

theorem perform_some {client : Bool} {s : σ} {write : σ → σ}
    (intends : clients client s = some write) : perform clients client s = write s := by
  simp only [perform, intends]

theorem perform_none {client : Bool} {s : σ} (idle : clients client s = none) :
    perform clients client s = s := by
  simp only [perform, idle]

/-- The phase of a client after a move of one of the two. -/
theorem update_other (phase : Bool → Phase σ) (turn : Bool) (moved : Phase σ) :
    Function.update phase turn moved (!turn) = phase (!turn) :=
  Function.update_of_ne (by simp) _ _

/-- The phase of a client after a move of the other. -/
theorem update_own (phase : Bool → Phase σ) (client : Bool) (moved : Phase σ) :
    Function.update phase (!client) moved client = phase client :=
  Function.update_of_ne (by simp) _ _

/-- What holds of a client and of the other holds of both. -/
theorem both_of {P : Bool → Prop} (client : Bool) (own : P client) (other : P (!client))
    (one : Bool) : P one := by
  cases client <;> cases one <;> assumption

end Moves

section Turns

variable {s : σ} {c : Config σ} {client : Bool} {write : σ → σ}

/-- The first turn: the client has read, and is done if there is nothing to write. -/
theorem Stage.step_fresh (stored : c.store = s) (start : ∀ client, c.phase client = .start)
    (turn : Bool) : Stage clients s (step clients c turn) := by
  cases intends : clients turn c.store with
  | some write =>
      rw [step_start (start turn) intends]
      rw [stored] at intends
      exact .alone turn write stored intends (Function.update_self _ _ _)
        ((update_other _ _ _).trans (start _))
  | none =>
      rw [step_start_none (start turn) intends]
      rw [stored] at intends
      exact .ahead turn (stored.trans (perform_none intends).symm) (Function.update_self _ _ _)
        ((update_other _ _ _).trans (start _))

/-- The other client reads while one holds its write. -/
theorem Stage.step_alone (stored : c.store = s) (intends : clients client s = some write)
    (own : c.phase client = .holding write) (other : c.phase (!client) = .start) :
    Stage clients s (step clients c (!client)) := by
  cases read : clients (!client) c.store with
  | some second =>
      rw [step_start other read]
      rw [stored] at read
      have second_holds := Function.update_self (!client) (Phase.holding second) c.phase
      have first_holds : Function.update c.phase (!client) (.holding second) client =
          .holding write :=
        (update_own _ _ _).trans own
      exact .crossed stored (both_of client ⟨write, intends, first_holds⟩
        ⟨second, read, second_holds⟩)
  | none =>
      rw [step_start_none other read]
      rw [stored] at read
      have unchanged := perform_none read
      refine .behind (!client) write (stored.trans unchanged.symm) ?_
        (Function.update_self _ _ _) ?_
      · rw [Bool.not_not]
        exact (congrArg _ stored).trans intends
      · exact (update_other _ _ _).trans (by rwa [Bool.not_not])

/-- The other client reads after one is done. -/
theorem Stage.step_ahead (stored : c.store = perform clients client s)
    (own : c.phase client = .finished) (other : c.phase (!client) = .start) :
    Stage clients s (step clients c (!client)) := by
  have kept : ∀ moved, Function.update c.phase (!client) moved client = .finished :=
    fun moved => (update_own _ _ _).trans own
  cases read : clients (!client) c.store with
  | some write =>
      rw [step_start other read]
      exact .behind client write stored read (kept _) (Function.update_self _ _ _)
  | none =>
      rw [step_start_none other read]
      rw [stored] at read
      exact .served client (stored.trans (perform_none read).symm)
        (both_of client (kept _) (Function.update_self _ _ _))

/-- The other client writes after one is done. -/
theorem Stage.step_behind (stored : c.store = perform clients client s)
    (intends : clients (!client) c.store = some write) (own : c.phase client = .finished)
    (other : c.phase (!client) = .holding write) : Stage clients s (step clients c (!client)) := by
  rw [step_holding other]
  rw [stored] at intends
  refine .served client ?_ (both_of client ?_ (Function.update_self _ _ _))
  · rw [perform_some intends, ← stored]
  · exact (update_own _ _ _).trans own

/-- **One turn.**  As long as the clients do not both hold a write, a turn leads from stage
to stage. -/
theorem Stage.step (stage : Stage clients s c)
    (apart : ¬ ∀ client, (c.phase client).holds = true) (turn : Bool) :
    Stage clients s (step clients c turn) := by
  cases stage with
  | fresh stored start => exact step_fresh stored start turn
  | alone client write stored intends own other =>
      by_cases own_turn : turn = client
      · subst own_turn
        rw [step_holding own, stored]
        exact .ahead turn (perform_some intends).symm (Function.update_self _ _ _)
          ((update_other _ _ _).trans other)
      · rw [Bool.eq_not_of_ne own_turn]
        exact step_alone stored intends own other
  | crossed stored hold =>
      refine absurd (fun client => ?_) apart
      obtain ⟨write, -, held⟩ := hold client
      rw [held]
      rfl
  | ahead client stored own other =>
      by_cases own_turn : turn = client
      · subst own_turn
        rw [step_finished own]
        exact .ahead turn stored own other
      · rw [Bool.eq_not_of_ne own_turn]
        exact step_ahead stored own other
  | behind client write stored intends own other =>
      by_cases own_turn : turn = client
      · subst own_turn
        rw [step_finished own]
        exact .behind turn write stored intends own other
      · rw [Bool.eq_not_of_ne own_turn]
        exact step_behind stored intends own other
  | served client stored done =>
      rw [step_finished (done turn)]
      exact .served client stored done

end Turns

theorem run_done {c : Config σ} (done : c.Done) (turns : List Bool) : run clients turns c = c := by
  induction turns with
  | nil => rfl
  | cons turn rest ih => exact (congrArg (run clients rest) (step_finished (done turn))).trans ih

/-- A client alone with its write left performs it last. -/
theorem run_last {client : Bool} {write : σ → σ} (turns : List Bool) {c : Config σ}
    (own : c.phase client = .finished) (other : c.phase (!client) = .holding write)
    (done : (run clients turns c).Done) : (run clients turns c).store = write c.store := by
  induction turns generalizing c with
  | nil =>
      have finished := done (!client)
      rw [show (run clients [] c).phase (!client) = _ from other] at finished
      cases finished
  | cons turn rest ih =>
      by_cases own_turn : turn = client
      · subst own_turn
        have moved : run clients (turn :: rest) c = run clients rest c :=
          congrArg (run clients rest) (step_finished own)
        rw [moved] at done ⊢
        exact ih own other done
      · have moved : run clients (turn :: rest) c =
            run clients rest ⟨write c.store, Function.update c.phase (!client) .finished⟩ := by
          rw [Bool.eq_not_of_ne own_turn]
          exact congrArg (run clients rest) (step_holding other)
        have finished : Config.Done
            (⟨write c.store, Function.update c.phase (!client) .finished⟩ : Config σ) :=
          both_of client ((update_own _ _ _).trans own) (Function.update_self _ _ _)
        rw [moved, run_done finished]

theorem overwritten_cons_crossed {c : Config σ} (crossed : ∀ client, (c.phase client).holds = true)
    (turn : Bool) (rest : List Bool) : overwritten clients (turn :: rest) c = some turn :=
  if_pos crossed

theorem overwritten_cons {c : Config σ} (apart : ¬ ∀ client, (c.phase client).holds = true)
    (turn : Bool) (rest : List Bool) :
    overwritten clients (turn :: rest) c = overwritten clients rest (step clients c turn) :=
  if_neg apart

/-- How a schedule from store `s` ends: in a serial order, or with the write of `client`
overwritten by one that was computed from `s` as well. -/
inductive Outcome (clients : Clients σ) (s final : σ) : Option Bool → Prop where
  | serial (client : Bool)
      (stored : final = perform clients (!client) (perform clients client s)) :
      Outcome clients s final none
  | lost (client : Bool) (write second : σ → σ) (intends : clients client s = some write)
      (other : clients (!client) s = some second) (stored : final = second (write s)) :
      Outcome clients s final (some client)

theorem Stage.outcome {s : σ} (turns : List Bool) {c : Config σ} (stage : Stage clients s c)
    (done : (run clients turns c).Done) :
    Outcome clients s (run clients turns c).store (overwritten clients turns c) := by
  induction turns generalizing c with
  | nil =>
      have finished : ∀ client, c.phase client = .finished := done
      cases stage with
      | fresh _ start => cases (start true).symm.trans (finished true)
      | alone client _ _ _ own _ => cases own.symm.trans (finished client)
      | crossed _ hold =>
          obtain ⟨write, -, held⟩ := hold true
          cases held.symm.trans (finished true)
      | ahead client _ _ other => cases other.symm.trans (finished (!client))
      | behind client _ _ _ _ other => cases other.symm.trans (finished (!client))
      | served client stored _ => exact .serial client stored
  | cons turn rest ih =>
      by_cases crossed : ∀ client, (c.phase client).holds = true
      · rw [overwritten_cons_crossed crossed]
        -- Only the crossed stage holds two writes.
        obtain ⟨stored, hold⟩ : c.store = s ∧ ∀ client, ∃ write, clients client s = some write ∧
            c.phase client = .holding write := by
          cases stage with
          | crossed stored hold => exact ⟨stored, hold⟩
          | fresh _ start => simp [start, Phase.holds] at crossed
          | alone client _ _ _ _ other => simpa [other, Phase.holds] using crossed (!client)
          | ahead client _ own _ => simpa [own, Phase.holds] using crossed client
          | behind client _ _ _ own _ => simpa [own, Phase.holds] using crossed client
          | served client _ finished =>
              simpa [finished client, Phase.holds] using crossed client
        obtain ⟨write, intends, held⟩ := hold turn
        obtain ⟨second, other, waits⟩ := hold (!turn)
        have moved : run clients (turn :: rest) c =
            run clients rest ⟨write c.store, Function.update c.phase turn .finished⟩ :=
          congrArg (run clients rest) (step_holding held)
        refine .lost turn write second intends other ?_
        rw [moved] at done ⊢
        rw [run_last rest (Function.update_self _ _ _) ((update_other _ _ _).trans waits) done,
          stored]
      · rw [overwritten_cons crossed]
        exact ih (stage.step crossed turn) done

/-- **How two clients end.**  A schedule that lets both finish ends in one of the two serial
orders, unless one client wrote between the other's read and write. -/
theorem run_outcome {s : σ} {turns : List Bool} (done : (run clients turns (begin s)).Done) :
    Outcome clients s (run clients turns (begin s)).store
      (overwritten clients turns (begin s)) :=
  Stage.outcome turns (.fresh rfl fun _ => rfl) done

end Authenticator.Theory.Interleave
