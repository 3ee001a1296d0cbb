/-
# Authd.Trace -- the history of a run of the orchestrator

What a request may carry depends on what came before it, across the calls of a run.  The
history of a run is the list of its moments: every event given to the PAE and every effect
performed, each with the world before it.

`serveTraced_invariant` is the rule for runs with their histories, and `history_moment` its
case for an invariant that no feeding and no performing breaks.
-/
import Authenticator.Theory.Trace
import Authenticator.Authd.Run

namespace Authenticator.Authd

set_option autoImplicit false

open Authenticator.Pacp Authenticator.Pae Authenticator.Radius Authenticator.Theory

/-- A moment of a run. -/
abbrev Moment (ω : Type) := Worklist.Moment (World ω) (MacAddr × Event) DirectedEffect

/-- What stands at a place, with what came before it. -/
theorem prefix_at {α : Type} (moments : List α) (place : Fin moments.length) :
    moments.take place ++ [moments.get place] <+: moments := by
  rw [List.get_eq_getElem, List.take_append_getElem place.isLt]
  exact List.take_prefix _ _

section Runs

variable {ω : Type} [RadiusProto] (deps : Deps ω)

/-- `serve`, with the moments of the run. -/
def serveTraced (s : World ω × List (Moment ω)) :
    List (MacAddr × Event) → World ω × List (Moment ω)
  | [] => s
  | (mac, event) :: rest =>
      serveTraced ((eventQueue deps).traced.drain 64 [(mac, event)] s).2 rest

/-- The moments of a run, oldest first. -/
def history (w : World ω) (inputs : List (MacAddr × Event)) : List (Moment ω) :=
  (serveTraced deps (w, []) inputs).2

/-- Keeping the moments changes nothing. -/
theorem serveTraced_world (s : World ω × List (Moment ω)) (inputs : List (MacAddr × Event)) :
    (serveTraced deps s inputs).1 = serve deps s.1 inputs := by
  induction inputs generalizing s with
  | nil => rfl
  | cons input rest ih =>
      obtain ⟨mac, event⟩ := input
      have same : (handleEvent deps mac event s.1).2 =
          ((eventQueue deps).traced.drain 64 [(mac, event)] s).2.1 := by
        rw [handleEvent, (eventQueue deps).traced_drain 64 [(mac, event)] s]
      show (serveTraced deps ((eventQueue deps).traced.drain 64 [(mac, event)] s).2 rest).1 = _
      rw [ih, ← same]
      rfl

/-- What performing an effect leaves, as an action of the queue. -/
theorem eventQueue_act_world (task : MacAddr × Event) (de : DirectedEffect) (w : World ω) :
    ((eventQueue deps).act task de w).2 = (dispatch deps de w).2 := by
  cases acted : (eventQueue deps).act task de w with
  | mk outcome w' =>
      obtain ⟨result, -, ran⟩ := eventQueue_act_dispatch acted
      rw [ran]

end Runs

section Rules

variable {ω : Type} [RadiusProto] {deps : Deps ω}
variable {J : List (MacAddr × Event) → World ω × List (Moment ω) → Prop}
variable {K : MacAddr × Event → List DirectedEffect → List (MacAddr × Event) →
  World ω × List (Moment ω) → Prop}
variable {E I : World ω × List (Moment ω) → Prop} {allowed : Event → Prop}

/-- What an invariant of a world and its history owes the moments of a run. -/
theorem traced_keeps
    (enter : ∀ task queue w history, J (task :: queue) (w, history) →
      K task (feedPae task.1 task.2 w).1 queue
        ((feedPae task.1 task.2 w).2, history ++ [.expand task w]))
    (act : ∀ task de rest queue w history follow, K task (de :: rest) queue (w, history) →
      (dispatch deps de w).1 = .ok follow →
      K task rest (queue ++ (follow.map fun event => (de.mac.getD task.1, event)).toList)
        ((dispatch deps de w).2, history ++ [.act task de w]))
    (abandon : ∀ task de rest queue w history e, K task (de :: rest) queue (w, history) →
      (dispatch deps de w).1 = .error e →
      E ((dispatch deps de w).2, history ++ [.act task de w]))
    (leave : ∀ task queue s, K task [] queue s → J queue s) :
    (eventQueue deps).traced.Keeps (fun _ _ _ => True) J K E := by
  refine ⟨fun task queue s held => enter task queue s.1 s.2 held, ?_, ?_, leave⟩
  · rintro task de rest queue ⟨w, history⟩ follow ⟨w', later⟩ held acted
    obtain ⟨acts, grown⟩ := (eventQueue deps).traced_act acted
    obtain ⟨result, same, ran⟩ := eventQueue_act_dispatch acts
    cases result with
    | error e => cases same
    | ok event =>
        cases same
        cases grown
        have kept := act task de rest queue w history event held (by rw [ran])
        rwa [ran] at kept
  · rintro task de rest queue ⟨w, history⟩ e ⟨w', later⟩ held acted _
    obtain ⟨acts, grown⟩ := (eventQueue deps).traced_act acted
    obtain ⟨result, same, ran⟩ := eventQueue_act_dispatch acts
    cases result with
    | ok event => cases same
    | error e' =>
        cases grown
        have kept := abandon task de rest queue w history e' held (by rw [ran])
        rwa [ran] at kept

/-- **The rule for one call, with its moments.** -/
theorem drainTraced_invariant (keeps : (eventQueue deps).traced.Keeps (fun _ _ _ => True) J K E)
    (settles : ∀ queue s, J queue s → I s) (fails : ∀ s, E s → I s) {mac : MacAddr} {event : Event}
    {s : World ω × List (Moment ω)} (begin_ : J [(mac, event)] s) :
    I ((eventQueue deps).traced.drain 64 [(mac, event)] s).2 := by
  have within := (eventQueue deps).traced.drainsWithin_of_forall (fun _ _ _ => True)
    (fun _ _ _ => trivial) 64 [(mac, event)] s
  have ended := keeps.drain 64 [(mac, event)] s begin_ within
  cases ran : (eventQueue deps).traced.drain 64 [(mac, event)] s with
  | mk outcome s' =>
      rw [ran] at ended
      cases outcome with
      | ok u =>
          obtain ⟨queue, held⟩ := ended
          exact settles queue s' held
      | error e => exact fails s' ended

/-- **The rule for runs, with their moments.** -/
theorem serveTraced_invariant (keeps : (eventQueue deps).traced.Keeps (fun _ _ _ => True) J K E)
    (enters : ∀ mac event s, allowed event → I s → J [(mac, event)] s)
    (settles : ∀ queue s, J queue s → I s) (fails : ∀ s, E s → I s)
    {s : World ω × List (Moment ω)} (begin_ : I s) {inputs : List (MacAddr × Event)}
    (fed : ∀ input ∈ inputs, allowed input.2) : I (serveTraced deps s inputs) := by
  induction inputs generalizing s with
  | nil => exact begin_
  | cons input rest ih =>
      obtain ⟨mac, event⟩ := input
      have allowed := fed (mac, event) List.mem_cons_self
      refine ih ?_ fun input member => fed input (List.mem_cons_of_mem _ member)
      exact drainTraced_invariant keeps settles fails (enters mac event s allowed begin_)

section Worlds

variable {I : List (Moment ω) → World ω → Prop}
variable (feeds : ∀ mac event before w, I before w →
  I (before ++ [.expand (mac, event) w]) (feedPae mac event w).2)
variable (acts : ∀ task de before w, I before w →
  I (before ++ [.act task de w]) (dispatch deps de w).2)

include feeds acts

/-- What every event that is fed and every effect that is performed keep, of the world and of
what came before, holds at every moment of a run and at its end. -/
theorem history_keeps {w : World ω} (begin_ : I [] w) (inputs : List (MacAddr × Event)) :
    I (history deps w inputs) (serve deps w inputs) ∧
      Never (fun before x => ¬ I before x.state) (history deps w inputs) := by
  have performs : ∀ (task : MacAddr × Event) (de : DirectedEffect) (before : List (Moment ω))
      (w : World ω), I before w →
      I (before ++ [.act task de w]) ((eventQueue deps).act task de w).2 := by
    intro task de before w held
    rw [eventQueue_act_world]
    exact acts task de before w held
  let broken : List (Moment ω) → Moment ω → Prop := fun before x => ¬ I before x.state
  have keeps := (eventQueue deps).keeps_traced
    (fun task before w held => feeds task.1 task.2 before w held) performs
  have keeps := keeps.never (Q := broken) (fun _ _ _ held => not_not.mpr held)
    (fun _ _ _ _ _ held => not_not.mpr held)
  have whole : I (history deps w inputs) (serveTraced deps (w, []) inputs).1 ∧
      Never broken (history deps w inputs) :=
    serveTraced_invariant keeps (fun _ _ _ (_ : True) held => held) (fun _ _ held => held)
      (fun _ held => held) ⟨begin_, never_nil⟩ (fun _ _ => trivial)
  rwa [serveTraced_world] at whole

/-- **The rule for moments.** -/
theorem history_moment {w : World ω} (begin_ : I [] w) {inputs : List (MacAddr × Event)}
    {before : List (Moment ω)} {x : Moment ω} (within : before ++ [x] <+: history deps w inputs) :
    I before x.state :=
  not_not.mp ((history_keeps feeds acts begin_ inputs).2 before x within)

/-- **The rule for whole histories.** -/
theorem history_invariant {w : World ω} (begin_ : I [] w) (inputs : List (MacAddr × Event)) :
    I (history deps w inputs) (serve deps w inputs) :=
  (history_keeps feeds acts begin_ inputs).1

end Worlds

end Rules

end Authenticator.Authd
