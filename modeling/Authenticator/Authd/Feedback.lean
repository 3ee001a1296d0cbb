/-
# Authd.Feedback -- the feedback loop of one call ends by itself

`handle_event` gives an event to the PAE, performs its effects, and queues the replies of
the requests among them as events of their own.  An event asks the server once at most, and
a reply never does, so a call gives at most two events to the PAE.  Nothing that can fail
stands behind a request, so the reply it brings is always given to the PAE, and the bound of
64 events is never met.

`Looping` is the invariant inside the effects of one event, over the history of the call;
`feedback_loop_settles` holds in every state of the orchestrator and of the port.
-/
import Authenticator.Authd.Relay
import Authenticator.Authd.SessionTimer

namespace Authenticator.Authd

set_option autoImplicit false

open Authenticator.Pacp Authenticator.Pae Authenticator.Radius Authenticator.Theory

section Moments

variable {ω : Type}

/-- The event that is given to the PAE at a moment. -/
def Moment.fed : Moment ω → Option (MacAddr × Event)
  | .expand task _ => some task
  | .act _ _ _ => none

/-- The event that an effect brings at a moment, for the session that it belongs to. -/
def Moment.raised [RadiusProto] (deps : Deps ω) : Moment ω → Option (MacAddr × Event)
  | .expand _ _ => none
  | .act task de w =>
      ((dispatch deps de w).1.toOption.bind id).map fun event => (de.mac.getD task.1, event)

/-- The events given to the PAE, in order. -/
def fed (history : List (Moment ω)) : List (MacAddr × Event) := history.filterMap Moment.fed

/-- The events that effects brought, in order. -/
def raised [RadiusProto] (deps : Deps ω) (history : List (Moment ω)) : List (MacAddr × Event) :=
  history.filterMap (Moment.raised deps)

theorem fed_expand {history : List (Moment ω)} {task : MacAddr × Event} {w : World ω} :
    fed (history ++ [.expand task w]) = fed history ++ [task] := by
  simp [fed, Moment.fed]

theorem fed_act {history : List (Moment ω)} {task : MacAddr × Event} {de : DirectedEffect}
    {w : World ω} : fed (history ++ [.act task de w]) = fed history := by
  simp [fed, Moment.fed]

end Moments

section Loop

variable {ω : Type} [RadiusProto] (deps : Deps ω)

/-- A follow-up is a reply. -/
theorem isReply_of_follow (de : DirectedEffect) (w : World ω) {event : Event}
    (done : (dispatch deps de w).1 = .ok (some event)) : event.IsReply := by
  obtain ⟨calls, performed⟩ := dispatch_performed deps de w
  obtain ⟨_, _, _, _, -, -, -, -, -, parsed⟩ := performed.outcome.followed done
  exact isReply_of_parseReply parsed

/-- Between two events: every event that was brought has been given to the PAE, but those in
the queue, and there are two at most. -/
structure Looped (first : MacAddr × Event) (queue : List (MacAddr × Event))
    (history : List (Moment ω)) : Prop where
  balanced : first :: raised deps history = fed history ++ queue
  short : queue.length ≤ 1
  few : (fed history).length + queueWeight queue ≤ 2

/-- Inside the effects of one event. -/
structure Looping (first task : MacAddr × Event) (rest : List DirectedEffect)
    (queue : List (MacAddr × Event)) (history : List (Moment ω)) : Prop where
  looped : Looped deps first queue history
  order : AsksThenArms rest
  asking : (∃ de ∈ rest, de.effect.isRequest = true) →
    queue = [] ∧ ¬ task.2.IsReply ∧ (fed history).length ≤ 1
  behind : queue ≠ [] → ∀ de ∈ rest, ∃ kind, de.effect = .armTimer kind
  falls : ∀ others, queueWeight queue < queueWeight (task :: others)

variable {deps} {first task : MacAddr × Event} {de : DirectedEffect} {rest : List DirectedEffect}
variable {queue : List (MacAddr × Event)} {w : World ω} {history : List (Moment ω)}

theorem raised_expand : raised deps (history ++ [.expand task w]) = raised deps history := by
  simp [raised, Moment.raised]

theorem raised_act {follow : Option Event} (done : (dispatch deps de w).1 = .ok follow) :
    raised deps (history ++ [.act task de w]) =
      raised deps history ++ (follow.map fun event => (de.mac.getD task.1, event)).toList := by
  cases follow <;> simp [raised, Moment.raised, done, Except.toOption]

theorem raised_failed {e : AuthdError} (failed : (dispatch deps de w).1 = .error e) :
    raised deps (history ++ [.act task de w]) = raised deps history := by
  simp [raised, Moment.raised, failed, Except.toOption]

/-- The effects of an event that is given to the PAE. -/
theorem Looping.enter (looped : Looped deps first (task :: queue) history) :
    Looping deps first task (feedPae task.1 task.2 w).1 queue (history ++ [.expand task w]) := by
  obtain ⟨balanced, short, few⟩ := looped
  obtain rfl : queue = [] := by simpa using short
  have weight := taskWeight_bounds task
  rw [queueWeight_singleton] at few
  have grown : (fed (history ++ [.expand task w])).length = (fed history).length + 1 := by
    simp [fed_expand]
  refine ⟨⟨?_, by simp, ?_⟩, w.pae.handle_order task.1 task.2, ?_, by simp, queueWeight_pos task⟩
  · rw [raised_expand, fed_expand, balanced, List.append_nil]
  · show (fed (history ++ [.expand task w])).length + 0 ≤ 2
    omega
  · rintro ⟨de, member, asks⟩
    have own := w.pae.handle_unasked task.1 task.2 member asks
    have two : taskWeight task ≠ 1 := fun same => own (weight.2.2.mpr same)
    exact ⟨rfl, own, by omega⟩

/-- An effect that is performed. -/
theorem Looping.act (looping : Looping deps first task (de :: rest) queue history)
    {follow : Option Event} (done : (dispatch deps de w).1 = .ok follow) :
    Looping deps first task rest
      (queue ++ (follow.map fun event => (de.mac.getD task.1, event)).toList)
      (history ++ [.act task de w]) := by
  obtain ⟨⟨balanced, short, few⟩, order, asking, behind, falls⟩ := looping
  have appended : first :: raised deps (history ++ [.act task de w]) =
      fed (history ++ [.act task de w]) ++
        (queue ++ (follow.map fun event => (de.mac.getD task.1, event)).toList) := by
    rw [raised_act done, fed_act, ← List.cons_append, balanced, List.append_assoc]
  cases follow with
  | none =>
      rw [Option.map_none, Option.toList_none, List.append_nil] at appended ⊢
      refine ⟨⟨appended, short, by rwa [fed_act]⟩, order.2, ?_, ?_, falls⟩
      · rintro ⟨next, member, asks⟩
        rw [fed_act]
        exact asking ⟨next, List.mem_cons_of_mem _ member, asks⟩
      · intro some next member
        exact behind some next (List.mem_cons_of_mem _ member)
  | some event =>
      obtain ⟨calls, performed⟩ := dispatch_performed deps de w
      obtain ⟨_, _, _, _, asked, -⟩ := performed.outcome.followed done
      have asks := DirectedEffect.isRequest_of_asks asked
      obtain ⟨rfl, own, one⟩ := asking ⟨de, List.mem_cons_self, asks⟩
      have reply := (taskWeight_bounds (de.mac.getD task.1, event)).2.2.mp
        (isReply_of_follow deps de w done)
      have light : queueWeight [(de.mac.getD task.1, event)] = 1 := by
        rw [queueWeight_singleton, reply]
      refine ⟨⟨appended, by simp, ?_⟩, order.2, fun more => absurd more (order.last asks),
        fun _ => order.1 asks, fun others => ?_⟩
      · show (fed (history ++ [.act task de w])).length + queueWeight [(de.mac.getD task.1, event)] ≤ 2
        rw [fed_act, light]
        omega
      · show queueWeight [(de.mac.getD task.1, event)] < _
        have weight := taskWeight_bounds task
        have two : taskWeight task ≠ 1 := fun same => own (weight.2.2.mpr same)
        rw [light, queueWeight_cons]
        omega

/-- An effect that fails finds the queue empty: behind a request there are only timers. -/
theorem Looping.abandon (looping : Looping deps first task (de :: rest) queue history)
    {e : AuthdError} (failed : (dispatch deps de w).1 = .error e) :
    Looped deps first [] (history ++ [.act task de w]) := by
  have empty : queue = [] := by
    by_contra some
    obtain ⟨calls, performed⟩ := dispatch_performed deps de w
    have timed := performed.outcome.timers (Or.inl (looping.behind some de List.mem_cons_self))
    rw [failed] at timed
    cases timed
  obtain ⟨⟨balanced, short, few⟩, -⟩ := looping
  subst empty
  exact ⟨by rw [raised_failed failed, fed_act, balanced], short, by rwa [fed_act]⟩

theorem keeps_looping (deps : Deps ω) (first : MacAddr × Event) :
    (eventQueue deps).traced.Keeps (fun _ _ _ => True)
      (fun queue s => Looped deps first queue s.2)
      (fun task rest queue s => Looping deps first task rest queue s.2)
      (fun s => Looped deps first [] s.2) :=
  traced_keeps (fun _ _ _ _ looped => .enter looped)
    (fun _ _ _ _ _ _ _ looping done => looping.act done)
    (fun _ _ _ _ _ _ _ looping failed => looping.abandon failed)
    (fun _ _ _ looping => looping.looped)

theorem looped_start (deps : Deps ω) (task : MacAddr × Event) : Looped deps task [task] [] := by
  have weight := taskWeight_bounds task
  refine ⟨rfl, by simp, ?_⟩
  rw [queueWeight_singleton]
  exact (Nat.zero_add _).le.trans weight.2.1

theorem isReply_of_raised (deps : Deps ω) {history : List (Moment ω)} {follow : MacAddr × Event}
    (member : follow ∈ raised deps history) : follow.2.IsReply := by
  obtain ⟨x, -, brings⟩ := List.mem_filterMap.mp member
  cases x with
  | expand task w => cases brings
  | act task de w =>
      obtain ⟨event, known, rfl⟩ := Option.map_eq_some_iff.mp brings
      refine isReply_of_follow deps de w ?_
      cases outcome : (dispatch deps de w).1 with
      | error e => simp [outcome, Except.toOption] at known
      | ok result =>
          have same : result = some event := by simpa [outcome, Except.toOption] using known
          rw [same]

/-- **The feedback loop of a call settles.**  In every state of the orchestrator, the port and
the world behind the boundary, and for every event: an event given to the PAE asks the server
once at most, and a reply does not ask; the events that effects bring are replies; the events
given to the PAE are the first one and all of these, in order, whether the call fails or not,
and two at most; and any bound on their number from two on gives the same call as 64. -/
theorem feedback_loop_settles (deps : Deps ω) (w : World ω) (mac : MacAddr) (event : Event) :
    (∀ task w', .expand task w' ∈ callHistory deps mac event w →
      (w'.pae.handle task.1 task.2).2.countP (fun de => de.effect.isRequest) ≤ 1 ∧
        (task.2.IsReply →
          (w'.pae.handle task.1 task.2).2.countP (fun de => de.effect.isRequest) = 0)) ∧
    (∀ follow ∈ raised deps (callHistory deps mac event w), follow.2.IsReply) ∧
    fed (callHistory deps mac event w) =
      (mac, event) :: raised deps (callHistory deps mac event w) ∧
    (fed (callHistory deps mac event w)).length ≤ 2 ∧
    ∀ steps, 2 ≤ steps →
      (eventQueue deps).drain steps [(mac, event)] w = handleEvent deps mac event w := by
  have keeps := keeps_looping deps (mac, event)
  have start := looped_start deps (mac, event)
  have weight : queueWeight [(mac, event)] ≤ 2 := by
    rw [queueWeight_singleton]
    exact (taskWeight_bounds (mac, event)).2.1
  have falls : ∀ task rest queue (s : World ω × List (Moment ω)),
      Looping deps (mac, event) task [] queue s.2 → queueWeight queue < queueWeight (task :: rest) :=
    fun _ rest _ _ looping => looping.falls rest
  have settled : Looped deps (mac, event) [] (callHistory deps mac event w) := by
    have ended := keeps.drain_settles queueWeight_pos falls 64 [(mac, event)] (w, []) start
      (by omega) ((eventQueue deps).traced.drainsWithin_of_forall _ (fun _ _ _ => trivial) 64 _ _)
    unfold callHistory
    cases ran : (eventQueue deps).traced.drain 64 [(mac, event)] (w, []) with
    | mk outcome s =>
        rw [ran] at ended
        cases outcome <;> exact ended
  refine ⟨fun task w' _ => ?_, fun follow member => isReply_of_raised deps member, ?_, ?_, ?_⟩
  · exact w'.pae.handle_asks_once task.1 task.2
  · rw [settled.balanced, List.append_nil]
  · exact settled.few
  · intro steps enough
    have same : ∀ steps, 2 ≤ steps →
        (eventQueue deps).traced.drain steps [(mac, event)] (w, []) =
          (eventQueue deps).traced.drain 2 [(mac, event)] (w, []) :=
      fun steps => keeps.drain_longer queueWeight_pos falls 2 steps [(mac, event)] (w, []) start weight
    rw [handleEvent, (eventQueue deps).traced_drain steps [(mac, event)] (w, []), same steps enough,
      (eventQueue deps).traced_drain 64 [(mac, event)] (w, []), same 64 (by decide)]

end Loop

end Authenticator.Authd
