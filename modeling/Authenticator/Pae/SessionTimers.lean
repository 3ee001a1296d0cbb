/-
# Pae.SessionTimers -- every waiting state has its guard timer armed

The scheduler is a set of armed timer kinds: `ArmTimer` inserts, `CancelTimer`
removes, `CancelAllTimers` clears, and an expiry is delivered only for an armed
kind and removes it.  Under that discipline `GuardTimers` holds after every run:
no session waits for something that nothing will ever report.
-/
import Mathlib.Data.Finset.Basic
import Authenticator.Theory.Transducer
import Authenticator.Pae.SessionPosture

namespace Authenticator.Pae

set_option autoImplicit false

open Authenticator.Pacp Authenticator.Theory

/-- The armed set an effect leaves. -/
def Effect.schedule (armed : Finset TimerKind) : Effect → Finset TimerKind
  | .armTimer kind => insert kind armed
  | .cancelTimer kind => armed.erase kind
  | .cancelAllTimers => ∅
  | _ => armed

/-- A delivered expiry has left the armed set. -/
def Event.expire (armed : Finset TimerKind) : Event → Finset TimerKind
  | .timer kind => armed.erase kind
  | _ => armed

def timerObserver : Observer Event Effect (Finset TimerKind) where
  hear := Event.expire
  see := Effect.schedule

/-- Expiries are delivered only for armed timers; every other event is free. -/
def OnlyArmedExpire (p : PortSession × Finset TimerKind) (event : Event) : Prop :=
  ∀ kind, event = .timer kind → kind ∈ p.2

/-- The timers each state relies on. -/
def GuardTimers (cfg : PaeConfig) (s : PortSession) (armed : Finset TimerKind) : Prop :=
  match s.state with
  | .connecting => .txPeriod ∈ armed
  | .authServer => .serverTimeout ∈ armed
  | .authenticating => .suppTimeout ∈ armed
  | .authenticated => cfg.reauthEnabled = true → .reauth ∈ armed
  | .held => armed = {.held}
  | .fallback .critical => armed = {.serverTimeout}
  | .fallback .guest | .fallback .authFail | .new => armed = ∅

section Scheduled

variable (armed : Finset TimerKind)

/-- The armed set after a list of effects. -/
def scheduled (fx : List Effect) : Finset TimerKind := fx.foldl Effect.schedule armed

@[simp] theorem scheduled_nil : scheduled armed [] = armed := rfl

@[simp] theorem scheduled_cons (fx : Effect) (rest : List Effect) :
    scheduled armed (fx :: rest) = scheduled (fx.schedule armed) rest := rfl

@[simp] theorem scheduled_append (first second : List Effect) :
    scheduled armed (first ++ second) = scheduled (scheduled armed first) second :=
  List.foldl_append

end Scheduled

/-- The guard timer of a state survives every event the state ignores. -/
theorem guardTimers_ignored {cfg : PaeConfig} {s : PortSession} {armed : Finset TimerKind}
    {event : Event} (inv : GuardTimers cfg s armed) (delivered : OnlyArmedExpire (s, armed) event)
    (unguarded : ∀ kind, s.state.guardTimer = some kind → event ≠ .timer kind) :
    GuardTimers cfg s (event.expire armed) := by
  cases event with
  | timer kind =>
      have present : kind ∈ armed := delivered kind rfl
      have spared : ∀ guard, s.state.guardTimer = some guard → guard ≠ kind :=
        fun guard known same => unguarded guard known (by rw [same])
      unfold GuardTimers at inv ⊢
      revert inv spared
      cases s.state with
      | fallback reason =>
          cases reason <;> intro inv spared <;> simp_all [State.guardTimer]
      | _ => intro inv spared; simp_all [State.guardTimer, Event.expire]
  | _ => exact inv

/-- **The step lemma of the timers.** -/
theorem guardTimers_step {cfg : PaeConfig} {s : PortSession} {armed : Finset TimerKind}
    {event : Event} (inv : GuardTimers cfg s armed)
    (delivered : OnlyArmedExpire (s, armed) event) :
    GuardTimers cfg (s.step event cfg).1
      (scheduled (event.expire armed) (s.step event cfg).2) := by
  have moved := PortSession.step_transition cfg s event
  generalize (s.step event cfg).1 = s', (s.step event cfg).2 = fx at moved
  cases moved with
  | ignored _ unguarded noGrant => exact guardTimers_ignored inv delivered unguarded
  | enabled =>
      simp [PortSession.enable, PortSession.after, PortSession.sendIdentity, GuardTimers,
        Effect.schedule]
  | solicited _ count cancel idle free cancels silent =>
      simp [GuardTimers, Effect.schedule]
  | relayed => simp [GuardTimers, Effect.schedule]
  | bypassed => simp [GuardTimers, Effect.schedule]
  | challenged => simp [GuardTimers, Effect.schedule]
  | authorized a eap asked =>
      intro enabled
      simp only [PortSession.authorize, enabled, if_true, scheduled_append, scheduled_cons,
        scheduled_nil, Effect.schedule]
      split <;> split <;> simp [Effect.schedule]
  | survived _ asked opened silent =>
      intro enabled
      simp [enabled, Effect.schedule]
  | fellBack _ reason vlan eap live closed configured silent =>
      cases reason <;> simp [GuardTimers, Effect.schedule]
  | held _ eap live closed silent =>
      simp [GuardTimers, Effect.schedule]
  | coaAuthorized a running => exact inv
  | tornDown _ cause eap live silent =>
      obtain ⟨session, effects⟩ := s.teardown_live cause live
      rw [session, effects]
      simp [GuardTimers, Effect.schedule]
  | expired running =>
      simp [GuardTimers, Effect.schedule]

/-- A step that leaves a session waiting for the server leaves its timer armed, also when
expiries come that were never armed. -/
theorem serverTimeout_step {cfg : PaeConfig} {s : PortSession} {armed : Finset TimerKind}
    {event : Event}
    (guarded : s.state = .authServer → event ≠ .timer .serverTimeout → .serverTimeout ∈ armed)
    (waiting : (s.step event cfg).1.state = .authServer) :
    .serverTimeout ∈ scheduled armed (s.step event cfg).2 := by
  have moved := PortSession.step_transition cfg s event
  generalize (s.step event cfg).1 = s', (s.step event cfg).2 = fx at moved waiting
  cases moved with
  | ignored _ unguarded noGrant =>
      exact guarded waiting (unguarded .serverTimeout (by rw [waiting]; rfl))
  | relayed => simp [Effect.schedule]
  | bypassed => simp [Effect.schedule]
  | coaAuthorized a running =>
      have waiting : s.state = .authServer := waiting
      rw [running] at waiting
      cases waiting
  | tornDown _ cause eap live silent =>
      rw [(s.teardown_live cause live).1] at waiting
      cases waiting
  | _ => cases waiting

/-- The session and the armed set a list of events leads to, from a new session. -/
def timerRun (cfg : PaeConfig) (mac : MacAddr) (events : List Event) :
    PortSession × Finset TimerKind :=
  (sessionMachine cfg).watchAll timerObserver (PortSession.new mac, ∅) events

/-- The runs in which expiries are delivered only for armed timers. -/
def TimelyRun (cfg : PaeConfig) (mac : MacAddr) (events : List Event) : Prop :=
  (sessionMachine cfg).Admits timerObserver OnlyArmedExpire (PortSession.new mac, ∅) events

/-- **No waiting state is ever left without its guard timer.** -/
theorem guardTimers_run (cfg : PaeConfig) (mac : MacAddr) (events : List Event)
    (timely : TimelyRun cfg mac events) :
    GuardTimers cfg (timerRun cfg mac events).1 (timerRun cfg mac events).2 := by
  let inv : PortSession × Finset TimerKind → Prop := fun p => GuardTimers cfg p.1 p.2
  have keeps : ∀ p event, inv p → OnlyArmedExpire p event →
      inv ((sessionMachine cfg).watch timerObserver p event) :=
    fun _ _ held delivered => guardTimers_step held delivered
  have start : inv (PortSession.new mac, ∅) := rfl
  exact (sessionMachine cfg).watchAll_invariant timerObserver keeps start events timely

/-- A silent endpoint is prompted again and then held, each time on its own timer. -/
theorem guardTimers_run_silent :
    TimelyRun {} #v[0, 1, 2, 3, 4, 5] [.enable, .timer .txPeriod, .timer .txPeriod] ∧
      GuardTimers {}
        (timerRun {} #v[0, 1, 2, 3, 4, 5] [.enable, .timer .txPeriod, .timer .txPeriod]).1
        (timerRun {} #v[0, 1, 2, 3, 4, 5] [.enable, .timer .txPeriod, .timer .txPeriod]).2 := by
  have timely : TimelyRun {} #v[0, 1, 2, 3, 4, 5] [.enable, .timer .txPeriod, .timer .txPeriod] := by
    refine ⟨?_, ?_, ?_, trivial⟩ <;> intro kind same <;> cases same <;> decide
  exact ⟨timely, guardTimers_run _ _ _ timely⟩

end Authenticator.Pae
