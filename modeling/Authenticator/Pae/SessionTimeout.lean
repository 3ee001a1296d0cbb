/-
# Pae.SessionTimeout -- the timer of the authorization in force

`authorize` arms Session-Timeout when the grant carries one, after cancelling every timer.
Nothing else arms it, and only a cancellation of all timers disarms it.  An authorization
that is replaced in place keeps the timer of the old one, and an expiry that finds the
session in a re-authentication is spent and ignored.

`sessionTimeout_mirrors_iff` says that these two are all that can part the timer from the
authorization, over every run.
-/
import Authenticator.Pae.SessionTimers

namespace Authenticator.Pae

set_option autoImplicit false

open Authenticator.Pacp Authenticator.Theory

/-- The session has an authorization with a Session-Timeout. -/
def PortSession.timed (s : PortSession) : Bool := s.authz.any fun a => a.sessionTimeout.isSome

/-- While accounting is open, the timer is armed exactly when the authorization asks for
it. -/
def Mirrors (q : PortSession × Finset TimerKind) : Prop :=
  q.1.accountingOpen = true → (.sessionTimeout ∈ q.2 ↔ q.1.timed = true)

/-- The event does not part them: no expiry outside `Authenticated` while accounting is
open, and no change in place that brings or drops the timeout. -/
def Undisturbed (q : PortSession × Finset TimerKind) (event : Event) : Prop :=
  (event = .timer .sessionTimeout → q.1.accountingOpen = true → q.1.state = .authenticated) ∧
    ∀ a, event = .coaAuthorize a → q.1.state = .authenticated →
      a.sessionTimeout.isSome = q.1.timed

/-- An effect that says nothing about the timer. -/
def Effect.SparesSessionTimeout : Effect → Prop
  | .armTimer kind | .cancelTimer kind => kind ≠ .sessionTimeout
  | .cancelAllTimers => False
  | _ => True

theorem mem_scheduled_of_spared {fx : List Effect}
    (spared : ∀ effect ∈ fx, effect.SparesSessionTimeout) (armed : Finset TimerKind) :
    .sessionTimeout ∈ scheduled armed fx ↔ .sessionTimeout ∈ armed := by
  induction fx generalizing armed with
  | nil => exact Iff.rfl
  | cons effect rest ih =>
      rw [scheduled_cons, ih fun later member => spared later (List.mem_cons_of_mem _ member)]
      have own := spared effect List.mem_cons_self
      cases effect with
      | armTimer kind => simp [Effect.schedule, Ne.symm (show kind ≠ .sessionTimeout from own)]
      | cancelTimer kind => simp [Effect.schedule, Ne.symm (show kind ≠ .sessionTimeout from own)]
      | cancelAllTimers => exact absurd own id
      | _ => exact Iff.rfl

namespace PortSession

variable {cfg : PaeConfig} {s : PortSession}

/-- The effects do not cancel the timer by itself. -/
abbrev NeverCancels (r : PortSession × List Effect) : Prop :=
  .cancelTimer .sessionTimeout ∉ r.2

theorem NeverCancels.after {fx : List Effect} {r : PortSession × List Effect}
    (first : .cancelTimer .sessionTimeout ∉ fx) (rest : NeverCancels r) :
    NeverCancels (after fx r) := by
  intro member
  rcases List.mem_append.mp member with inside | inside
  · exact first inside
  · exact rest inside

theorem neverCancels_sendIdentity : NeverCancels s.sendIdentity := by
  simp [NeverCancels, sendIdentity]

theorem neverCancels_teardown (cause : TerminateCause) : NeverCancels (s.teardown cause) := by
  unfold teardown
  split <;> simp [NeverCancels]

theorem neverCancels_beginReauth : NeverCancels s.beginReauth :=
  .after (by simp) neverCancels_sendIdentity

theorem neverCancels_noSupplicant : NeverCancels (s.noSupplicant cfg) := by
  unfold noSupplicant
  split
  · exact neverCancels_teardown _
  · split
    · simp [NeverCancels]
    · split <;> simp [NeverCancels, enterFallback, hold]

theorem neverCancels_reject (eap : Option Bytes) : NeverCancels (s.reject eap cfg) := by
  refine NeverCancels.after ?_ ?_
  · cases eap <;> simp
  · split
    · exact neverCancels_teardown _
    · split <;> simp [NeverCancels, enterFallback, hold]

theorem neverCancels_serverUnreachable : NeverCancels (s.serverUnreachable cfg) := by
  unfold serverUnreachable
  split
  · simp [NeverCancels]
  · split <;> simp [NeverCancels, enterFallback, hold]

theorem neverCancels_inConnecting (event : Event) : NeverCancels (s.inConnecting event cfg) := by
  unfold inConnecting
  split
  · exact neverCancels_sendIdentity
  · exact neverCancels_sendIdentity
  · split
    · exact neverCancels_sendIdentity
    · exact neverCancels_noSupplicant
  · split <;> simp [NeverCancels]
  · exact neverCancels_teardown _
  · simp [NeverCancels]

theorem neverCancels_inAuthServer (event : Event) : NeverCancels (s.inAuthServer event cfg) := by
  unfold inAuthServer
  split
  · simp [NeverCancels]
  · rename_i a eap
    cases eap <;> simp [NeverCancels, authorize]
  · exact neverCancels_reject _
  · exact neverCancels_serverUnreachable
  · exact neverCancels_serverUnreachable
  · exact neverCancels_teardown _
  · simp [NeverCancels]

theorem neverCancels_inAuthenticating (event : Event) :
    NeverCancels (s.inAuthenticating event) := by
  unfold inAuthenticating
  split
  · split <;> simp [NeverCancels]
  · split
    · exact neverCancels_teardown _
    · simp [NeverCancels, hold]
  · exact .after (by simp) neverCancels_sendIdentity
  · exact neverCancels_teardown _
  · simp [NeverCancels]

theorem neverCancels_inAuthenticated (event : Event) : NeverCancels (s.inAuthenticated event) := by
  unfold inAuthenticated
  split
  · exact neverCancels_beginReauth
  · exact neverCancels_beginReauth
  · exact neverCancels_teardown _
  · exact .after (neverCancels_teardown _) neverCancels_sendIdentity
  · simp [NeverCancels]

/-- No handler cancels the timer on its own. -/
theorem neverCancels_step (cfg : PaeConfig) (s : PortSession) (event : Event) :
    NeverCancels (s.step event cfg) := by
  unfold step
  split
  · exact neverCancels_teardown _
  · exact neverCancels_teardown _
  · unfold coaAuthorize
    split <;> simp [NeverCancels]
  · split
    · exact neverCancels_beginReauth
    · simp [NeverCancels]
  · exact .after (by simp) neverCancels_sendIdentity
  · split
    · exact neverCancels_inConnecting _
    · exact neverCancels_inAuthServer _
    · exact neverCancels_inAuthenticating _
    · exact neverCancels_inAuthenticated _
    · unfold inHeld
      split
      · exact .after (by simp) neverCancels_sendIdentity
      · exact .after (by simp) neverCancels_sendIdentity
      · simp [NeverCancels]
    · unfold inFallback
      split
      · exact neverCancels_sendIdentity
      · split
        · exact neverCancels_sendIdentity
        · simp [NeverCancels]
      · simp [NeverCancels]
    · simp [NeverCancels]

end PortSession

section Step

variable {cfg : PaeConfig} {s : PortSession} {armed : Finset TimerKind} {event : Event}

/-- Only the expiry itself takes the timer out of the armed set. -/
theorem mem_expire_of_ne (other : event ≠ .timer .sessionTimeout) :
    .sessionTimeout ∈ event.expire armed ↔ .sessionTimeout ∈ armed := by
  cases event with
  | timer kind =>
      have apart : .sessionTimeout ≠ kind := by
        rintro rfl
        exact other rfl
      simp [Event.expire, apart]
  | _ => exact Iff.rfl

/-- Effects that spare the timer, on a session that keeps its authorization. -/
theorem Mirrors.spared {s' : PortSession} {fx : List Effect} (held : Mirrors (s, armed))
    (other : event ≠ .timer .sessionTimeout)
    (spared : ∀ effect ∈ fx, effect.SparesSessionTimeout)
    (accounting : s'.accountingOpen = s.accountingOpen) (authz : s'.authz = s.authz) :
    Mirrors (s', scheduled (event.expire armed) fx) := by
  intro opened
  rw [mem_scheduled_of_spared spared, mem_expire_of_ne other]
  have same : s'.timed = s.timed := by rw [PortSession.timed, PortSession.timed, authz]
  rw [same]
  exact held (accounting.symm.trans opened)

/-- A session that is closed after the step. -/
theorem Mirrors.closed (shut : s.accountingOpen = false) : Mirrors (s, armed) := by
  intro opened
  rw [shut] at opened
  cases opened

/-- Every other event keeps the timer and the authorization together. -/
theorem mirrors_step (held : Mirrors (s, armed)) (other : event ≠ .timer .sessionTimeout)
    (inPlace : ∀ a, event = .coaAuthorize a → s.state ≠ .authenticated) :
    Mirrors ((s.step event cfg).1, scheduled (event.expire armed) (s.step event cfg).2) := by
  have moved := PortSession.step_transition cfg s event
  have cancels := PortSession.neverCancels_step cfg s event
  unfold PortSession.NeverCancels at cancels
  generalize (s.step event cfg).1 = s', (s.step event cfg).2 = fx at moved cancels ⊢
  cases moved with
  | ignored => exact held.spared other (by simp) rfl rfl
  | enabled => exact .closed rfl
  | solicited _ count cancel idle free known silent =>
      refine held.spared other ?_ rfl rfl
      rcases known with rfl | ⟨kind, -, rfl⟩
      · simp [Effect.SparesSessionTimeout]
      · have apart : kind ≠ .sessionTimeout := by
          rintro rfl
          exact cancels (by simp)
        simpa [Effect.SparesSessionTimeout] using apart
  | relayed eap kind auth waiting soliciting =>
      refine held.spared other ?_ rfl rfl
      have apart : kind ≠ .sessionTimeout := by
        rintro rfl
        exact cancels (by simp)
      simpa [Effect.SparesSessionTimeout] using apart
  | bypassed soliciting shut => exact .closed shut
  | challenged eap asked => exact held.spared other (by simp [Effect.SparesSessionTimeout]) rfl rfl
  | authorized a eap asked =>
      intro _
      simp only [PortSession.authorize, PortSession.timed, Option.any_some, scheduled_append,
        scheduled_cons, scheduled_nil, Effect.schedule]
      cases a.sessionTimeout <;> cases s.accountingOpen <;> cases cfg.reauthEnabled <;>
        simp [Effect.schedule]
  | survived _ asked opened silent =>
      refine held.spared other ?_ rfl rfl
      cases cfg.reauthEnabled <;> simp [Effect.SparesSessionTimeout]
  | fellBack _ reason vlan eap live shut configured silent => exact .closed shut
  | held _ eap live shut silent => exact .closed shut
  | coaAuthorized a running => exact absurd running (inPlace a rfl)
  | tornDown _ cause eap live silent =>
      rw [(s.teardown_live cause live).1]
      exact .closed rfl
  | expired running => exact absurd rfl other

/-- The expiry outside `Authenticated` is spent and ignored. -/
theorem mirrors_expiry_iff (inv : ∃ posture, PostureInv cfg s posture) (held : Mirrors (s, armed))
    (delivered : .sessionTimeout ∈ armed) :
    Mirrors ((s.step (.timer .sessionTimeout) cfg).1,
        scheduled (armed.erase .sessionTimeout) (s.step (.timer .sessionTimeout) cfg).2) ↔
      (s.accountingOpen = true → s.state = .authenticated) := by
  obtain ⟨posture, inv⟩ := inv
  by_cases running : s.state = .authenticated
  · have shut := (PortSession.step_sessionTimeout_running cfg running (inv.running running)).1
    exact ⟨fun _ _ => running, fun _ => .closed shut⟩
  · rw [PortSession.step_sessionTimeout_ignored running]
    constructor
    · intro after opened
      have timed := (held opened).mp delivered
      have spent := (after opened).mpr timed
      simp at spent
    · intro shut opened
      exact absurd (shut opened) running

/-- A change in place keeps the timer as it is. -/
theorem mirrors_inPlace_iff (inv : ∃ posture, PostureInv cfg s posture) (held : Mirrors (s, armed))
    (running : s.state = .authenticated) (a : Authorization) :
    Mirrors ((s.step (.coaAuthorize a) cfg).1,
        scheduled armed (s.step (.coaAuthorize a) cfg).2) ↔
      a.sessionTimeout.isSome = s.timed := by
  obtain ⟨posture, inv⟩ := inv
  have opened := inv.running running
  rw [PortSession.step_coaAuthorize_running cfg a running]
  have timer := held opened
  constructor
  · intro after
    have timed : .sessionTimeout ∈ armed ↔ a.sessionTimeout.isSome = true := after opened
    rw [Bool.eq_iff_iff, ← timed]
    exact timer
  · intro same _
    show .sessionTimeout ∈ armed ↔ a.sessionTimeout.isSome = true
    rw [same]
    exact timer

end Step

/-- **One event** keeps the timer and the authorization together if and only if it is
undisturbed. -/
theorem mirrors_watch_iff {cfg : PaeConfig} {q : PortSession × Finset TimerKind} {event : Event}
    (inv : ∃ posture, PostureInv cfg q.1 posture) (held : Mirrors q)
    (delivered : OnlyArmedExpire q event) :
    Mirrors ((sessionMachine cfg).watch timerObserver q event) ↔ Undisturbed q event := by
  obtain ⟨s, armed⟩ := q
  by_cases expiry : event = .timer .sessionTimeout
  · subst expiry
    have spent := mirrors_expiry_iff inv held (delivered _ rfl)
    refine spent.trans ⟨fun shut => ⟨fun _ => shut, by simp⟩, fun free => free.1 rfl⟩
  · by_cases change : ∃ a, event = .coaAuthorize a ∧ s.state = .authenticated
    · obtain ⟨a, rfl, running⟩ := change
      refine (mirrors_inPlace_iff inv held running a).trans ⟨fun same => ⟨by simp, ?_⟩, fun free => ?_⟩
      · rintro b ⟨⟩ _
        exact same
      · exact free.2 a rfl running
    · have inPlace : ∀ a, event = .coaAuthorize a → s.state ≠ .authenticated :=
        fun a same running => change ⟨a, same, running⟩
      have kept : Mirrors ((sessionMachine cfg).watch timerObserver (s, armed) event) :=
        mirrors_step held expiry inPlace
      refine ⟨fun _ => ⟨fun same => absurd same expiry, ?_⟩, fun _ => kept⟩
      intro a same running
      exact absurd running (inPlace a same)

/-- The runs in which nothing parts the timer from the authorization. -/
def UndisturbedRun (cfg : PaeConfig) (mac : MacAddr) (events : List Event) : Prop :=
  (sessionMachine cfg).Admits timerObserver Undisturbed (PortSession.new mac, ∅) events

/-- **The Session-Timeout timer mirrors the authorization in force** after every prefix of a
run, if and only if no expiry is delivered to a re-authentication in progress and no change
of authorization in place brings or drops the timeout. -/
theorem sessionTimeout_mirrors_iff (cfg : PaeConfig) (mac : MacAddr) (events : List Event)
    (timely : TimelyRun cfg mac events) :
    (∀ before, before <+: events → Mirrors (timerRun cfg mac before)) ↔
      UndisturbedRun cfg mac events := by
  have fresh : Mirrors (PortSession.new mac, ∅) := .closed rfl
  have start := PostureInv.new cfg mac
  let inv : PortSession × Finset TimerKind → Prop := fun q =>
    (∃ posture, PostureInv cfg q.1 posture) ∧ Mirrors q
  have same : ∀ q event, inv q → True →
      (OnlyArmedExpire q event ∧ Mirrors ((sessionMachine cfg).watch timerObserver q event) ↔
        OnlyArmedExpire q event ∧ Undisturbed q event) :=
    fun q event held _ => and_congr_right fun delivered =>
      mirrors_watch_iff held.1 held.2 delivered
  have keeps : ∀ q event, inv q → True →
      OnlyArmedExpire q event ∧ Mirrors ((sessionMachine cfg).watch timerObserver q event) →
      inv ((sessionMachine cfg).watch timerObserver q event) := by
    rintro q event ⟨⟨posture, held⟩, -⟩ - ⟨-, mirrors⟩
    exact ⟨⟨_, PortSession.postureInv_step held event⟩, mirrors⟩
  have both := (sessionMachine cfg).admits_congr timerObserver same keeps ⟨⟨none, start⟩, fresh⟩
    events fun _ _ => trivial
  rw [Transducer.admits_and, Transducer.admits_and, and_congr_right_iff] at both
  exact (Transducer.forall_prefix_iff _ _).trans ((and_iff_right fresh).trans (both timely))

/-- A login whose grant is then changed in place. -/
def changedInPlace (granted changed : Authorization) : List Event :=
  [.enable, .eapFromSupplicant ⟨.response, 1, some .identity, [2, 1, 0, 6, 1, 97]⟩,
    .accessAccept granted none, .coaAuthorize changed]

theorem changedInPlace_timely (granted changed : Authorization) :
    TimelyRun {} (Vector.replicate 6 1) (changedInPlace granted changed) := by
  refine ⟨?_, ?_, ?_, ?_, trivial⟩ <;> rintro kind ⟨⟩

/-- A change of VLAN in place that keeps the timeout. -/
theorem sessionTimeout_mirrors_moved :
    let events := changedInPlace { sessionTimeout := some 3600 }
      { vlan := some "7", sessionTimeout := some 3600 }
    TimelyRun {} (Vector.replicate 6 1) events ∧
      ∀ before, before <+: events → Mirrors (timerRun {} (Vector.replicate 6 1) before) := by
  intro events
  have timely : TimelyRun {} (Vector.replicate 6 1) events := changedInPlace_timely _ _
  refine ⟨timely, (sessionTimeout_mirrors_iff {} _ events timely).mpr ⟨?_, ?_, ?_, ?_, trivial⟩⟩
  · exact ⟨by rintro ⟨⟩, by rintro a ⟨⟩⟩
  · exact ⟨by rintro ⟨⟩, by rintro a ⟨⟩⟩
  · exact ⟨by rintro ⟨⟩, by rintro a ⟨⟩⟩
  · refine ⟨by rintro ⟨⟩, ?_⟩
    rintro a ⟨⟩ _
    rfl

/-- A change in place that brings a one-minute timeout arms nothing. -/
theorem sessionTimeout_not_armed_in_place :
    ¬ ∀ (cfg : PaeConfig) (mac : MacAddr) (events : List Event), TimelyRun cfg mac events →
      ∀ before, before <+: events → Mirrors (timerRun cfg mac before) := by
  intro claim
  have mirrors := claim {} (Vector.replicate 6 1) (changedInPlace {} { sessionTimeout := some 60 })
    (changedInPlace_timely _ _) _ List.prefix_rfl (by decide)
  revert mirrors
  decide

end Authenticator.Pae
