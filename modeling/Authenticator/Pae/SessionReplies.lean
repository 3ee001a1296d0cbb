/-
# Pae.SessionReplies -- replies are consumed once, and only when solicited

A session waits for the server exactly in `AuthServer`.  Three facts about every run of
`PortSession.step` from a new session, with events in any order:

* the requests emitted, less the times the session left `AuthServer`, are one while it
  waits and none otherwise (`requests_step`, by `Transition`);
* a server reply in another state is dropped (`step_reply_dropped`);
* a grant answers an Access-Accept that ended such a wait, or is a CoA on a session that
  was granted before and has been neither torn down, enabled nor held since
  (`granted_before`, the invariant of the trace: open accounting has a grant behind it).

`replies_solicited` puts them together.
-/
import Mathlib.Data.List.Induction
import Authenticator.Theory.Since
import Authenticator.Pae.PortEffects

namespace Authenticator.Pae

set_option autoImplicit false

open Authenticator.Pacp Authenticator.Theory

/-- The events that end a RADIUS round-trip: a reply, or word that there will be none. -/
def Event.IsServerReply : Event → Prop
  | .accessChallenge _ | .accessAccept _ _ | .accessReject _ | .serverUnreachable => True
  | _ => False

namespace PortSession

variable {cfg : PaeConfig} {s : PortSession} {event : Event}

/-- One request is outstanding in `AuthServer`, none elsewhere. -/
def outstanding (s : PortSession) : Nat := if s.state = .authServer then 1 else 0

/-- The event takes the session out of `AuthServer`. -/
def Leaves (cfg : PaeConfig) (s : PortSession) (event : Event) : Prop :=
  s.state = .authServer ∧ (s.step event cfg).1.state ≠ .authServer

instance : Decidable (Leaves cfg s event) := inferInstanceAs (Decidable (_ ∧ _))

/-- How often a list of events takes the session out of `AuthServer`. -/
def leavings (cfg : PaeConfig) : PortSession → List Event → Nat
  | _, [] => 0
  | s, event :: rest =>
      (if Leaves cfg s event then 1 else 0) + leavings cfg (s.step event cfg).1 rest

/-! ## Counting the requests -/

theorem requests_transition {s' : PortSession} {fx : List Effect}
    (moved : Transition cfg s event s' fx) :
    (fx.filter Effect.isRequest).length + s.outstanding =
      (if s.state = .authServer ∧ s'.state ≠ .authServer then 1 else 0) + s'.outstanding := by
  rcases moved.asks with ⟨rfl, rfl⟩ | ⟨quiet, idle⟩ | ⟨kind, request, asks, free, waiting, rfl⟩
  · simp [outstanding]
  · simp [quiet, outstanding, idle]
  · have asked : [.cancelTimer kind, request, .armTimer .serverTimeout].filter Effect.isRequest =
        [request] := by
      show [request, .armTimer .serverTimeout].filter Effect.isRequest = [request]
      rw [List.filter_cons_of_pos asks.isRequest]
      rfl
    simp [asked, outstanding, free, waiting]

/-- **The step lemma of the requests.** -/
theorem requests_step (cfg : PaeConfig) (s : PortSession) (event : Event) :
    ((s.step event cfg).2.filter Effect.isRequest).length + s.outstanding =
      (if Leaves cfg s event then 1 else 0) + (s.step event cfg).1.outstanding :=
  requests_transition (step_transition cfg s event)

theorem requests_run (cfg : PaeConfig) (events : List Event) (s : PortSession) :
    ((((sessionMachine cfg).run s events).2.filter Effect.isRequest).length) + s.outstanding =
      leavings cfg s events + ((sessionMachine cfg).run s events).1.outstanding := by
  induction events generalizing s with
  | nil => rfl
  | cons event rest ih =>
      have here := requests_step cfg s event
      have later := ih (s.step event cfg).1
      show (((s.step event cfg).2 ++ _).filter _).length + _ = (_ + _) + _
      rw [List.filter_append, List.length_append]
      show _ + (((sessionMachine cfg).run (s.step event cfg).1 rest).2.filter _).length + _ =
        _ + leavings cfg (s.step event cfg).1 rest +
          ((sessionMachine cfg).run (s.step event cfg).1 rest).1.outstanding
      omega

/-! ## Unsolicited replies -/

/-- A server reply in a state that waits for none is dropped. -/
theorem step_reply_dropped (reply : event.IsServerReply) (idle : s.state ≠ .authServer) :
    s.step event cfg = (s, []) := by
  have reply : (∃ eap, event = .accessChallenge eap) ∨ (∃ a eap, event = .accessAccept a eap) ∨
      (∃ eap, event = .accessReject eap) ∨ event = .serverUnreachable := by
    cases event <;> simp_all [Event.IsServerReply]
  rcases reply with ⟨eap, rfl⟩ | ⟨a, eap, rfl⟩ | ⟨eap, rfl⟩ | rfl <;>
    cases state : s.state <;>
      first
      | exact absurd state idle
      | simp [step, state, inConnecting, inAuthenticating, inAuthenticated, inHeld, inFallback]

/-! ## Grants -/

/-- An Access-Accept that ends the wait for it and opens the session. -/
def Grants (cfg : PaeConfig) (s : PortSession) (event : Event) (a : Authorization) : Prop :=
  (∃ eap, event = .accessAccept a eap) ∧ s.state = .authServer ∧
    (s.step event cfg).1.state = .authenticated

/-- The event enables the session, tears it down or puts it on hold. -/
def Interrupts (cfg : PaeConfig) (s : PortSession) (event : Event) : Prop :=
  event = .enable ∨ (s.step event cfg).1.state = .new ∨ (s.step event cfg).1.state = .held ∨
    .setAuthorization .unauthorized ∈ (s.step event cfg).2

theorem grants_of_accept {a : Authorization} {eap : Option Bytes} (asked : s.state = .authServer) :
    Grants cfg s (.accessAccept a eap) a :=
  ⟨⟨eap, rfl⟩, asked, by simp [step, asked, inAuthServer, authorize]⟩

/-- A session that comes out of an event with open accounting was not interrupted. -/
theorem uninterrupted_of_open {posture : Option PortAuthorization}
    (inv : PostureInv cfg s posture) (isOpen : (s.step event cfg).1.accountingOpen = true) :
    ¬ Interrupts cfg s event := by
  have later := postureInv_step inv event
  have closed : ∀ {t : PortSession}, t.accountingOpen = false → ¬ t.accountingOpen = true := by
    intro t shut
    simp [shut]
  have moved := step_transition cfg s event
  rintro (rfl | gone | held | shut)
  · cases isOpen
  · refine closed (later.closed_of_unauthorized ?_) isOpen
    rcases later.fresh gone with none | some
    · simp [none]
    · simp [some]
  · exact closed (later.closed_of_held held) isOpen
  · generalize (s.step event cfg).1 = s', (s.step event cfg).2 = fx at moved isOpen shut
    cases moved with
    | enabled => cases isOpen
    | authorized a eap asked =>
        cases eap <;> simp [authorize] at shut
    | held _ eap live shutBefore silent => exact closed shutBefore isOpen
    | fellBack _ reason vlan eap live shutBefore configured silent => exact closed shutBefore isOpen
    | solicited _ count cancel idle free cancels silent =>
        rcases cancels with rfl | ⟨kind, -, rfl⟩ <;> simp at shut
    | survived _ asked opened silent =>
        cases enabled : cfg.reauthEnabled <;> simp [enabled] at shut
    | tornDown _ cause eap live silent =>
        rw [(s.teardown_live cause live).1] at isOpen
        cases isOpen
    | expired running =>
        rw [(s.teardown_live .sessionTimeout (by simp [running])).1] at isOpen
        cases isOpen
    | _ => simp at shut

/-- What a grant step needs: an accepted request, or a CoA on a running session. -/
theorem granted_step {a : Authorization}
    (granted : .setAuthorization (.authorized a) ∈ (s.step event cfg).2) :
    Grants cfg s event a ∨ (event = .coaAuthorize a ∧ s.state = .authenticated) := by
  have member : a ∈ (s.step event cfg).2.filterMap Effect.grant :=
    List.mem_filterMap.mpr ⟨_, granted, rfl⟩
  rcases (step_outputs cfg s event).grants with none | ⟨b, one, origin⟩
  · rw [none] at member
    cases member
  · rw [one, List.mem_singleton] at member
    subst member
    rcases origin with ⟨eap, rfl⟩ | rfl
    · by_cases asked : s.state = .authServer
      · exact Or.inl (grants_of_accept asked)
      · have reply : (Event.accessAccept a eap).IsServerReply := trivial
        rw [step_reply_dropped reply asked] at granted
        cases granted
    · by_cases running : s.state = .authenticated
      · exact Or.inr ⟨rfl, running⟩
      · rw [step_coaAuthorize_dropped cfg a running] at granted
        cases granted

end PortSession

open PortSession

/-- The session a list of events leads to, from a new session. -/
def sessionAfter (cfg : PaeConfig) (mac : MacAddr) (events : List Event) : PortSession :=
  ((sessionMachine cfg).run (.new mac) events).1

theorem sessionAfter_concat (cfg : PaeConfig) (mac : MacAddr) (events : List Event)
    (event : Event) :
    sessionAfter cfg mac (events ++ [event]) = ((sessionAfter cfg mac events).step event cfg).1 := by
  unfold sessionAfter
  rw [Transducer.run_concat]
  rfl

/-- Some event of the past granted the session, and none has interrupted it since. -/
def GrantedBefore (cfg : PaeConfig) (mac : MacAddr) (events : List Event) : Prop :=
  Since (fun before event => ∃ a, Grants cfg (sessionAfter cfg mac before) event a)
    (fun before event => Interrupts cfg (sessionAfter cfg mac before) event) events

theorem exists_posture (cfg : PaeConfig) (mac : MacAddr) (events : List Event) :
    ∃ posture, PostureInv cfg (sessionAfter cfg mac events) posture := by
  let inv : PortSession → Prop := fun s => ∃ posture, PostureInv cfg s posture
  have keeps : ∀ s event, inv s → inv ((sessionMachine cfg).step s event).1 := by
    rintro s event ⟨posture, held⟩
    exact ⟨_, postureInv_step held event⟩
  exact (sessionMachine cfg).run_invariant keeps ⟨none, PostureInv.new cfg mac⟩ events

/-- **The invariant of the trace**: open accounting has a grant behind it that nothing has
interrupted. -/
theorem granted_before (cfg : PaeConfig) (mac : MacAddr) (events : List Event)
    (isOpen : (sessionAfter cfg mac events).accountingOpen = true) :
    GrantedBefore cfg mac events := by
  induction events using List.reverseRecOn with
  | nil => cases isOpen
  | append_singleton events event ih =>
      rw [sessionAfter_concat] at isOpen
      obtain ⟨posture, inv⟩ := exists_posture cfg mac events
      refine since_concat.mpr ?_
      cases wasOpen : (sessionAfter cfg mac events).accountingOpen with
      | true => exact Or.inr ⟨ih wasOpen, uninterrupted_of_open inv isOpen⟩
      | false =>
          -- only an Access-Accept that found the session waiting opens it
          have accepted : ∃ a eap, event = .accessAccept a eap := by
            by_contra silent
            push Not at silent
            rw [accountingOpen_step wasOpen silent] at isOpen
            cases isOpen
          obtain ⟨a, eap, rfl⟩ := accepted
          have asked : (sessionAfter cfg mac events).state = .authServer := by
            by_contra idle
            have reply : (Event.accessAccept a eap).IsServerReply := trivial
            rw [step_reply_dropped reply idle, wasOpen] at isOpen
            cases isOpen
          exact Or.inl ⟨a, grants_of_accept asked⟩

/-- **Replies are consumed at most once and only when solicited.** -/
theorem replies_solicited (cfg : PaeConfig) (mac : MacAddr) :
    (∀ events, (((sessionMachine cfg).run (.new mac) events).2.filter Effect.isRequest).length -
        (leavings cfg (.new mac) events : Int) =
      if (sessionAfter cfg mac events).state = .authServer then 1 else 0) ∧
    (∀ events event, event.IsServerReply → (sessionAfter cfg mac events).state ≠ .authServer →
      (sessionAfter cfg mac events).step event cfg = (sessionAfter cfg mac events, [])) ∧
    ∀ events event a,
      .setAuthorization (.authorized a) ∈ ((sessionAfter cfg mac events).step event cfg).2 →
        Grants cfg (sessionAfter cfg mac events) event a ∨
          (event = .coaAuthorize a ∧ (sessionAfter cfg mac events).state = .authenticated ∧
            GrantedBefore cfg mac events) := by
  refine ⟨?_, ?_, ?_⟩
  · intro events
    have counted := requests_run cfg events (.new mac)
    have fresh : (PortSession.new mac).outstanding = 0 := rfl
    have final : ((sessionMachine cfg).run (.new mac) events).1.outstanding =
        if (sessionAfter cfg mac events).state = .authServer then 1 else 0 := rfl
    rw [fresh, final] at counted
    split at counted <;> rename_i state <;> simp only [state, if_true, if_false] <;> omega
  · intro events event reply idle
    exact step_reply_dropped reply idle
  · intro events event a granted
    rcases granted_step granted with accepted | ⟨coa, running⟩
    · exact Or.inl accepted
    · obtain ⟨posture, inv⟩ := exists_posture cfg mac events
      exact Or.inr ⟨coa, running, granted_before cfg mac events (inv.running running)⟩

end Authenticator.Pae
