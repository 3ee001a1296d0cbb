/-
# Pae.Reject -- where an Access-Reject leads

A session is rejected for its credentials or, when it was tried by its address, for that.
`reject` does not tell the two apart: it parks the port on the auth-fail VLAN or holds it,
so that the guest VLAN, which is for endpoints without a supplicant and without MAB
success, is never entered once MAB is enabled.

The outstanding request is the last one the session asked for; `reject_routed_iff` says
over all runs when its kind decides the VLAN.
-/
import Authenticator.Pae.PortEffects

namespace Authenticator.Pae

set_option autoImplicit false

open Authenticator.Pacp Authenticator.Theory

/-- The kind of the last request, after an effect. -/
def Effect.asked (last : Option AuthKind) : Effect → Option AuthKind
  | .toAuthServer _ => some .dot1x
  | .startMab _ => some .mab
  | _ => last

/-- Observes the kind of the last request. -/
def requestObserver : Observer Event Effect (Option AuthKind) where
  hear last _ := last
  see := Effect.asked

/-- The session a list of events leads to, from a new session, and its last request. -/
def requestRun (cfg : PaeConfig) (mac : MacAddr) (events : List Event) :
    PortSession × Option AuthKind :=
  (sessionMachine cfg).watchAll requestObserver (PortSession.new mac, none) events

/-- A session that waits for the server has asked it. -/
theorem asked_run (cfg : PaeConfig) (mac : MacAddr) (events : List Event) :
    (requestRun cfg mac events).1.state = .authServer →
      (requestRun cfg mac events).2.isSome = true := by
  let waits : PortSession × Option AuthKind → Prop := fun q =>
    q.1.state = .authServer → q.2.isSome = true
  have keeps : ∀ q event, waits q → waits ((sessionMachine cfg).watch requestObserver q event) := by
    intro q event held
    show (q.1.step event cfg).1.state = .authServer →
      ((q.1.step event cfg).2.foldl Effect.asked q.2).isSome = true
    rcases (PortSession.step_transition cfg q.1 event).asks with
      ⟨same, none⟩ | ⟨-, idle⟩ | ⟨kind, request, asks, -, -, effects⟩
    · rw [same, none]
      exact held
    · intro waiting
      exact absurd waiting idle
    · intro _
      rw [effects]
      cases asks <;> rfl
  have start : waits (PortSession.new mac, none) := by
    intro waiting
    cases waiting
  exact (sessionMachine cfg).watchAll_invariant' requestObserver keeps start events

/-- A reject of a bypass leads to the guest VLAN, if there is one, and not to the auth-fail
VLAN; a reject of credentials leads to the auth-fail VLAN, or holds the port. -/
def RejectRouted (cfg : PaeConfig) (last : Option AuthKind) (s' : PortSession)
    (fx : List Effect) : Prop :=
  (last = some .mab →
    (∀ vlan, cfg.guestVlan = some vlan → s'.state = .fallback .guest ∧
      .setAuthorization (.fallback .guest (some vlan)) ∈ fx) ∧
    s'.state ≠ .fallback .authFail) ∧
  (last = some .dot1x →
    (∀ vlan, cfg.authFailVlan = some vlan → s'.state = .fallback .authFail ∧
      .setAuthorization (.fallback .authFail (some vlan)) ∈ fx) ∧
    (cfg.authFailVlan = none → s'.state = .held))

namespace PortSession

variable {cfg : PaeConfig} {s : PortSession}

theorem step_reject_parked {vlan : String} (eap : Option Bytes) (asked : s.state = .authServer)
    (closed : s.accountingOpen = false) (configured : cfg.authFailVlan = some vlan) :
    (s.step (.accessReject eap) cfg).1.state = .fallback .authFail ∧
      .setAuthorization (.fallback .authFail (some vlan)) ∈ (s.step (.accessReject eap) cfg).2 := by
  simp [step, asked, inAuthServer, reject, after, closed, configured, enterFallback]

theorem step_reject_held (eap : Option Bytes) (asked : s.state = .authServer)
    (closed : s.accountingOpen = false) (unconfigured : cfg.authFailVlan = none) :
    (s.step (.accessReject eap) cfg).1.state = .held := by
  simp [step, asked, inAuthServer, reject, after, closed, unconfigured, hold]

end PortSession

/-- **When a reject leads where it should.**  In every run without open accounting, a reject
that a waiting session takes ends a request of one of the two kinds, and leads where its
kind says if and only if it does not end a bypass, or neither VLAN is configured. -/
theorem reject_routed_iff (cfg : PaeConfig) (mac : MacAddr) (events : List Event)
    (eap : Option Bytes) (asked : (requestRun cfg mac events).1.state = .authServer)
    (closed : (requestRun cfg mac events).1.accountingOpen = false) :
    (requestRun cfg mac events).2.isSome = true ∧
      (RejectRouted cfg (requestRun cfg mac events).2
          ((requestRun cfg mac events).1.step (.accessReject eap) cfg).1
          ((requestRun cfg mac events).1.step (.accessReject eap) cfg).2 ↔
        ((requestRun cfg mac events).2 = some .mab →
          cfg.guestVlan = none ∧ cfg.authFailVlan = none)) := by
  refine ⟨asked_run cfg mac events asked, ?_⟩
  generalize requestRun cfg mac events = q at asked closed ⊢
  constructor
  · intro routed bypassed
    obtain ⟨guest, never⟩ := routed.1 bypassed
    have unconfigured : cfg.authFailVlan = none := by
      cases configured : cfg.authFailVlan with
      | none => rfl
      | some vlan => exact absurd (PortSession.step_reject_parked eap asked closed configured).1 never
    refine ⟨?_, unconfigured⟩
    cases configured : cfg.guestVlan with
    | none => rfl
    | some vlan =>
        have held := PortSession.step_reject_held eap asked closed unconfigured
        rw [(guest vlan configured).1] at held
        cases held
  · intro spared
    refine ⟨fun bypassed => ?_, fun _ => ?_⟩
    · obtain ⟨noGuest, noFail⟩ := spared bypassed
      refine ⟨fun vlan configured => ?_, ?_⟩
      · rw [noGuest] at configured
        cases configured
      · rw [PortSession.step_reject_held eap asked closed noFail]
        simp
    · exact ⟨fun vlan => PortSession.step_reject_parked eap asked closed,
        PortSession.step_reject_held eap asked closed⟩

/-- Credentials that are rejected, on a port with all the VLANs. -/
theorem reject_routed_credentials :
    let cfg : PaeConfig :=
      { mabEnabled := true, guestVlan := some "10", authFailVlan := some "20" }
    let q := requestRun cfg (Vector.replicate 6 1)
      [.enable, .eapFromSupplicant ⟨.response, 1, some .identity, [2, 1, 0, 6, 1, 97]⟩]
    RejectRouted cfg q.2 (q.1.step (.accessReject none) cfg).1
      (q.1.step (.accessReject none) cfg).2 := by
  intro cfg q
  refine (reject_routed_iff cfg _ _ none (by decide) (by decide)).2.mpr fun bypassed => ?_
  revert bypassed
  decide

/-- A silent endpoint is tried by its address after two prompts and rejected: it ends on the
auth-fail VLAN, on a port that has a guest VLAN. -/
theorem reject_of_bypass_misrouted :
    let cfg : PaeConfig :=
      { mabEnabled := true, guestVlan := some "10", authFailVlan := some "20" }
    let q := requestRun cfg (Vector.replicate 6 1) [.enable, .timer .txPeriod, .timer .txPeriod]
    q.1.state = .authServer ∧ q.1.accountingOpen = false ∧ q.2 = some .mab ∧
      (q.1.step (.accessReject none) cfg).1.state = .fallback .authFail ∧
      .setAuthorization (.fallback .authFail (some "20")) ∈
        (q.1.step (.accessReject none) cfg).2 := by
  decide

end Authenticator.Pae
