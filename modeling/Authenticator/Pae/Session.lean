/-
# Pae.Session -- the per-MAC authenticator state machine

`PortSession.step` is the merged authenticator-PAE and backend-authentication
machine: one event and the port configuration to a new session and an ordered
list of effects.  The handlers and the shared transitions keep the source's
names; a transition that mutates the session returns the pair.

`Transition` says once what a step can do, guards included, and
`step_transition` that nothing else happens.  Every invariant of the session is
proved by cases on it, never by unfolding `step` again.
-/
import Authenticator.Pae.Effect

namespace Authenticator.Pae

set_option autoImplicit false

open Authenticator.Pacp

/-- Which credential path is in flight for the current attempt. -/
inductive AuthKind where
  | dot1x
  | mab
  deriving DecidableEq, Repr

/-- The session lifecycle state. -/
inductive State where
  | new
  | connecting
  | authServer
  | authenticating
  | authenticated
  | held
  | fallback (reason : FallbackReason)
  deriving DecidableEq, Repr

structure PortSession where
  mac : MacAddr
  state : State
  authKind : AuthKind
  eapId : UInt8
  txCount : UInt32
  authz : Option Authorization
  accountingOpen : Bool
  deriving DecidableEq, Repr

/-- `u32::saturating_add(1)`. -/
def saturatingSucc (n : UInt32) : UInt32 := if n = 0xFFFFFFFF then n else n + 1

theorem saturatingSucc_toNat {count bound : UInt32} (below : count < bound) :
    (saturatingSucc count).toNat = count.toNat + 1 := by
  have room : count.toNat < 2 ^ 32 - 1 := by
    have less := UInt32.lt_iff_toNat_lt.mp below
    have := bound.toNat_lt
    omega
  have unsaturated : count ≠ 0xFFFFFFFF := by
    intro full
    rw [full] at room
    revert room
    decide
  rw [saturatingSucc, if_neg unsaturated, UInt32.toNat_add]
  show (count.toNat + 1) % 2 ^ 32 = _
  exact Nat.mod_eq_of_lt (by omega)

namespace PortSession

def new (mac : MacAddr) : PortSession where
  mac := mac
  state := .new
  authKind := .dot1x
  eapId := 0
  txCount := 0
  authz := none
  accountingOpen := false

def isAuthorized (s : PortSession) : Bool := s.state = .authenticated

/-- Put `fx` before the effects of a transition. -/
def after (fx : List Effect) (r : PortSession × List Effect) : PortSession × List Effect :=
  (r.1, fx ++ r.2)

/-! ## Shared transitions -/

/-- Emit an EAP-Request/Identity with a fresh Identifier and arm `tx-period`. -/
def sendIdentity (s : PortSession) : PortSession × List Effect :=
  ({ s with eapId := s.eapId + 1 },
    [.txEapToSupplicant (requestIdentity (s.eapId + 1)), .armTimer .txPeriod])

/-- Enter a fallback VLAN with the given reason. -/
def enterFallback (s : PortSession) (reason : FallbackReason) (vlan : String) :
    PortSession × List Effect :=
  ({ s with state := .fallback reason },
    [.cancelAllTimers, .setAuthorization (.fallback reason (some vlan))])

/-- Close the port and hold it for the quiet period before retrying. -/
def hold (s : PortSession) : PortSession × List Effect :=
  ({ s with state := .held },
    [.cancelAllTimers, .setAuthorization .unauthorized, .armTimer .held])

/-- Stop accounting if open, close the port, cancel timers, return to `New`. -/
def teardown (s : PortSession) (cause : TerminateCause) : PortSession × List Effect :=
  if s.state = .new then (s, [])
  else
    ({ s with accountingOpen := false, state := .new, authz := none, authKind := .dot1x,
              txCount := 0 },
      (if s.accountingOpen then [.accounting (.stop cause)] else []) ++
        [.cancelAllTimers, .setAuthorization .unauthorized])

/-- No supplicant within `maxReauthReq` prompts: try MAB, else guest VLAN, else
hold the closed port.  During a re-authentication the open session is failed
closed instead. -/
def noSupplicant (s : PortSession) (cfg : PaeConfig) : PortSession × List Effect :=
  if s.accountingOpen then s.teardown .reauthFailure
  else if cfg.mabEnabled then
    ({ s with authKind := .mab, state := .authServer },
      [.cancelTimer .txPeriod, .startMab s.mac, .armTimer .serverTimeout])
  else
    match cfg.guestVlan with
    | some vlan => s.enterFallback .guest vlan
    | none => s.hold

def authorize (s : PortSession) (authz : Authorization) (eap : Option Bytes) (cfg : PaeConfig) :
    PortSession × List Effect :=
  ({ s with accountingOpen := true, authz := some authz, state := .authenticated },
    eap.toList.map .txEapToSupplicant ++
      [.cancelAllTimers, .setAuthorization (.authorized authz)] ++
      (if s.accountingOpen then [] else [.accounting .start]) ++
      (if cfg.reauthEnabled then [.armTimer .reauth] else []) ++
      (if authz.sessionTimeout.isSome then [.armTimer .sessionTimeout] else []))

/-- A reject while a session is open is a re-authentication failure and tears the
established session down. -/
def reject (s : PortSession) (eap : Option Bytes) (cfg : PaeConfig) : PortSession × List Effect :=
  after (eap.toList.map .txEapToSupplicant) <|
    if s.accountingOpen then s.teardown .reauthFailure
    else
      match cfg.authFailVlan with
      | some vlan => s.enterFallback .authFail vlan
      | none => s.hold

/-- An open session rides out the outage; otherwise the critical VLAN, if one is
configured, else fail closed. -/
def serverUnreachable (s : PortSession) (cfg : PaeConfig) : PortSession × List Effect :=
  if s.accountingOpen then
    ({ s with state := .authenticated },
      .cancelTimer .serverTimeout :: (if cfg.reauthEnabled then [.armTimer .reauth] else []))
  else
    match cfg.criticalVlan with
    | some vlan =>
        let r := s.enterFallback .critical vlan
        (r.1, r.2 ++ [.armTimer .serverTimeout])
    | none => s.hold

/-- Begin re-authentication while keeping the port authorized meanwhile. -/
def beginReauth (s : PortSession) : PortSession × List Effect :=
  after [.cancelTimer .reauth] { s with state := .connecting, txCount := 1 }.sendIdentity

def coaAuthorize (s : PortSession) (authz : Authorization) : PortSession × List Effect :=
  if s.state ≠ .authenticated then (s, [])
  else ({ s with authz := some authz }, [.setAuthorization (.authorized authz)])

/-! ## State handlers -/

def enable (s : PortSession) : PortSession × List Effect :=
  after [.setAuthorization .unauthorized]
    { s with authz := none, accountingOpen := false, authKind := .dot1x, txCount := 1,
             state := .connecting }.sendIdentity

def inConnecting (s : PortSession) (event : Event) (cfg : PaeConfig) :
    PortSession × List Effect :=
  match event with
  | .eapolStart | .linkUp => s.sendIdentity
  | .timer .txPeriod =>
      if s.txCount < cfg.maxReauthReq then
        { s with txCount := saturatingSucc s.txCount }.sendIdentity
      else s.noSupplicant cfg
  | .eapFromSupplicant eap =>
      if eap.code = .response then
        ({ s with authKind := .dot1x, state := .authServer },
          [.cancelTimer .txPeriod, .toAuthServer eap.packet, .armTimer .serverTimeout])
      else (s, [])
  | .eapolLogoff => s.teardown .supplicantLogoff
  | _ => (s, [])

def inAuthServer (s : PortSession) (event : Event) (cfg : PaeConfig) :
    PortSession × List Effect :=
  match event with
  | .accessChallenge eap =>
      ({ s with state := .authenticating },
        [.cancelTimer .serverTimeout, .txEapToSupplicant eap, .armTimer .suppTimeout])
  | .accessAccept authorization eap => s.authorize authorization eap cfg
  | .accessReject eap => s.reject eap cfg
  | .serverUnreachable | .timer .serverTimeout => s.serverUnreachable cfg
  | .eapolLogoff => s.teardown .supplicantLogoff
  | _ => (s, [])

def inAuthenticating (s : PortSession) (event : Event) : PortSession × List Effect :=
  match event with
  | .eapFromSupplicant eap =>
      if eap.code = .response then
        ({ s with state := .authServer },
          [.cancelTimer .suppTimeout, .toAuthServer eap.packet, .armTimer .serverTimeout])
      else (s, [])
  | .timer .suppTimeout =>
      if s.accountingOpen then s.teardown .reauthFailure else s.hold
  | .eapolStart => after [.cancelTimer .suppTimeout] { s with state := .connecting }.sendIdentity
  | .eapolLogoff => s.teardown .supplicantLogoff
  | _ => (s, [])

def inAuthenticated (s : PortSession) (event : Event) : PortSession × List Effect :=
  match event with
  | .timer .reauth | .eapolStart => s.beginReauth
  | .eapolLogoff => s.teardown .supplicantLogoff
  | .timer .sessionTimeout =>
      -- Session-Timeout is full de-auth; a still-present supplicant is re-solicited.
      let r := s.teardown .sessionTimeout
      after r.2 { r.1 with txCount := 1, state := .connecting }.sendIdentity
  | _ => (s, [])

def inHeld (s : PortSession) (event : Event) : PortSession × List Effect :=
  match event with
  | .timer .held | .eapolStart =>
      after [.cancelTimer .held] { s with txCount := 1, state := .connecting }.sendIdentity
  | _ => (s, [])

def inFallback (s : PortSession) (event : Event) : PortSession × List Effect :=
  match event with
  | .eapolStart => { s with txCount := 1, state := .connecting }.sendIdentity
  | .timer .serverTimeout =>
      if s.state = .fallback .critical then
        { s with txCount := 1, state := .connecting }.sendIdentity
      else (s, [])
  | _ => (s, [])

/-- Advance the machine by one event, returning the effects to perform. -/
def step (s : PortSession) (event : Event) (cfg : PaeConfig) : PortSession × List Effect :=
  match event with
  | .linkDown => s.teardown .portLinkDown
  | .coaDisconnect => s.teardown .adminReset
  | .coaAuthorize authorization => s.coaAuthorize authorization
  | .coaReauthenticate => if s.state = .authenticated then s.beginReauth else (s, [])
  | .enable => s.enable
  | event =>
      match s.state with
      | .connecting => s.inConnecting event cfg
      | .authServer => s.inAuthServer event cfg
      | .authenticating => s.inAuthenticating event
      | .authenticated => s.inAuthenticated event
      | .held => s.inHeld event
      | .fallback _ => s.inFallback event
      | .new => (s, [])

end PortSession

/-! ## What a step can do -/

/-- The timer a waiting state relies on to be moved on. -/
def State.guardTimer : State → Option TimerKind
  | .connecting => some .txPeriod
  | .authServer => some .serverTimeout
  | .authenticating => some .suppTimeout
  | .authenticated => some .reauth
  | .held => some .held
  | .fallback .critical => some .serverTimeout
  | .fallback _ | .new => none

/-- The effects that relay a packet to the supplicant ahead of a verdict. -/
def relay (eap : Option Bytes) : List Effect := eap.toList.map .txEapToSupplicant

/-- What one event does to a session, constructor by constructor: the guard on
the state before, the session after, and the effects in order. -/
inductive Transition (cfg : PaeConfig) (s : PortSession) :
    Event → PortSession → List Effect → Prop
  | ignored (event : Event)
      (unguarded : ∀ kind, s.state.guardTimer = some kind → event ≠ .timer kind)
      (noGrant : ∀ a eap, event = .accessAccept a eap → s.state ≠ .authServer) :
      Transition cfg s event s []
  | enabled : Transition cfg s .enable s.enable.1 s.enable.2
  | solicited (event : Event) (count : UInt32) (cancel : List Effect)
      (idle : s.state ≠ .new) (free : s.state ≠ .authServer)
      (cancels : cancel = [] ∨ ∃ kind, kind ≠ .txPeriod ∧ cancel = [.cancelTimer kind])
      (silent : ∀ a eap, event ≠ .accessAccept a eap) :
      Transition cfg s event
        { s with state := .connecting, txCount := count, eapId := s.eapId + 1 }
        (cancel ++ [.txEapToSupplicant (requestIdentity (s.eapId + 1)), .armTimer .txPeriod])
  | relayed (eap : InboundEap) (kind : TimerKind) (auth : AuthKind)
      (waiting : s.state.guardTimer = some kind)
      (soliciting : s.state = .connecting ∨ s.state = .authenticating) :
      Transition cfg s (.eapFromSupplicant eap)
        { s with state := .authServer, authKind := auth }
        [.cancelTimer kind, .toAuthServer eap.packet, .armTimer .serverTimeout]
  | bypassed (soliciting : s.state = .connecting) (closed : s.accountingOpen = false) :
      Transition cfg s (.timer .txPeriod) { s with state := .authServer, authKind := .mab }
        [.cancelTimer .txPeriod, .startMab s.mac, .armTimer .serverTimeout]
  | challenged (eap : Bytes) (asked : s.state = .authServer) :
      Transition cfg s (.accessChallenge eap) { s with state := .authenticating }
        [.cancelTimer .serverTimeout, .txEapToSupplicant eap, .armTimer .suppTimeout]
  | authorized (a : Authorization) (eap : Option Bytes) (asked : s.state = .authServer) :
      Transition cfg s (.accessAccept a eap) (s.authorize a eap cfg).1 (s.authorize a eap cfg).2
  | survived (event : Event) (asked : s.state = .authServer) (opened : s.accountingOpen = true)
      (silent : ∀ a eap, event ≠ .accessAccept a eap) :
      Transition cfg s event { s with state := .authenticated }
        (.cancelTimer .serverTimeout :: if cfg.reauthEnabled then [.armTimer .reauth] else [])
  | fellBack (event : Event) (reason : FallbackReason) (vlan : String) (eap : Option Bytes)
      (live : s.state ≠ .new) (closed : s.accountingOpen = false)
      (configured : cfg.fallbackVlan reason = some vlan)
      (silent : ∀ a eap, event ≠ .accessAccept a eap) :
      Transition cfg s event { s with state := .fallback reason }
        (relay eap ++ [.cancelAllTimers, .setAuthorization (.fallback reason (some vlan))] ++
          if reason = .critical then [.armTimer .serverTimeout] else [])
  | held (event : Event) (eap : Option Bytes) (live : s.state ≠ .new)
      (closed : s.accountingOpen = false) (silent : ∀ a eap, event ≠ .accessAccept a eap) :
      Transition cfg s event { s with state := .held }
        (relay eap ++ [.cancelAllTimers, .setAuthorization .unauthorized, .armTimer .held])
  | coaAuthorized (a : Authorization) (running : s.state = .authenticated) :
      Transition cfg s (.coaAuthorize a) { s with authz := some a }
        [.setAuthorization (.authorized a)]
  | tornDown (event : Event) (cause : TerminateCause) (eap : Option Bytes)
      (live : s.state ≠ .new) (silent : ∀ a eap, event ≠ .accessAccept a eap) :
      Transition cfg s event (s.teardown cause).1 (relay eap ++ (s.teardown cause).2)
  | expired (running : s.state = .authenticated) :
      Transition cfg s (.timer .sessionTimeout)
        { (s.teardown .sessionTimeout).1 with
            txCount := 1, state := .connecting, eapId := s.eapId + 1 }
        ((s.teardown .sessionTimeout).2 ++
          [.txEapToSupplicant (requestIdentity (s.eapId + 1)), .armTimer .txPeriod])

namespace PortSession

variable {cfg : PaeConfig} {s : PortSession}

theorem teardown_transition (event : Event) (cause : TerminateCause)
    (silent : ∀ a eap, event ≠ .accessAccept a eap)
    (unguarded : ∀ kind, event ≠ .timer kind) :
    Transition cfg s event (s.teardown cause).1 (s.teardown cause).2 := by
  by_cases fresh : s.state = .new
  · have idle : s.teardown cause = (s, []) := by simp [teardown, fresh]
    rw [idle]
    exact .ignored event (fun kind _ => unguarded kind) (fun a eap h => absurd h (silent a eap))
  · exact .tornDown event cause none fresh silent

theorem noSupplicant_transition (soliciting : s.state = .connecting) :
    Transition cfg s (.timer .txPeriod) (s.noSupplicant cfg).1 (s.noSupplicant cfg).2 := by
  have live : s.state ≠ .new := by simp [soliciting]
  unfold noSupplicant
  split
  · exact .tornDown _ .reauthFailure none live (by simp)
  · rename_i shut
    have closed : s.accountingOpen = false := by simpa using shut
    split
    · exact .bypassed soliciting closed
    · split
      · rename_i vlan configured
        exact .fellBack _ .guest vlan none live closed configured (by simp)
      · exact .held _ none live closed (by simp)

theorem reject_transition (eap : Option Bytes) (asked : s.state = .authServer) :
    Transition cfg s (.accessReject eap) (s.reject eap cfg).1 (s.reject eap cfg).2 := by
  have live : s.state ≠ .new := by simp [asked]
  unfold reject after
  split
  · exact .tornDown _ .reauthFailure eap live (by simp)
  · rename_i shut
    have closed : s.accountingOpen = false := by simpa using shut
    split
    · rename_i vlan configured
      have := Transition.fellBack (.accessReject eap) .authFail vlan eap live closed configured
        (by simp)
      simpa [enterFallback, relay] using this
    · exact .held _ eap live closed (by simp)

theorem serverUnreachable_transition (event : Event) (asked : s.state = .authServer)
    (silent : ∀ a eap, event ≠ .accessAccept a eap) :
    Transition cfg s event (s.serverUnreachable cfg).1 (s.serverUnreachable cfg).2 := by
  have live : s.state ≠ .new := by simp [asked]
  unfold serverUnreachable
  split
  · rename_i opened
    exact .survived event asked opened silent
  · rename_i shut
    have closed : s.accountingOpen = false := by simpa using shut
    split
    · rename_i vlan configured
      exact .fellBack event .critical vlan none live closed configured silent
    · exact .held event none live closed silent

/-- The step of a state other than `AuthServer` that only re-solicits. -/
theorem solicit_transition (event : Event) (count : UInt32) (cancel : List Effect)
    (idle : s.state ≠ .new) (free : s.state ≠ .authServer)
    (cancels : cancel = [] ∨ ∃ kind, kind ≠ .txPeriod ∧ cancel = [.cancelTimer kind])
    (silent : ∀ a eap, event ≠ .accessAccept a eap) :
    Transition cfg s event
      (after cancel { s with txCount := count, state := .connecting }.sendIdentity).1
      (after cancel { s with txCount := count, state := .connecting }.sendIdentity).2 :=
  .solicited event count cancel idle free cancels silent

theorem inConnecting_transition (event : Event) (soliciting : s.state = .connecting) :
    Transition cfg s event (s.inConnecting event cfg).1 (s.inConnecting event cfg).2 := by
  have live : s.state ≠ .new := by simp [soliciting]
  have free : s.state ≠ .authServer := by simp [soliciting]
  have resend : ∀ count, (∀ a eap, event ≠ .accessAccept a eap) →
      Transition cfg s event { s with txCount := count }.sendIdentity.1
        { s with txCount := count }.sendIdentity.2 := by
    intro count silent
    have sent : Transition cfg s event _ _ :=
      solicit_transition event count [] live free (Or.inl rfl) silent
    simpa [after, sendIdentity, ← soliciting] using sent
  have skip : event ≠ .timer .txPeriod → Transition cfg s event s [] := by
    intro unguarded
    refine .ignored event ?_ (fun _ _ _ => free)
    simpa [soliciting, State.guardTimer] using unguarded
  unfold inConnecting
  split
  · exact resend s.txCount (by simp)
  · exact resend s.txCount (by simp)
  · split
    · exact resend _ (by simp)
    · exact noSupplicant_transition soliciting
  · split
    · exact .relayed _ .txPeriod .dot1x (by simp [soliciting, State.guardTimer]) (Or.inl soliciting)
    · exact skip (by simp)
  · exact teardown_transition _ _ (by simp) (by simp)
  · rename_i notTx _ _
    exact skip notTx

theorem inAuthServer_transition (event : Event) (asked : s.state = .authServer) :
    Transition cfg s event (s.inAuthServer event cfg).1 (s.inAuthServer event cfg).2 := by
  unfold inAuthServer
  split
  · exact .challenged _ asked
  · exact .authorized _ _ asked
  · exact reject_transition _ asked
  · exact serverUnreachable_transition _ asked (by simp)
  · exact serverUnreachable_transition _ asked (by simp)
  · exact teardown_transition _ _ (by simp) (by simp)
  · rename_i notAccept _ _ notTimeout _
    refine .ignored event ?_ (fun a eap accept => absurd accept (notAccept a eap))
    simpa [asked, State.guardTimer] using notTimeout

theorem inAuthenticating_transition (event : Event) (waiting : s.state = .authenticating) :
    Transition cfg s event (s.inAuthenticating event).1 (s.inAuthenticating event).2 := by
  have live : s.state ≠ .new := by simp [waiting]
  have free : s.state ≠ .authServer := by simp [waiting]
  have skip : event ≠ .timer .suppTimeout → Transition cfg s event s [] := by
    intro unguarded
    refine .ignored event ?_ (fun _ _ _ => free)
    simpa [waiting, State.guardTimer] using unguarded
  unfold inAuthenticating
  split
  · split
    · exact .relayed _ .suppTimeout s.authKind (by simp [waiting, State.guardTimer])
        (Or.inr waiting)
    · exact skip (by simp)
  · split
    · exact .tornDown _ .reauthFailure none live (by simp)
    · rename_i shut
      exact .held _ none live (by simpa using shut) (by simp)
  · exact solicit_transition _ s.txCount [.cancelTimer .suppTimeout] live free
      (Or.inr ⟨_, by decide, rfl⟩) (by simp)
  · exact teardown_transition _ _ (by simp) (by simp)
  · rename_i notTimeout _ _
    exact skip notTimeout

theorem beginReauth_transition (event : Event) (running : s.state = .authenticated)
    (silent : ∀ a eap, event ≠ .accessAccept a eap) :
    Transition cfg s event s.beginReauth.1 s.beginReauth.2 :=
  solicit_transition event 1 [.cancelTimer .reauth] (by simp [running]) (by simp [running])
    (Or.inr ⟨_, by decide, rfl⟩) silent

theorem inAuthenticated_transition (event : Event) (running : s.state = .authenticated) :
    Transition cfg s event (s.inAuthenticated event).1 (s.inAuthenticated event).2 := by
  unfold inAuthenticated
  split
  · exact beginReauth_transition _ running (by simp)
  · exact beginReauth_transition _ running (by simp)
  · exact teardown_transition _ _ (by simp) (by simp)
  · have torn : Transition cfg s _ _ _ := .expired running
    simpa [after, sendIdentity, teardown, running] using torn
  · rename_i notReauth _ _ _
    refine .ignored event ?_ (fun _ _ _ => by simp [running])
    simpa [running, State.guardTimer] using notReauth

theorem inHeld_transition (event : Event) (quiet : s.state = .held) :
    Transition cfg s event (s.inHeld event).1 (s.inHeld event).2 := by
  have restart : (∀ a eap, event ≠ .accessAccept a eap) →
      Transition cfg s event
        (after [.cancelTimer .held] { s with txCount := 1, state := .connecting }.sendIdentity).1
        (after [.cancelTimer .held] { s with txCount := 1, state := .connecting }.sendIdentity).2 :=
    solicit_transition event 1 [.cancelTimer .held] (by simp [quiet]) (by simp [quiet])
      (Or.inr ⟨_, by decide, rfl⟩)
  unfold inHeld
  split
  · exact restart (by simp)
  · exact restart (by simp)
  · rename_i notHeld _
    refine .ignored event ?_ (fun _ _ _ => by simp [quiet])
    simpa [quiet, State.guardTimer] using notHeld

theorem inFallback_transition (event : Event) (reason : FallbackReason)
    (parked : s.state = .fallback reason) :
    Transition cfg s event (s.inFallback event).1 (s.inFallback event).2 := by
  have restart : (∀ a eap, event ≠ .accessAccept a eap) →
      Transition cfg s event { s with txCount := 1, state := .connecting }.sendIdentity.1
        { s with txCount := 1, state := .connecting }.sendIdentity.2 :=
    solicit_transition event 1 [] (by simp [parked]) (by simp [parked]) (Or.inl rfl)
  have skip : (s.state = .fallback .critical → event ≠ .timer .serverTimeout) →
      Transition cfg s event s [] := by
    intro unguarded
    refine .ignored event ?_ (fun _ _ _ => by simp [parked])
    cases reason <;> simp_all [State.guardTimer]
  unfold inFallback
  split
  · exact restart (by simp)
  · split
    · exact restart (by simp)
    · rename_i notCritical
      exact skip (fun critical => absurd critical notCritical)
  · rename_i _ notTimeout
    exact skip (fun _ => notTimeout)

/-- **Everything a step can do is a `Transition`.** -/
theorem step_transition (cfg : PaeConfig) (s : PortSession) (event : Event) :
    Transition cfg s event (s.step event cfg).1 (s.step event cfg).2 := by
  unfold step
  split
  · exact teardown_transition _ _ (by simp) (by simp)
  · exact teardown_transition _ _ (by simp) (by simp)
  · unfold coaAuthorize
    split
    · exact .ignored _ (by simp) (by simp)
    · rename_i running
      exact .coaAuthorized _ (by simpa using running)
  · split
    · rename_i running
      exact beginReauth_transition _ running (by simp)
    · exact .ignored _ (by simp) (by simp)
  · exact .enabled
  · split
    · rename_i state; exact inConnecting_transition event state
    · rename_i state; exact inAuthServer_transition event state
    · rename_i state; exact inAuthenticating_transition event state
    · rename_i state; exact inAuthenticated_transition event state
    · rename_i state; exact inHeld_transition event state
    · rename_i reason state; exact inFallback_transition event reason state
    · rename_i state
      exact .ignored event (by simp [state, State.guardTimer]) (by simp [state])

/-- A step never changes which MAC a session authenticates. -/
@[simp] theorem step_mac (cfg : PaeConfig) (s : PortSession) (event : Event) :
    (s.step event cfg).1.mac = s.mac := by
  have teardownMac : ∀ cause, (s.teardown cause).1.mac = s.mac := by
    intro cause; unfold teardown; split <;> rfl
  have moved := step_transition cfg s event
  generalize (s.step event cfg).1 = s', (s.step event cfg).2 = fx at moved
  cases moved <;> first | rfl | exact teardownMac _

end PortSession

end Authenticator.Pae
