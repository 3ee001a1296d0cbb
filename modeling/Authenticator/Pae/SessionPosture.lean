/-
# Pae.SessionPosture -- the commands of a session track its state

The dataplane posture of a session is the last `SetAuthorization` it emitted.
`PostureInv` relates that posture to the session: it is `Authorized a` exactly
while accounting is open, and then `a` is the stored authorization; a held
session commanded `Unauthorized`; a fallback session commanded the configured
VLAN of its reason.  `postureInv_step` is the step lemma, one case per
`Transition`.

`sessionTimeout_honoured_iff` settles Session-Timeout expiry on the open
session: it is honoured in `Authenticated` and in no other state.
-/
import Authenticator.Theory.Transducer
import Authenticator.Pae.Session

namespace Authenticator.Pae

set_option autoImplicit false

open Authenticator.Pacp Authenticator.Theory

/-- The session machine of a port configured by `cfg`. -/
def sessionMachine (cfg : PaeConfig) : Transducer PortSession Event Effect where
  step s event := s.step event cfg

/-- The posture an effect leaves on the dataplane. -/
def Effect.command (posture : Option PortAuthorization) : Effect → Option PortAuthorization
  | .setAuthorization authorization => some authorization
  | _ => posture

/-- Observes the last commanded posture. -/
def postureObserver : Observer Event Effect (Option PortAuthorization) where
  hear posture _ := posture
  see := Effect.command

/-- The posture after a list of effects. -/
def commanded (posture : Option PortAuthorization) (fx : List Effect) :
    Option PortAuthorization :=
  fx.foldl Effect.command posture

section Commanded

variable (posture : Option PortAuthorization)

@[simp] theorem commanded_nil : commanded posture [] = posture := rfl

@[simp] theorem commanded_cons (fx : Effect) (rest : List Effect) :
    commanded posture (fx :: rest) = commanded (fx.command posture) rest := rfl

@[simp] theorem commanded_append (first second : List Effect) :
    commanded posture (first ++ second) = commanded (commanded posture first) second :=
  List.foldl_append

@[simp] theorem commanded_relay (eap : Option Bytes) : commanded posture (relay eap) = posture := by
  cases eap <;> rfl

@[simp] theorem commanded_ite (c : Prop) [Decidable c] (first second : List Effect) :
    commanded posture (if c then first else second) =
      if c then commanded posture first else commanded posture second := by
  split <;> rfl

end Commanded

/-- What the posture of a session says about its state. -/
structure PostureInv (cfg : PaeConfig) (s : PortSession) (posture : Option PortAuthorization) :
    Prop where
  granted : ∀ a, posture = some (.authorized a) ↔ s.accountingOpen = true ∧ s.authz = some a
  opened : s.accountingOpen = true → s.authz.isSome = true
  running : s.state = .authenticated → s.accountingOpen = true
  held : s.state = .held → posture = some .unauthorized
  parked : ∀ reason, s.state = .fallback reason →
    ∃ vlan, cfg.fallbackVlan reason = some vlan ∧ posture = some (.fallback reason (some vlan))
  fresh : s.state = .new → posture = none ∨ posture = some .unauthorized

namespace PostureInv

variable {cfg : PaeConfig} {s : PortSession} {posture : Option PortAuthorization}

theorem new (cfg : PaeConfig) (mac : MacAddr) : PostureInv cfg (PortSession.new mac) none := by
  constructor <;> simp [PortSession.new]

/-- Open accounting has a grant, which is the one commanded. -/
theorem authorized_of_open (inv : PostureInv cfg s posture) (opened : s.accountingOpen = true) :
    ∃ a, s.authz = some a ∧ posture = some (.authorized a) := by
  obtain ⟨a, stored⟩ := Option.isSome_iff_exists.mp (inv.opened opened)
  exact ⟨a, stored, (inv.granted a).mpr ⟨opened, stored⟩⟩

theorem closed_of_unauthorized (inv : PostureInv cfg s posture)
    (shut : ∀ a, posture ≠ some (.authorized a)) : s.accountingOpen = false := by
  by_contra opened
  have opened : s.accountingOpen = true := by simpa using opened
  obtain ⟨a, -, authorized⟩ := inv.authorized_of_open opened
  exact shut a authorized

theorem closed_of_held (inv : PostureInv cfg s posture) (state : s.state = .held) :
    s.accountingOpen = false :=
  inv.closed_of_unauthorized (by simp [inv.held state])

theorem closed_of_fallback (inv : PostureInv cfg s posture) {reason : FallbackReason}
    (state : s.state = .fallback reason) : s.accountingOpen = false := by
  obtain ⟨vlan, -, same⟩ := inv.parked reason state
  exact inv.closed_of_unauthorized (by simp [same])

/-- A session whose state is neither settled nor fresh owes only the grant. -/
theorem of_granted
    (granted : ∀ a, posture = some (.authorized a) ↔ s.accountingOpen = true ∧ s.authz = some a)
    (opened : s.accountingOpen = true → s.authz.isSome = true)
    (waiting : s.state = .connecting ∨ s.state = .authServer ∨ s.state = .authenticating) :
    PostureInv cfg s posture := by
  refine ⟨granted, opened, ?_, ?_, ?_, ?_⟩ <;>
    (intros; rcases waiting with state | state | state <;> simp_all)

/-- A session that closed the port owes nothing. -/
theorem of_closed (closed : s.accountingOpen = false) (idle : s.state ≠ .authenticated)
    (unparked : ∀ reason, s.state ≠ .fallback reason) : PostureInv cfg s (some .unauthorized) := by
  constructor <;> simp_all

end PostureInv

namespace PortSession

variable {cfg : PaeConfig} {s : PortSession} {posture : Option PortAuthorization}

/-- The commands and the session a teardown leaves, of a live session. -/
theorem teardown_live (cause : TerminateCause) (live : s.state ≠ .new) :
    (s.teardown cause).1 =
        { s with accountingOpen := false, state := .new, authz := none, authKind := .dot1x,
                 txCount := 0 } ∧
      (s.teardown cause).2 =
        (if s.accountingOpen then [.accounting (.stop cause)] else []) ++
          [.cancelAllTimers, .setAuthorization .unauthorized] := by
  simp [teardown, live]

/-- **The step lemma of the posture.** -/
theorem postureInv_step (inv : PostureInv cfg s posture) (event : Event) :
    PostureInv cfg (s.step event cfg).1 (commanded posture (s.step event cfg).2) := by
  have moved := step_transition cfg s event
  generalize (s.step event cfg).1 = s', (s.step event cfg).2 = fx at moved
  cases moved with
  | ignored => exact inv
  | enabled =>
      simp only [enable, after, sendIdentity, List.singleton_append, commanded_cons,
        Effect.command, commanded_nil]
      exact .of_closed rfl (by simp) (by simp)
  | solicited _ count cancel idle free cancels silent =>
      have kept : commanded posture cancel = posture := by
        rcases cancels with rfl | ⟨kind, -, rfl⟩ <;> rfl
      rw [commanded_append, kept]
      exact .of_granted inv.granted inv.opened (Or.inl rfl)
  | relayed => exact .of_granted inv.granted inv.opened (Or.inr (Or.inl rfl))
  | bypassed => exact .of_granted inv.granted inv.opened (Or.inr (Or.inl rfl))
  | challenged => exact .of_granted inv.granted inv.opened (Or.inr (Or.inr rfl))
  | authorized a eap asked =>
      have same : commanded posture (s.authorize a eap cfg).2 = some (.authorized a) := by
        have quiet := commanded_relay posture eap
        unfold relay at quiet
        simp [authorize, quiet, Effect.command]
      rw [same]
      exact ⟨fun b => by simp [authorize], fun _ => rfl, fun _ => rfl, by simp [authorize],
        by simp [authorize], by simp [authorize]⟩
  | survived _ asked opened silent =>
      have same : commanded posture
          (.cancelTimer .serverTimeout :: if cfg.reauthEnabled then [.armTimer .reauth] else []) =
            posture := by
        simp [Effect.command]
      rw [same]
      exact ⟨inv.granted, inv.opened, fun _ => opened, by simp, by simp, by simp⟩
  | fellBack _ reason vlan eap live closed configured silent =>
      have same : commanded posture
          (relay eap ++ [.cancelAllTimers, .setAuthorization (.fallback reason (some vlan))] ++
            if reason = .critical then [.armTimer .serverTimeout] else []) =
            some (.fallback reason (some vlan)) := by
        simp [Effect.command]
      rw [same]
      constructor <;> simp [closed, configured]
  | held _ eap live closed silent =>
      simp only [commanded_append, commanded_relay, commanded_cons, Effect.command, commanded_nil]
      exact .of_closed closed (by simp) (by simp)
  | coaAuthorized a running =>
      have opened := inv.running running
      simp only [commanded_cons, Effect.command, commanded_nil]
      exact ⟨fun b => by simp [opened], fun _ => rfl, fun _ => opened, by simp [running],
        by simp [running], by simp [running]⟩
  | tornDown _ cause eap live silent =>
      obtain ⟨session, effects⟩ := s.teardown_live cause live
      rw [session, effects]
      simp only [commanded_append, commanded_relay, commanded_cons, Effect.command, commanded_nil]
      exact .of_closed rfl (by simp) (by simp)
  | expired running =>
      obtain ⟨session, effects⟩ := s.teardown_live .sessionTimeout (by simp [running])
      rw [session, effects]
      simp only [commanded_append, commanded_cons, Effect.command, commanded_nil]
      exact .of_closed rfl (by simp) (by simp)

end PortSession

/-- The session and the posture a list of events leads to, from a new session. -/
def sessionRun (cfg : PaeConfig) (mac : MacAddr) (events : List Event) :
    PortSession × Option PortAuthorization :=
  (sessionMachine cfg).watchAll postureObserver (PortSession.new mac, none) events

theorem postureInv_run (cfg : PaeConfig) (mac : MacAddr) (events : List Event) :
    PostureInv cfg (sessionRun cfg mac events).1 (sessionRun cfg mac events).2 := by
  let inv : PortSession × Option PortAuthorization → Prop := fun p => PostureInv cfg p.1 p.2
  have keeps : ∀ p event, inv p → inv ((sessionMachine cfg).watch postureObserver p event) :=
    fun _ event held => PortSession.postureInv_step held event
  exact (sessionMachine cfg).watchAll_invariant' postureObserver keeps (PostureInv.new cfg mac)
    events

/-! ## Changes in place and Session-Timeout expiry -/

namespace PortSession

variable {cfg : PaeConfig} {s : PortSession}

theorem step_coaAuthorize_running (cfg : PaeConfig) (a : Authorization)
    (running : s.state = .authenticated) :
    s.step (.coaAuthorize a) cfg =
      ({ s with authz := some a }, [.setAuthorization (.authorized a)]) := by
  simp [step, coaAuthorize, running]

theorem step_coaAuthorize_dropped (cfg : PaeConfig) (a : Authorization)
    (idle : s.state ≠ .authenticated) : s.step (.coaAuthorize a) cfg = (s, []) := by
  simp [step, coaAuthorize, idle]

/-- Only `Authenticated` handles the expiry. -/
theorem step_sessionTimeout_ignored (idle : s.state ≠ .authenticated) :
    s.step (.timer .sessionTimeout) cfg = (s, []) := by
  cases state : s.state with
  | authenticated => exact absurd state idle
  | new => simp [step, state]
  | connecting => simp [step, state, inConnecting]
  | authServer => simp [step, state, inAuthServer]
  | authenticating => simp [step, state, inAuthenticating]
  | held => simp [step, state, inHeld]
  | fallback reason => simp [step, state, inFallback]

theorem step_sessionTimeout_running (cfg : PaeConfig) (running : s.state = .authenticated)
    (opened : s.accountingOpen = true) :
    (s.step (.timer .sessionTimeout) cfg).1.accountingOpen = false ∧
      (s.step (.timer .sessionTimeout) cfg).2 =
        [.accounting (.stop .sessionTimeout), .cancelAllTimers, .setAuthorization .unauthorized,
          .txEapToSupplicant (requestIdentity (s.eapId + 1)), .armTimer .txPeriod] := by
  simp [step, running, inAuthenticated, teardown, opened, after, sendIdentity]

/-- Accounting is opened by an Access-Accept and by nothing else. -/
theorem accountingOpen_step {event : Event} (closed : s.accountingOpen = false)
    (silent : ∀ a eap, event ≠ .accessAccept a eap) :
    (s.step event cfg).1.accountingOpen = false := by
  have moved := step_transition cfg s event
  generalize (s.step event cfg).1 = s', (s.step event cfg).2 = fx at moved
  cases moved with
  | authorized a eap asked => exact absurd rfl (silent a eap)
  | survived _ asked opened => rw [closed] at opened; cases opened
  | tornDown _ cause eap live => rw [(s.teardown_live cause live).1]
  | expired running => rw [(s.teardown_live .sessionTimeout (by simp [running])).1]
  | _ => first | exact closed | rfl

end PortSession

/-- What the expiry of Session-Timeout owes an authorized session: Accounting-Stop
and `Unauthorized` in that very step, and no authorized posture again until an
Access-Accept is processed. -/
def SessionTimeoutHonoured (cfg : PaeConfig) (s : PortSession)
    (posture : Option PortAuthorization) : Prop :=
  (∃ cause, .accounting (.stop cause) ∈ (s.step (.timer .sessionTimeout) cfg).2) ∧
    .setAuthorization .unauthorized ∈ (s.step (.timer .sessionTimeout) cfg).2 ∧
    ∀ later : List Event, (∀ event ∈ later, ∀ a eap, event ≠ .accessAccept a eap) →
      ∀ a, ((sessionMachine cfg).watchAll postureObserver
        ((sessionMachine cfg).watch postureObserver (s, posture) (.timer .sessionTimeout))
        later).2 ≠ some (.authorized a)

/-- A closed session stays unauthorized for as long as no Access-Accept arrives. -/
theorem unauthorized_until_accept (cfg : PaeConfig) {s : PortSession}
    {posture : Option PortAuthorization} (inv : PostureInv cfg s posture)
    (closed : s.accountingOpen = false) (later : List Event)
    (silent : ∀ event ∈ later, ∀ a eap, event ≠ .accessAccept a eap) (a : Authorization) :
    ((sessionMachine cfg).watchAll postureObserver (s, posture) later).2 ≠
      some (.authorized a) := by
  let shut : PortSession × Option PortAuthorization → Prop :=
    fun p => PostureInv cfg p.1 p.2 ∧ p.1.accountingOpen = false
  have keeps : ∀ p event, shut p → (∀ a eap, event ≠ .accessAccept a eap) →
      shut ((sessionMachine cfg).watch postureObserver p event) := by
    intro p event held quiet
    exact ⟨PortSession.postureInv_step held.1 event,
      PortSession.accountingOpen_step held.2 quiet⟩
  have final : shut ((sessionMachine cfg).watchAll postureObserver (s, posture) later) :=
    (sessionMachine cfg).watchAll_invariant postureObserver keeps ⟨inv, closed⟩ later
      ((sessionMachine cfg).admits_of_forall postureObserver silent _)
  intro granted
  have opened := ((final.1.granted a).mp granted).1
  rw [final.2] at opened
  cases opened

/-- **Session-Timeout expiry is honoured in `Authenticated` and nowhere else.**  In
every run, an expiry that finds the dataplane authorized tears the session down
exactly when it is not in the middle of a re-authentication. -/
theorem sessionTimeout_honoured_iff (cfg : PaeConfig) (mac : MacAddr) (events : List Event) :
    ((∃ a, (sessionRun cfg mac events).2 = some (.authorized a)) →
        SessionTimeoutHonoured cfg (sessionRun cfg mac events).1 (sessionRun cfg mac events).2) ↔
      ((∃ a, (sessionRun cfg mac events).2 = some (.authorized a)) →
        (sessionRun cfg mac events).1.state = .authenticated) := by
  have inv := postureInv_run cfg mac events
  generalize (sessionRun cfg mac events).1 = s, (sessionRun cfg mac events).2 = p at inv ⊢
  constructor
  · intro honoured authorized
    obtain ⟨⟨cause, stopped⟩, -⟩ := honoured authorized
    by_contra idle
    rw [PortSession.step_sessionTimeout_ignored idle] at stopped
    cases stopped
  · intro running authorized
    have running := running authorized
    obtain ⟨closed, effects⟩ :=
      PortSession.step_sessionTimeout_running cfg running (inv.running running)
    refine ⟨⟨.sessionTimeout, by simp [effects]⟩, by simp [effects], ?_⟩
    intro later silent b
    exact unauthorized_until_accept cfg (PortSession.postureInv_step inv _) closed later silent b

/-- The supplicant authenticates with a one-hour Session-Timeout, then starts a
re-authentication of its own. -/
def reauthBeforeExpiry : List Event :=
  [.enable, .eapFromSupplicant ⟨.response, 1, some .identity, [2, 1, 0, 6, 1, 97]⟩,
    .accessAccept { sessionTimeout := some 3600 } none, .eapolStart]

/-- The expiry that lands in the re-authentication is dropped: the session is in
`Connecting`, the port is open, and the step emits nothing. -/
theorem sessionTimeout_dropped_in_reauth :
    ¬ ∀ (cfg : PaeConfig) (mac : MacAddr) (events : List Event),
      (∃ a, (sessionRun cfg mac events).2 = some (.authorized a)) →
        SessionTimeoutHonoured cfg (sessionRun cfg mac events).1
          (sessionRun cfg mac events).2 := by
  intro claim
  have authorized : (sessionRun {} #v[0, 0x11, 0x22, 0x33, 0x44, 0x55] reauthBeforeExpiry).2 =
      some (.authorized { sessionTimeout := some 3600 }) := by decide
  obtain ⟨⟨cause, stopped⟩, -⟩ := claim _ _ _ ⟨_, authorized⟩
  have silent : ((sessionRun {} #v[0, 0x11, 0x22, 0x33, 0x44, 0x55] reauthBeforeExpiry).1.step
      (.timer .sessionTimeout) {}).2 = [] := by decide
  rw [silent] at stopped
  cases stopped

end Authenticator.Pae
