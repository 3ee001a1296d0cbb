/-
# Authd.Dispatch -- the effect orchestrator

`Orchestrator` turns PAE effects into calls on four boundaries (supplicant link, auth
server, enforcer, scheduler) and feeds RADIUS replies back into the PAE.  The boundaries
are a parameter, `Deps`, over an environment of any type: any call may fail, or answer
anything, at any point.

`World` holds the orchestrator, the port and the environment.  Beside them it keeps a
log of what was done, which no code reads: every boundary call with its result, and
every event given to the PAE, each with the MAC whose event was being handled.

`dispatch_performed` says once what performing one effect does.
-/
import Authenticator.Pae.PortEffects
import Authenticator.Enforce.Enforcer
import Authenticator.Authd.Session
import Authenticator.Theory.Worklist

namespace Authenticator.Authd

set_option autoImplicit false

open Authenticator.Pacp Authenticator.Pae Authenticator.Radius Authenticator.Theory
open Authenticator.Enforce (Target)

/-- The boundary implementations the orchestrator drives. -/
structure Deps (ω : Type) where
  sendEap : MacAddr → Bytes → Prog AuthdError ω Unit
  accessRequest : Packet → Prog AuthdError ω Packet
  accounting : Packet → Prog AuthdError ω Unit
  apply : String → Target → PortAuthorization → Prog String ω Unit
  arm : MacAddr → TimerKind → Nat → ω → ω
  cancel : MacAddr → TimerKind → ω → ω
  cancelAll : MacAddr → ω → ω
  generateRequestAuthenticator : ω → Auth16 × ω
  timers : Timers
  secret : Bytes

/-- Per-supplicant orchestration state. -/
structure SessionState where
  radius : RadiusSession := {}
  sessionTimeout : Option UInt32 := none
  acctId : Option String := none

structure Orchestrator where
  port : String
  ctxTemplate : RequestContext
  sessions : MacAddr → Option SessionState
  acctCounter : UInt64

namespace Orchestrator

def new (port : String) (ctxTemplate : RequestContext) : Orchestrator where
  port := port
  ctxTemplate := ctxTemplate
  sessions := fun _ => none
  acctCounter := 0

def ctxFor (o : Orchestrator) (mac : MacAddr) : RequestContext :=
  { o.ctxTemplate with callingStation := mac }

/-- `self.sessions.entry(mac).or_default()`. -/
def session (o : Orchestrator) (mac : MacAddr) : SessionState := (o.sessions mac).getD {}

def setSession (o : Orchestrator) (mac : MacAddr) (s : SessionState) : Orchestrator :=
  { o with sessions := Function.update o.sessions mac (some s) }

/-- The stable accounting session id of a MAC, allocated on first use. -/
def acctIdFor (o : Orchestrator) (mac : MacAddr) : String × Orchestrator :=
  match (o.sessions mac).bind SessionState.acctId with
  | some existing => (existing, o)
  | none =>
      let counted := { o with acctCounter := o.acctCounter + 1 }
      let id := o.port ++ "-" ++ formatMac mac ++ "-" ++ toString counted.acctCounter.toNat
      (id, counted.setSession mac { counted.session mac with acctId := some id })

theorem acctIdFor_port (o : Orchestrator) (mac : MacAddr) : (o.acctIdFor mac).2.port = o.port := by
  unfold acctIdFor
  split <;> rfl

end Orchestrator

/-- The configured duration of a timer kind, in seconds. -/
def duration (timers : Timers) : TimerKind → Option Nat
  | .txPeriod => some timers.txPeriod.toNat
  | .held => some timers.heldPeriod.toNat
  | .reauth => some timers.reauthPeriod.toNat
  | .serverTimeout => some timers.serverTimeout.toNat
  | .suppTimeout => some timers.suppTimeout.toNat
  | .sessionTimeout => none

/-- A timer duration; `SessionTimeout` has one only if the session carries a value. -/
def Orchestrator.timerDuration (o : Orchestrator) (mac : MacAddr) (kind : TimerKind)
    (timers : Timers) : Option Nat :=
  match duration timers kind with
  | some secs => some secs
  | none => ((o.sessions mac).bind SessionState.sessionTimeout).map UInt32.toNat

/-- Something the log remembers. -/
inductive Call where
  | handled (mac : MacAddr) (event : Event) (fx : List DirectedEffect)
  | sendEap (mac : MacAddr) (eap : Bytes) (result : Except AuthdError Unit)
  | accessRequest (request : Packet) (result : Except AuthdError Packet)
  | accounting (request : Packet) (result : Except AuthdError Unit)
  | apply (target : Target) (auth : PortAuthorization) (result : Except String Unit)
  | arm (mac : MacAddr) (kind : TimerKind) (secs : Nat)
  | cancel (mac : MacAddr) (kind : TimerKind)
  | cancelAll (mac : MacAddr)
  deriving DecidableEq

/-- A call, and the MAC whose event was being handled. -/
structure Entry where
  serving : Option MacAddr
  call : Call
  deriving DecidableEq

structure World (ω : Type) where
  orch : Orchestrator
  pae : PortPae
  env : ω
  serving : Option MacAddr
  log : List Entry

namespace World

variable {ω : Type}

/-- A world after some calls on its boundaries. -/
def record (w : World ω) (env : ω) (calls : List Call) : World ω :=
  { w with env := env, log := w.log ++ calls.map fun call => ⟨w.serving, call⟩ }

/-- A world with the RADIUS state of one session replaced. -/
def withRadius (w : World ω) (mac : MacAddr) (radius : RadiusSession) : World ω :=
  { w with orch := w.orch.setSession mac { w.orch.session mac with radius := radius } }

end World

section Code

variable {ω : Type} [RadiusProto] (deps : Deps ω)

/-- Call a boundary, and remember the call with its result. -/
def onBoundary {ε α : Type} (m : Prog ε ω α) (call : Except ε α → Call) : Prog ε (World ω) α :=
  fun w => ((m w.env).1, w.record (m w.env).2 [call (m w.env).1])

/-- Call the scheduler, which does not fail. -/
def onScheduler (f : ω → ω) (call : Call) : Prog AuthdError (World ω) Unit := fun w =>
  (.ok (), w.record (f w.env) [call])

/-- Run an operation on the RADIUS state of a session. -/
def onRadius {α : Type} (mac : MacAddr) (m : Prog AuthdError RadiusSession α) :
    Prog AuthdError (World ω) α :=
  m.zoom (fun w => (w.orch.session mac).radius) fun radius w => w.withRadius mac radius

def freshAuthenticator : Prog AuthdError (World ω) Auth16 := fun w =>
  (.ok (deps.generateRequestAuthenticator w.env).1,
    { w with env := (deps.generateRequestAuthenticator w.env).2 })

/-- Build a request for `mac`, send it, and take the reply. -/
def roundTrip (mac : MacAddr)
    (build : RequestContext → Auth16 → Prog AuthdError RadiusSession Packet) :
    Prog AuthdError (World ω) (Option Event) := do
  let w ← Prog.get
  let authenticator ← freshAuthenticator deps
  let request ← onRadius mac (build (w.orch.ctxFor mac) authenticator)
  let reply ← onBoundary (deps.accessRequest request) (.accessRequest request)
  let event ← onRadius mac (RadiusSession.handleReply reply deps.secret)
  return some event

/-- The `User-Name` of an EAP-Response/Identity packet, if this is one. -/
def eapIdentity (eap : Bytes) : Option Bytes :=
  match EapPacket.decode eap with
  | .ok p => p.identity
  | .error _ => none

def acctIdFor (mac : MacAddr) : Prog AuthdError (World ω) String := fun w =>
  (.ok (w.orch.acctIdFor mac).1, { w with orch := (w.orch.acctIdFor mac).2 })

def sendAccounting (mac : MacAddr) (trigger : AcctTrigger) : Prog AuthdError (World ω) Unit := do
  let acctId ← acctIdFor mac
  let id ← onRadius mac RadiusSession.nextAccountingIdentifier
  let w ← Prog.get
  let request ← Prog.ofExcept ((w.orch.session mac).radius.buildAccounting (w.orch.ctxFor mac) id
    trigger acctId deps.secret)
  onBoundary (deps.accounting request) (.accounting request)

/-- Remember the Session-Timeout of a grant directed at one MAC. -/
def noteSessionTimeout (mac : Option MacAddr) (auth : PortAuthorization) :
    Prog AuthdError (World ω) Unit :=
  match auth, mac with
  | .authorized a, some mac => Prog.modify fun w =>
      let noted := { w.orch.session mac with sessionTimeout := a.sessionTimeout }
      { w with orch := w.orch.setSession mac noted }
  | _, _ => pure ()

/-- The enforcement target of a directed effect. -/
def targetOf : Option MacAddr → Target
  | some mac => .mac mac
  | none => .port

/-- Perform one effect; a RADIUS round-trip yields a follow-up event. -/
def dispatch (de : DirectedEffect) : Prog AuthdError (World ω) (Option Event) :=
  match de.effect, de.mac with
  | .txEapToSupplicant eap, some mac => do
      onBoundary (deps.sendEap mac eap) (.sendEap mac eap)
      return none
  | .toAuthServer eap, some mac =>
      roundTrip deps mac fun ctx authenticator =>
        RadiusSession.buildEapRequest ctx (eapIdentity eap) eap authenticator deps.secret
  | .startMab mac, _ =>
      roundTrip deps mac fun ctx authenticator =>
        RadiusSession.buildMabRequest ctx authenticator deps.secret
  | .setAuthorization auth, mac => do
      noteSessionTimeout mac auth
      let w ← Prog.get
      Prog.mapError .enforce
        (onBoundary (deps.apply w.orch.port (targetOf mac) auth) (.apply (targetOf mac) auth))
      return none
  | .armTimer kind, some mac => do
      let w ← Prog.get
      match w.orch.timerDuration mac kind deps.timers with
      | some secs => onScheduler (deps.arm mac kind secs) (.arm mac kind secs)
      | none => pure ()
      return none
  | .cancelTimer kind, some mac => do
      onScheduler (deps.cancel mac kind) (.cancel mac kind)
      return none
  | .cancelAllTimers, some mac => do
      onScheduler (deps.cancelAll mac) (.cancelAll mac)
      return none
  | .accounting trigger, some mac => do
      sendAccounting deps mac trigger
      return none
  | _, none => pure none

/-- Give an event to the PAE. -/
def feedPae (m : MacAddr) (event : Event) (w : World ω) : List DirectedEffect × World ω :=
  ((w.pae.handle m event).2,
    { w with
      pae := (w.pae.handle m event).1
      serving := some m
      log := w.log ++ [⟨some m, .handled m event (w.pae.handle m event).2⟩] })

/-- The events of a port and the effects of handling them.  A follow-up belongs to the
session that triggered the request. -/
def eventQueue : Worklist AuthdError (World ω) (MacAddr × Event) DirectedEffect where
  expand task := feedPae task.1 task.2
  act task de := do
    let follow ← dispatch deps de
    return follow.map fun event => (de.mac.getD task.1, event)

/-- Feed an event to the PAE and perform the resulting effects, looping over the
follow-up events; no more than 64 are processed. -/
def handleEvent (mac : MacAddr) (event : Event) : Prog AuthdError (World ω) Unit :=
  (eventQueue deps).drain 64 [(mac, event)]

/-- Perform a batch of port-level effects. -/
def applyEffects : List DirectedEffect → Prog AuthdError (World ω) Unit
  | [] => pure ()
  | de :: rest => do
      let _ ← dispatch deps de
      applyEffects rest

end Code

/-! ## What performing an effect does -/

section Spec

variable {ω : Type}

theorem onRadius_run {α : Type} {mac : MacAddr} {m : Prog AuthdError RadiusSession α}
    {w : World ω} {r : Except AuthdError α} {radius : RadiusSession}
    (ran : m (w.orch.session mac).radius = (r, radius)) :
    onRadius mac m w = (r, w.withRadius mac radius) := by
  simp only [onRadius, Prog.zoom, ran]

theorem onBoundary_run {ε α : Type} {m : Prog ε ω α} (call : Except ε α → Call) {w : World ω}
    {r : Except ε α} {env : ω} (ran : m w.env = (r, env)) :
    onBoundary m call w = (r, w.record env [call r]) := by
  simp only [onBoundary, ran]

/-- A boundary call whose value is dropped. -/
theorem boundary_run (m : Prog AuthdError ω Unit) (call : Except AuthdError Unit → Call)
    (w : World ω) :
    (do onBoundary m call; return none : Prog AuthdError (World ω) (Option Event)) w =
      ((m w.env).1.map fun _ => none, w.record (m w.env).2 [call (m w.env).1]) := by
  cases called : m w.env with
  | mk result env =>
      have ran := onBoundary_run (w := w) call called
      cases result with
      | ok u =>
          rw [Prog.bind_ok ran]
          rfl
      | error e =>
          rw [Prog.bind_error ran]
          rfl

/-- Noting a Session-Timeout touches neither the port, the PAE nor the log. -/
theorem noteSessionTimeout_run (mac : Option MacAddr) (auth : PortAuthorization) (w : World ω) :
    ∃ orch, noteSessionTimeout mac auth w = (.ok (), { w with orch := orch }) ∧
      orch.port = w.orch.port := by
  unfold noteSessionTimeout
  split
  · exact ⟨_, rfl, rfl⟩
  · exact ⟨w.orch, rfl, rfl⟩

variable [RadiusProto]

/-- What performing one effect does, constructor by constructor: the calls made, the
environment they leave, and the outcome. -/
inductive Dispatched (deps : Deps ω) (port : String) (env : ω) :
    DirectedEffect → List Call → ω → Except AuthdError (Option Event) → Prop
  | idle (effect : Effect) (quiet : ∀ auth, effect ≠ .setAuthorization auth) :
      Dispatched deps port env ⟨none, effect⟩ [] env (.ok none)
  | sent (mac : MacAddr) (eap : Bytes) :
      Dispatched deps port env ⟨some mac, .txEapToSupplicant eap⟩
        [.sendEap mac eap (deps.sendEap mac eap env).1] (deps.sendEap mac eap env).2
        ((deps.sendEap mac eap env).1.map fun _ => none)
  | refused (de : DirectedEffect) (mac : MacAddr) (asked : de.asks = some mac)
      (e : AuthdError) :
      Dispatched deps port env de [] (deps.generateRequestAuthenticator env).2 (.error e)
  | unanswered (de : DirectedEffect) (mac : MacAddr) (asked : de.asks = some mac)
      (request : Packet) (e : AuthdError) (env' : ω)
      (called : deps.accessRequest request (deps.generateRequestAuthenticator env).2 =
        (.error e, env')) :
      Dispatched deps port env de [.accessRequest request (.error e)] env' (.error e)
  | discarded (de : DirectedEffect) (mac : MacAddr) (asked : de.asks = some mac)
      (request reply : Packet) (e : AuthdError) (env' : ω)
      (called : deps.accessRequest request (deps.generateRequestAuthenticator env).2 =
        (.ok reply, env')) :
      Dispatched deps port env de [.accessRequest request (.ok reply)] env' (.error e)
  | answered (de : DirectedEffect) (mac : MacAddr) (asked : de.asks = some mac)
      (request reply : Packet) (pending : Pending) (event : Event) (env' : ω)
      (called : deps.accessRequest request (deps.generateRequestAuthenticator env).2 =
        (.ok reply, env'))
      (built : RadiusSession.Requests deps.secret mac pending request)
      (matched : reply.identifier = pending.identifier)
      (verified : verifyReply reply pending.requestAuthenticator deps.secret = true)
      (parsed : parseReply reply = .ok event) :
      Dispatched deps port env de [.accessRequest request (.ok reply)] env' (.ok (some event))
  | applied (mac : Option MacAddr) (auth : PortAuthorization) :
      Dispatched deps port env ⟨mac, .setAuthorization auth⟩
        [.apply (targetOf mac) auth (deps.apply port (targetOf mac) auth env).1]
        (deps.apply port (targetOf mac) auth env).2
        (((deps.apply port (targetOf mac) auth env).1.mapError .enforce).map fun _ => none)
  | armed (mac : MacAddr) (kind : TimerKind) (secs : Nat) :
      Dispatched deps port env ⟨some mac, .armTimer kind⟩ [.arm mac kind secs]
        (deps.arm mac kind secs env) (.ok none)
  | unarmed (mac : MacAddr) :
      Dispatched deps port env ⟨some mac, .armTimer .sessionTimeout⟩ [] env (.ok none)
  | cancelled (mac : MacAddr) (kind : TimerKind) :
      Dispatched deps port env ⟨some mac, .cancelTimer kind⟩ [.cancel mac kind]
        (deps.cancel mac kind env) (.ok none)
  | cancelledAll (mac : MacAddr) :
      Dispatched deps port env ⟨some mac, .cancelAllTimers⟩ [.cancelAll mac]
        (deps.cancelAll mac env) (.ok none)
  | unaccounted (mac : MacAddr) (trigger : AcctTrigger) (e : AuthdError) :
      Dispatched deps port env ⟨some mac, .accounting trigger⟩ [] env (.error e)
  | accounted (mac : MacAddr) (trigger : AcctTrigger) (request : Packet) :
      Dispatched deps port env ⟨some mac, .accounting trigger⟩
        [.accounting request (deps.accounting request env).1] (deps.accounting request env).2
        ((deps.accounting request env).1.map fun _ => none)

/-- Only a reply that was taken is followed up. -/
theorem Dispatched.followed {deps : Deps ω} {port : String} {env env' : ω} {de : DirectedEffect}
    {calls : List Call} {result : Except AuthdError (Option Event)}
    (outcome : Dispatched deps port env de calls env' result) {event : Event}
    (follow : result = .ok (some event)) :
    ∃ mac request reply pending, de.asks = some mac ∧
      calls = [.accessRequest request (.ok reply)] ∧
      RadiusSession.Requests deps.secret mac pending request ∧
      reply.identifier = pending.identifier ∧
      verifyReply reply pending.requestAuthenticator deps.secret = true ∧
      parseReply reply = .ok event := by
  have valueless : ∀ x : Except AuthdError Unit, (x.map fun _ => none) ≠ .ok (some event) := by
    intro x
    cases x <;> simp [Except.map]
  cases outcome with
  | answered de mac asked request reply pending taken env' called built matched verified parsed =>
      cases follow
      exact ⟨mac, request, reply, pending, asked, rfl, built, matched, verified, parsed⟩
  | sent mac eap => exact absurd follow (valueless _)
  | applied mac auth => exact absurd follow (valueless _)
  | accounted mac trigger request => exact absurd follow (valueless _)
  | _ => cases follow

/-- The effect `de` was performed at `w`: the port and the PAE are untouched, and the
log grew by the calls. -/
structure Performed (deps : Deps ω) (w : World ω) (de : DirectedEffect)
    (r : Except AuthdError (Option Event) × World ω) (calls : List Call) : Prop where
  outcome : Dispatched deps w.orch.port w.env de calls r.2.env r.1
  port : r.2.orch.port = w.orch.port
  pae : r.2.pae = w.pae
  serving : r.2.serving = w.serving
  log : r.2.log = w.log ++ calls.map fun call => ⟨w.serving, call⟩

theorem performed_boundary {deps : Deps ω} {w : World ω} {de : DirectedEffect}
    {m : Prog AuthdError ω Unit} {call : Except AuthdError Unit → Call}
    (outcome : Dispatched deps w.orch.port w.env de [call (m w.env).1] (m w.env).2
      ((m w.env).1.map fun _ => none)) :
    Performed deps w de ((do onBoundary m call; return none) w) [call (m w.env).1] := by
  rw [boundary_run]
  exact ⟨outcome, rfl, rfl, rfl, rfl⟩

/-- A scheduler call. -/
theorem performed_scheduler {deps : Deps ω} {w : World ω} {de : DirectedEffect} {f : ω → ω}
    {call : Call} (outcome : Dispatched deps w.orch.port w.env de [call] (f w.env) (.ok none)) :
    Performed deps w de ((do onScheduler f call; return none) w) [call] :=
  ⟨outcome, rfl, rfl, rfl, rfl⟩

/-- **What a round-trip does**, by what the builder, the server and the session answer. -/
theorem roundTrip_eq (deps : Deps ω) (mac : MacAddr)
    (build : RequestContext → Auth16 → Prog AuthdError RadiusSession Packet) (w : World ω) :
    roundTrip deps mac build w =
      let fresh : World ω := { w with env := (deps.generateRequestAuthenticator w.env).2 }
      match build (w.orch.ctxFor mac) (deps.generateRequestAuthenticator w.env).1
          (w.orch.session mac).radius with
      | (.error e, radius) => (.error e, fresh.withRadius mac radius)
      | (.ok request, radius) =>
          match deps.accessRequest request fresh.env with
          | (.error e, env) =>
              (.error e, (fresh.withRadius mac radius).record env
                [.accessRequest request (.error e)])
          | (.ok reply, env) =>
              ((RadiusSession.handleReply reply deps.secret radius).1.map some,
                ((fresh.withRadius mac radius).record env
                  [.accessRequest request (.ok reply)]).withRadius mac
                    (RadiusSession.handleReply reply deps.secret radius).2) := by
  let fresh : World ω := { w with env := (deps.generateRequestAuthenticator w.env).2 }
  have started : roundTrip deps mac build w = (do
      let request ← onRadius mac
        (build (w.orch.ctxFor mac) (deps.generateRequestAuthenticator w.env).1)
      let reply ← onBoundary (deps.accessRequest request) (.accessRequest request)
      let event ← onRadius mac (RadiusSession.handleReply reply deps.secret)
      return some event) fresh := rfl
  rw [started]
  dsimp only
  cases made : build (w.orch.ctxFor mac) (deps.generateRequestAuthenticator w.env).1
      (w.orch.session mac).radius with
  | mk outcome radius =>
  have ran := onRadius_run (w := fresh) made
  cases outcome with
  | error e => rw [Prog.bind_error ran]
  | ok request =>
      rw [Prog.bind_ok ran]
      cases called : deps.accessRequest request (deps.generateRequestAuthenticator w.env).2 with
      | mk outcome env =>
      have ran := onBoundary_run (w := fresh.withRadius mac radius) (.accessRequest request) called
      cases outcome with
      | error e =>
          rw [Prog.bind_error ran]
          simp only [called]
          rfl
      | ok reply =>
          rw [Prog.bind_ok ran]
          have held : (((fresh.withRadius mac radius).record env
              [.accessRequest request (.ok reply)]).orch.session mac).radius = radius := by
            simp [World.record, World.withRadius, Orchestrator.session, Orchestrator.setSession]
          cases taken : RadiusSession.handleReply reply deps.secret radius with
          | mk outcome later =>
          have ran := onRadius_run ((congrArg _ held).trans taken)
          simp only [called, taken]
          cases outcome with
          | error e =>
              rw [Prog.bind_error ran]
              rfl
          | ok event =>
              rw [Prog.bind_ok ran]
              rfl

/-- A RADIUS round-trip: refused by the builder, unanswered, discarded or taken. -/
theorem performed_roundTrip {deps : Deps ω} (w : World ω) {de : DirectedEffect} {mac : MacAddr}
    {build : RequestContext → Auth16 → Prog AuthdError RadiusSession Packet}
    (asked : de.asks = some mac)
    (builds : ∀ ctx authenticator s request s',
      build ctx authenticator s = (.ok request, s') → ∃ pending, s'.pending = some pending ∧
        RadiusSession.Requests deps.secret ctx.callingStation pending request) :
    ∃ calls, Performed deps w de (roundTrip deps mac build w) calls := by
  rw [roundTrip_eq]
  dsimp only
  split
  · rename_i e radius made
    exact ⟨[], .refused de mac asked e, rfl, rfl, rfl, (List.append_nil _).symm⟩
  · rename_i request radius made
    split
    · rename_i e env called
      exact ⟨_, .unanswered de mac asked request e env called, rfl, rfl, rfl, rfl⟩
    · rename_i reply env called
      cases taken : RadiusSession.handleReply reply deps.secret radius with
      | mk outcome later =>
      cases outcome with
      | error e => exact ⟨_, .discarded de mac asked request reply e env called, rfl, rfl, rfl, rfl⟩
      | ok event =>
          obtain ⟨pending, outstanding, requests⟩ := builds _ _ _ _ _ made
          obtain ⟨bound, same, matched, verified, parsed⟩ := RadiusSession.handleReply_eq_ok taken
          rw [outstanding] at same
          cases same
          exact ⟨_, .answered de mac asked request reply pending event env called requests
            matched verified parsed, rfl, rfl, rfl, rfl⟩

/-- An effect for which nothing is called. -/
theorem performed_idle {deps : Deps ω} {w : World ω} {de : DirectedEffect}
    (outcome : Dispatched deps w.orch.port w.env de [] w.env (.ok none)) :
    ∃ calls, Performed deps w de (.ok none, w) calls :=
  ⟨[], outcome, rfl, rfl, rfl, (List.append_nil _).symm⟩

/-- What a command does, once its Session-Timeout is noted. -/
theorem dispatch_setAuthorization (deps : Deps ω) {mac : Option MacAddr} {auth : PortAuthorization}
    {w : World ω} {orch : Orchestrator}
    (noted : noteSessionTimeout mac auth w = (.ok (), { w with orch := orch })) :
    dispatch deps ⟨mac, .setAuthorization auth⟩ w =
      (((deps.apply orch.port (targetOf mac) auth w.env).1.mapError .enforce).map fun _ => none,
        ({ w with orch := orch } : World ω).record (deps.apply orch.port (targetOf mac) auth w.env).2
          [.apply (targetOf mac) auth (deps.apply orch.port (targetOf mac) auth w.env).1]) := by
  have code : dispatch deps ⟨mac, .setAuthorization auth⟩ = (do
      noteSessionTimeout mac auth
      let w ← Prog.get
      Prog.mapError .enforce
        (onBoundary (deps.apply w.orch.port (targetOf mac) auth) (.apply (targetOf mac) auth))
      return none) := by
    cases mac <;> rfl
  have started : dispatch deps ⟨mac, .setAuthorization auth⟩ w = (do
      Prog.mapError AuthdError.enforce (onBoundary
        (deps.apply orch.port (targetOf mac) auth) (.apply (targetOf mac) auth))
      return none) { w with orch := orch } := by
    rw [code, Prog.bind_ok noted]
    rfl
  rw [started]
  cases called : deps.apply orch.port (targetOf mac) auth w.env with
  | mk result env =>
      have ran := onBoundary_run (w := { w with orch := orch }) (.apply (targetOf mac) auth) called
      cases result with
      | ok u =>
          rw [Prog.bind_ok (by rw [Prog.mapError, ran]; rfl)]
          rfl
      | error e =>
          rw [Prog.bind_error (by rw [Prog.mapError, ran]; rfl)]
          rfl

theorem performed_setAuthorization (deps : Deps ω) (mac : Option MacAddr)
    (auth : PortAuthorization) (w : World ω) :
    Performed deps w ⟨mac, .setAuthorization auth⟩
      (dispatch deps ⟨mac, .setAuthorization auth⟩ w)
      [.apply (targetOf mac) auth (deps.apply w.orch.port (targetOf mac) auth w.env).1] := by
  obtain ⟨orch, noted, kept⟩ := noteSessionTimeout_run mac auth w
  rw [dispatch_setAuthorization deps noted, kept]
  exact ⟨.applied mac auth, kept, rfl, rfl, rfl⟩

theorem dispatch_armTimer (deps : Deps ω) (mac : MacAddr) (kind : TimerKind) (w : World ω) :
    dispatch deps ⟨some mac, .armTimer kind⟩ w = (do
      match w.orch.timerDuration mac kind deps.timers with
      | some secs => onScheduler (deps.arm mac kind secs) (.arm mac kind secs)
      | none => pure ()
      return none) w := rfl

/-- Only a SessionTimeout can be left unarmed. -/
theorem performed_armTimer (deps : Deps ω) (mac : MacAddr) (kind : TimerKind) (w : World ω) :
    ∃ calls, Performed deps w ⟨some mac, .armTimer kind⟩
      (dispatch deps ⟨some mac, .armTimer kind⟩ w) calls := by
  rw [dispatch_armTimer]
  cases known : w.orch.timerDuration mac kind deps.timers with
  | some secs => exact ⟨_, performed_scheduler (.armed mac kind secs)⟩
  | none =>
      cases kind with
      | sessionTimeout => exact performed_idle (.unarmed mac)
      | _ => cases known

/-- The world in which an Accounting-Request is built: its session has a name, and its
Identifier is allocated. -/
def World.counted (w : World ω) (mac : MacAddr) : World ω :=
  let named := { w with orch := (w.orch.acctIdFor mac).2 }
  named.withRadius mac
    (RadiusSession.nextAccountingIdentifier (named.orch.session mac).radius).2

/-- The Accounting-Request of a trigger. -/
def builtAccounting (deps : Deps ω) (mac : MacAddr) (trigger : AcctTrigger) (w : World ω) :
    Except AuthdError Packet :=
  ((w.counted mac).orch.session mac).radius.buildAccounting ((w.counted mac).orch.ctxFor mac)
    ((w.orch.acctIdFor mac).2.session mac).radius.nextAcctId trigger (w.orch.acctIdFor mac).1
    deps.secret

/-- Accounting calls the server if its request is built, and only then. -/
theorem dispatch_accounting (deps : Deps ω) (mac : MacAddr) (trigger : AcctTrigger) (w : World ω) :
    dispatch deps ⟨some mac, .accounting trigger⟩ w =
      match builtAccounting deps mac trigger w with
      | .error e => (.error e, w.counted mac)
      | .ok request =>
          ((deps.accounting request w.env).1.map fun _ => none,
            (w.counted mac).record (deps.accounting request w.env).2
              [.accounting request (deps.accounting request w.env).1]) := by
  have started : dispatch deps ⟨some mac, .accounting trigger⟩ w = (do
      (do let request ← Prog.ofExcept (builtAccounting deps mac trigger w)
          onBoundary (deps.accounting request) (.accounting request))
      return none) (w.counted mac) := rfl
  rw [started]
  cases builtAccounting deps mac trigger w with
  | error e => rfl
  | ok request => exact boundary_run (deps.accounting request) (.accounting request) (w.counted mac)

theorem performed_accounting (deps : Deps ω) (mac : MacAddr) (trigger : AcctTrigger)
    (w : World ω) :
    ∃ calls, Performed deps w ⟨some mac, .accounting trigger⟩
      (dispatch deps ⟨some mac, .accounting trigger⟩ w) calls := by
  have kept : (w.counted mac).orch.port = w.orch.port := w.orch.acctIdFor_port mac
  rw [dispatch_accounting]
  cases builtAccounting deps mac trigger w with
  | error e =>
      exact ⟨[], .unaccounted mac trigger e, kept, rfl, rfl, (List.append_nil _).symm⟩
  | ok request => exact ⟨_, .accounted mac trigger request, kept, rfl, rfl, rfl⟩

theorem dispatch_toAuthServer (deps : Deps ω) (mac : MacAddr) (eap : Bytes) :
    dispatch deps ⟨some mac, .toAuthServer eap⟩ =
      roundTrip deps mac fun ctx authenticator =>
        RadiusSession.buildEapRequest ctx (eapIdentity eap) eap authenticator deps.secret := rfl

theorem dispatch_startMab (deps : Deps ω) (target : Option MacAddr) (mac : MacAddr) :
    dispatch deps ⟨target, .startMab mac⟩ =
      roundTrip deps mac fun ctx authenticator =>
        RadiusSession.buildMabRequest ctx authenticator deps.secret := by
  cases target <;> rfl

/-- **Everything performing an effect can do is `Dispatched`.** -/
theorem dispatch_performed (deps : Deps ω) (de : DirectedEffect) (w : World ω) :
    ∃ calls, Performed deps w de (dispatch deps de w) calls := by
  obtain ⟨mac, effect⟩ := de
  cases effect with
  | startMab station =>
      have asked : (⟨mac, .startMab station⟩ : DirectedEffect).asks = some station := by
        cases mac <;> rfl
      rw [dispatch_startMab]
      exact performed_roundTrip w asked fun _ _ _ _ _ => RadiusSession.buildMabRequest_eq_ok
  | setAuthorization auth => exact ⟨_, performed_setAuthorization deps mac auth w⟩
  | txEapToSupplicant eap =>
      cases mac with
      | none => exact performed_idle (.idle _ (by simp))
      | some mac => exact ⟨_, performed_boundary (.sent mac eap)⟩
  | toAuthServer eap =>
      cases mac with
      | none => exact performed_idle (.idle _ (by simp))
      | some mac =>
          rw [dispatch_toAuthServer]
          exact performed_roundTrip w rfl fun _ _ _ _ _ => RadiusSession.buildEapRequest_eq_ok
  | armTimer kind =>
      cases mac with
      | none => exact performed_idle (.idle _ (by simp))
      | some mac => exact performed_armTimer deps mac kind w
  | cancelTimer kind =>
      cases mac with
      | none => exact performed_idle (.idle _ (by simp))
      | some mac => exact ⟨_, performed_scheduler (.cancelled mac kind)⟩
  | cancelAllTimers =>
      cases mac with
      | none => exact performed_idle (.idle _ (by simp))
      | some mac => exact ⟨_, performed_scheduler (.cancelledAll mac)⟩
  | accounting trigger =>
      cases mac with
      | none => exact performed_idle (.idle _ (by simp))
      | some mac => exact performed_accounting deps mac trigger w

end Spec

end Authenticator.Authd
