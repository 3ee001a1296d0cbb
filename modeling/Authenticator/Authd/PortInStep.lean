/-
# Authd.PortInStep -- CONFIG_DB is in step with a running port

The SONiC switch under the event loop: the trap, the socket, the timers beside the loop and the
enforcer with its database.  A port that is back at `select!` has met no failure, so nothing is
assumed about the calls: `port_in_step` says that its database holds what its session says.
-/
import Authenticator.Authd.EndToEnd
import Authenticator.Authd.EventLoop

namespace Authenticator.Authd

set_option autoImplicit false

open Authenticator.Pacp Authenticator.Pae Authenticator.Radius Authenticator.Theory
open Authenticator.Enforce
open Authenticator.Theory.Timers (Background)

section Switch

variable {ε ω : Type}

/-- The trap of the SONiC enforcer, and a socket. -/
def switchOpening (display : SonicError ε → String) (openSocket : String → Prog AuthdError ω Unit) :
    Opening (SonicEnforcer Databases × ω) where
  ensureEapolTrap port :=
    ((SonicEnforcer.ensureEapolTrap (redisConn ε) port).mapError display).zoom Prod.fst
      fun s env => (s, env.2)
  openSocket port := beside (openSocket port)

/-- `run_port` on a SONiC switch. -/
def runOnSwitch [RadiusProto] (base : Deps ω) (display : SonicError ε → String)
    (openSocket : String → Prog AuthdError ω Unit) (port : String) (ctxTemplate : RequestContext)
    (cfg : PaeConfig) (s : SonicEnforcer Databases) (env : ω)
    (schedule : List (List (Background TimerKey))) (picks : List Pick) :
    Except AuthdError Unit × World (Runtime (SonicEnforcer Databases × ω)) :=
  runPortUntilError (onSwitch base display) (switchOpening display openSocket) port cfg picks
    (.start port ctxTemplate cfg ⟨.new, schedule, (s, env)⟩)

variable [RadiusProto] {base : Deps ω} {display : SonicError ε → String}
variable {openSocket : String → Prog AuthdError ω Unit} {port : String} {cfg : PaeConfig}

/-- A port that opened was brought up. -/
theorem openPort_broughtUp {ctxTemplate : RequestContext} {s : SonicEnforcer Databases} {env : ω}
    {w : World (SonicEnforcer Databases × ω)}
    (opened : openPort (onSwitch base display) (switchOpening display openSocket) port cfg
      (.start port ctxTemplate cfg (s, env)) = (.ok (), w)) :
    (SonicEnforcer.ensureEapolTrap (redisConn ε) port s).1 = .ok () ∧
      w = broughtUp base display port ctxTemplate cfg s (openSocket port env).2 := by
  obtain ⟨_, trapped, trap, later⟩ := Prog.bind_eq_ok_iff.mp opened
  obtain ⟨_, ready, socket, enabled⟩ := Prog.bind_eq_ok_iff.mp later
  have trap := Prog.mapError_eq_ok_iff.mp trap
  simp only [switchOpening, Prog.zoom, Prog.mapError, World.start, Prod.mk.injEq] at trap
  obtain ⟨succeeded, rfl⟩ := trap
  obtain rfl := congrArg Prod.snd socket
  refine ⟨?_, (congrArg Prod.snd enabled).symm⟩
  cases installed : (SonicEnforcer.ensureEapolTrap (redisConn ε) port s).1 with
  | ok u => rfl
  | error e =>
      rw [installed] at succeeded
      cases succeeded

/-- A running port was brought up, and served events without a failure. -/
theorem running_serves (base : Deps ω) (display : SonicError ε → String)
    (openSocket : String → Prog AuthdError ω Unit) (port : String) (ctxTemplate : RequestContext)
    (cfg : PaeConfig) (s : SonicEnforcer Databases) (env : ω)
    (schedule : List (List (Background TimerKey))) (picks : List Pick)
    (waits : (runOnSwitch base display openSocket port ctxTemplate cfg s env schedule picks).1 =
      .ok ()) :
    let started := broughtUp (timerless base) display port ctxTemplate cfg s (openSocket port env).2
    (SonicEnforcer.ensureEapolTrap (redisConn ε) port s).1 = .ok () ∧
      ∃ inputs, (∀ input ∈ inputs, DaemonEvent input.2) ∧
        Succeeds (onSwitch (timerless base) display) started inputs ∧
        (runOnSwitch base display openSocket port ctxTemplate cfg s env schedule picks).2.plain =
          serve (onSwitch (timerless base) display) started inputs := by
  intro started
  unfold runOnSwitch at waits ⊢
  let start : World (Runtime (SonicEnforcer Databases × ω)) :=
    .start port ctxTemplate cfg ⟨.new, schedule, (s, env)⟩
  obtain ⟨served, inputs, serves, unopened⟩ := serves_runPort (onSwitch base display)
    (switchOpening display openSocket) port cfg picks start rfl
  rcases opens : openPort (onSwitch (timerless base) display) (switchOpening display openSocket) port
    cfg (.start port ctxTemplate cfg (s, env)) with ⟨result, w⟩
  have same : openPort (timerless (onSwitch base display)) (switchOpening display openSocket) port cfg
    start.plain = (result, w) := opens
  rw [same] at serves unopened
  cases result with
  | error e =>
      rw [(unopened e rfl).1] at waits
      cases waits
  | ok u =>
      obtain ⟨trapped, rfl⟩ := openPort_broughtUp opens
      exact ⟨trapped, inputs, serves.daemon, (serves.runs waits).2, serves.reached⟩

/-- **A running port is in step with its database.**  On a port that admits one session at a
time and has a name a list field can hold, brought up on a database without entries for it:
whenever `run_port` is back at its `select!`, whatever it received, whatever the boundaries
answered and however its timers ran, CONFIG_DB holds for the port exactly what its session
says. -/
theorem port_in_step (base : Deps ω) (display : SonicError ε → String)
    (openSocket : String → Prog AuthdError ω Unit) (port : String) (ctxTemplate : RequestContext)
    (cfg : PaeConfig) (solo : cfg.hostMode = .singleHost ∨ cfg.hostMode = .multiHost)
    (s : SonicEnforcer Databases) (env : ω) (clean : ListName port)
    (bare : NoEntries (s.conn .config) port) (schedule : List (List (Background TimerKey)))
    (picks : List Pick)
    (waits : (runOnSwitch base display openSocket port ctxTemplate cfg s env schedule picks).1 =
      .ok ()) :
    InStep cfg port
      (runOnSwitch base display openSocket port ctxTemplate cfg s env schedule picks).2.plain := by
  obtain ⟨trapped, inputs, -, succeeds, reached⟩ :=
    running_serves base display openSocket port ctxTemplate cfg s env schedule picks waits
  have programming : Programming cfg port [] (serve (onSwitch (timerless base) display)
      (broughtUp (timerless base) display port ctxTemplate cfg s (openSocket port env).2) inputs) :=
    serve_effects_invariant
      (fun mac event _ programming => programming.enter (HostMode.solo_iff.mpr solo) mac event)
      (fun programming performed => programming.act clean performed)
      (fun _ _ failed => failed.elim)
      (programming_broughtUp (timerless base) display ctxTemplate cfg _ clean bare trapped) succeeds
  rw [reached]
  exact programming.inStep

end Switch

section Witness

attribute [local instance] Site.proto

/-- One host on the port. -/
def oneHost : PaeConfig where
  hostMode := .singleHost
  mabEnabled := true
  maxReauthReq := 1

/-- A silent station on the switch, from the start of its port until it was bypassed. -/
def switchRun : Except AuthdError Unit × World (Runtime (SonicEnforcer Databases × Site.Script)) :=
  runOnSwitch Site.deps (fun _ : SonicError String => "enforcer") (fun _ => pure ()) "Ethernet4"
    Site.context oneHost (.new emptyDatabases) ⟨[.ok Site.accept], [.ok ()]⟩ expiry
    [.source (.frame startFrame), .source .timer]

/-- Its session holds VLAN 42, and so does CONFIG_DB. -/
theorem port_in_step_bypass :
    (∃ s ∈ switchRun.2.pae.sessions,
      s.accountingOpen = true ∧ s.authz = some { vlan := some "42" }) ∧
      InStep oneHost "Ethernet4" switchRun.2.plain := by
  refine ⟨by decide +kernel, ?_⟩
  exact port_in_step Site.deps _ (fun _ => pure ()) "Ethernet4" Site.context oneHost (Or.inl rfl)
    (.new emptyDatabases) _ (by decide) (noEntries_empty "Ethernet4") expiry _ (by decide +kernel)

end Witness

end Authenticator.Authd
