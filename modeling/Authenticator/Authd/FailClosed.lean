/-
# Authd.FailClosed -- what a failing boundary leaves on the dataplane

The PAE has moved on before its effects are performed, and the first error drops the
rest of them.  So the postures the enforcer has applied (`appliedOf`) can fall behind
those the PAE has commanded (`commandedOf`), and the port fails closed only if no open
target is left behind: whenever a call fails, the effects dropped with it must not have
been about to change a target that is open (`Spares`).

The order of effects does not ensure that.  A teardown stops accounting before it closes
the port, so a lost Accounting-Stop leaves the port authorized with nobody behind it.
-/
import Authenticator.Pae.PortPosture
import Authenticator.Authd.Run

namespace Authenticator.Authd

set_option autoImplicit false

open Authenticator.Pacp Authenticator.Pae Authenticator.Radius Authenticator.Theory
open Authenticator.Enforce (Target)

/-! ## Commanded and applied postures -/

def Entry.commands (P : Postures) : Entry → Postures
  | ⟨_, .handled _ _ fx⟩ => directed P fx
  | _ => P

/-- The last posture the PAE has commanded for each target. -/
def commandedOf (log : List Entry) : Postures := log.foldl Entry.commands fun _ => none

/-- The MAC of an enforcement target; `none` is the whole port. -/
def macOf : Target → Option MacAddr
  | .mac mac => some mac
  | .port => none

@[simp] theorem macOf_targetOf (mac : Option MacAddr) : macOf (targetOf mac) = mac := by
  cases mac <;> rfl

def Entry.applies (P : Postures) : Entry → Postures
  | ⟨_, .apply target auth (.ok ())⟩ => Function.update P (macOf target) (some auth)
  | _ => P

/-- The last posture the enforcer has applied for each target. -/
def appliedOf (log : List Entry) : Postures := log.foldl Entry.applies fun _ => none

/-- Whoever the enforcer lets through has a live session, whose posture is that one. -/
def FailsClosed {ω : Type} (cfg : PaeConfig) (w : World ω) : Prop :=
  ∀ target posture, appliedOf w.log target = some posture → posture ≠ .unauthorized →
    ∃ s ∈ w.pae.sessions, s.state ≠ .new ∧ portTarget cfg.hostMode s.mac = target ∧
      commandedOf w.log target = some posture ∧ PostureInv cfg s (some posture)

/-- Dropping the effects would leave every open target as they would have left it. -/
def Spares (P : Postures) (dropped : List DirectedEffect) : Prop :=
  ∀ de ∈ dropped, ¬ Closed (P de.mac) → directed P dropped de.mac = P de.mac

instance (P : Postures) (dropped : List DirectedEffect) : Decidable (Spares P dropped) :=
  inferInstanceAs (Decidable (∀ de ∈ dropped, ¬ Closed (P de.mac) →
    directed P dropped de.mac = P de.mac))

theorem Spares.directed {P : Postures} {dropped : List DirectedEffect} (spares : Spares P dropped)
    {target : Option MacAddr} (opened : ¬ Closed (P target)) :
    directed P dropped target = P target := by
  by_cases touched : ∃ de ∈ dropped, de.mac = target
  · obtain ⟨de, member, rfl⟩ := touched
    exact spares de member opened
  · push Not at touched
    exact directed_of_not_mem touched P

/-! ## What one effect adds to the log -/

theorem command_of_asks {de : DirectedEffect} {mac : MacAddr} (asked : de.asks = some mac)
    (P : Postures) : de.command P = P := by
  apply DirectedEffect.command_quiet
  exact (Effect.quiet_of_isRequest (DirectedEffect.isRequest_of_asks asked)).2

section Effects

variable {ω : Type} [RadiusProto] {deps : Deps ω} {port : String} {env env' : ω}
variable {de : DirectedEffect} {calls : List Call} {result : Except AuthdError (Option Event)}

/-- Performing an effect commands nothing. -/
theorem Dispatched.commands (outcome : Dispatched deps port env de calls env' result)
    (serving : Option MacAddr) (P : Postures) :
    (calls.map fun call => (⟨serving, call⟩ : Entry)).foldl Entry.commands P = P := by
  cases outcome <;> rfl

/-- With an enforcer that does not fail, performing an effect applies what it commands. -/
theorem Dispatched.applies (outcome : Dispatched deps port env de calls env' result)
    (enforced : ∀ target auth, (deps.apply port target auth env).1 = .ok ())
    (serving : Option MacAddr) (P : Postures) :
    (calls.map fun call => (⟨serving, call⟩ : Entry)).foldl Entry.applies P = de.command P := by
  cases outcome with
  | idle effect quiet =>
      refine (DirectedEffect.command_quiet P ?_).symm
      cases effect with
      | setAuthorization auth => exact absurd rfl (quiet auth)
      | _ => rfl
  | refused de mac asked e | unanswered de mac asked _ _ _ | discarded de mac asked _ _ _ _
  | answered de mac asked _ _ _ _ _ => exact (command_of_asks asked P).symm
  | applied mac auth =>
      rw [enforced]
      show Function.update P (macOf (targetOf mac)) (some auth) = _
      rw [macOf_targetOf]
      rfl
  | _ => exact (DirectedEffect.command_quiet P rfl).symm

/-- With an enforcer that does not fail, no command does. -/
theorem Dispatched.quiet_of_error {e : AuthdError}
    (outcome : Dispatched deps port env de calls env' result) (failed : result = .error e)
    (enforced : ∀ target auth, (deps.apply port target auth env).1 = .ok ()) (P : Postures) :
    de.command P = P := by
  cases outcome with
  | applied mac auth =>
      rw [enforced] at failed
      cases failed
  | idle => cases failed
  | refused de mac asked e | unanswered de mac asked _ _ _ | discarded de mac asked _ _ _ _
  | answered de mac asked _ _ _ _ _ => exact command_of_asks asked P
  | _ => exact DirectedEffect.command_quiet P rfl

end Effects

/-! ## The invariant of a run -/

section Invariant

variable {ω : Type} {cfg : PaeConfig}

/-- The port agrees with what it commanded, and once the effects left are applied, what
is open is what was commanded. -/
structure Tracks (cfg : PaeConfig) (rest : List DirectedEffect) (w : World ω) : Prop where
  configured : w.pae.cfg = cfg
  port : PortInv w.pae (commandedOf w.log)
  agree : ∀ target, ¬ Closed (directed (appliedOf w.log) rest target) →
    directed (appliedOf w.log) rest target = commandedOf w.log target

theorem Tracks.start (port : String) (ctxTemplate : RequestContext) (cfg : PaeConfig) (env : ω) :
    Tracks cfg [] (.start port ctxTemplate cfg env) := by
  refine ⟨rfl, PortInv.new cfg, ?_⟩
  intro target opened
  exact absurd (Or.inl rfl) opened

theorem Tracks.failsClosed {w : World ω} (tracks : Tracks cfg [] w) : FailsClosed cfg w := by
  obtain ⟨rfl, port, agree⟩ := tracks
  intro target posture applied opened
  have open_ : ¬ Closed (appliedOf w.log target) := by
    rw [applied]
    rintro (none | same)
    · cases none
    · exact opened (Option.some.inj same)
  have commanded : commandedOf w.log target = some posture := (agree target open_).symm.trans applied
  rw [show appliedOf w.log target = commandedOf w.log target from agree target open_] at open_
  obtain ⟨s, member, live, here, inv⟩ := port.holder open_
  rw [commanded] at inv
  exact ⟨s, member, live, here, commanded, inv⟩

/-- Giving an event to the port. -/
theorem Tracks.enter {w : World ω} (tracks : Tracks cfg [] w) (mac : MacAddr) (event : Event) :
    Tracks cfg (feedPae mac event w).1 (feedPae mac event w).2 := by
  obtain ⟨rfl, port, agree⟩ := tracks
  have commanded : commandedOf (feedPae mac event w).2.log =
      directed (commandedOf w.log) (w.pae.handle mac event).2 := List.foldl_concat ..
  have applied : appliedOf (feedPae mac event w).2.log = appliedOf w.log := List.foldl_concat ..
  refine ⟨w.pae.handle_cfg mac event, ?_, ?_⟩
  · rw [commanded]
    exact PortPae.portInv_handle port mac event
  · intro target opened
    rw [applied] at opened ⊢
    rw [commanded]
    show directed (appliedOf w.log) (w.pae.handle mac event).2 target = _
    rcases directed_settles (w.pae.handle mac event).2 target with alone | ⟨posture, settled⟩
    · have kept : directed (appliedOf w.log) (feedPae mac event w).1 target =
          appliedOf w.log target := alone _
      rw [kept] at opened
      rw [alone, alone]
      exact agree target opened
    · rw [settled, settled]

variable [RadiusProto] {deps : Deps ω} {w w' : World ω} {de : DirectedEffect}
variable {rest : List DirectedEffect} {calls : List Call}
variable {result : Except AuthdError (Option Event)}

theorem commandedOf_performed (performed : Performed deps w de (result, w') calls) :
    commandedOf w'.log = commandedOf w.log := by
  rw [commandedOf, performed.log, List.foldl_append]
  exact performed.outcome.commands _ _

section Enforced

variable (enforced : ∀ port target auth env, (deps.apply port target auth env).1 = .ok ())
include enforced

theorem appliedOf_performed (performed : Performed deps w de (result, w') calls) :
    appliedOf w'.log = de.command (appliedOf w.log) := by
  rw [appliedOf, performed.log, List.foldl_append]
  exact performed.outcome.applies (fun target auth => enforced _ target auth _) _ _

/-- **The step lemma**: performing an effect. -/
theorem Tracks.act (tracks : Tracks cfg (de :: rest) w)
    (performed : Performed deps w de (result, w') calls) : Tracks cfg rest w' := by
  obtain ⟨rfl, port, agree⟩ := tracks
  have same : w'.pae = w.pae := performed.pae
  refine ⟨by rw [same], ?_, ?_⟩
  · rw [same, commandedOf_performed performed]
    exact port
  · rw [appliedOf_performed enforced performed, commandedOf_performed performed]
    exact agree

/-- What a failure leaves, when the effects dropped spare what is open. -/
theorem Tracks.abandon {e : AuthdError} (tracks : Tracks cfg (de :: rest) w)
    (performed : Performed deps w de (.error e, w') calls)
    (spares : Spares (appliedOf w.log) rest) : Tracks cfg [] w' := by
  obtain ⟨configured, port, agree⟩ := tracks.act enforced performed
  have unchanged : appliedOf w'.log = appliedOf w.log := by
    rw [appliedOf_performed enforced performed]
    exact performed.outcome.quiet_of_error rfl (fun target auth => enforced _ target auth _) _
  refine ⟨configured, port, ?_⟩
  intro target opened
  have open_ : ¬ Closed (appliedOf w'.log target) := opened
  rw [unchanged] at open_ agree ⊢
  have kept := spares.directed open_
  have held := agree target (by rw [kept]; exact open_)
  rw [kept] at held
  exact held

end Enforced

end Invariant

/-- **Fail closed when a boundary other than the enforcer fails.**  In every run in which
each failing call drops no effect that would change an open target, whoever the enforcer
lets through has a live session in that posture. -/
theorem failsClosed_of_spares {ω : Type} [RadiusProto] (deps : Deps ω)
    (enforced : ∀ port target auth env, (deps.apply port target auth env).1 = .ok ())
    (port : String) (ctxTemplate : RequestContext) (cfg : PaeConfig) (env : ω)
    (inputs : List (MacAddr × Event))
    (spared : ServesWithin deps (fun w _ rest => Spares (appliedOf w.log) rest)
      (.start port ctxTemplate cfg env) inputs) :
    FailsClosed cfg (serve deps (.start port ctxTemplate cfg env) inputs) := by
  have tracks : Tracks cfg [] (serve deps (.start port ctxTemplate cfg env) inputs) :=
    serve_effects_invariant (fun mac event _ tracks => tracks.enter mac event)
      (fun tracks performed => tracks.act enforced performed)
      (fun tracks performed spares => tracks.abandon enforced performed spares)
      (Tracks.start port ctxTemplate cfg env) spared
  exact tracks.failsClosed

section Witness

attribute [local instance] Site.proto

/-- A lost Accounting-Start drops only the arming of a timer: the port stays in VLAN 42,
and the session is there. -/
theorem failsClosed_of_spares_start :
    appliedOf (serve Site.deps (Site.start ⟨[.ok Site.accept], [.error .radSec]⟩)
        Site.bypass).log (some Site.station) = some (.authorized { vlan := some "42" }) ∧
      FailsClosed Site.config
        (serve Site.deps (Site.start ⟨[.ok Site.accept], [.error .radSec]⟩) Site.bypass) := by
  refine ⟨by decide +kernel, ?_⟩
  exact failsClosed_of_spares Site.deps (fun _ _ _ _ => rfl) "Ethernet4" Site.context Site.config
    ⟨[.ok Site.accept], [.error .radSec]⟩ Site.bypass (by decide +kernel)

/-- The supplicant logs off and the Accounting-Stop is lost: the session is gone, and the
port is still authorized. -/
theorem logoff_leaves_port_open :
    (∀ port target auth env, (Site.deps.apply port target auth env).1 = .ok ()) ∧
      (serve Site.deps (Site.start ⟨[.ok Site.accept], [.ok (), .error .radSec]⟩)
        (Site.bypass ++ [(Site.station, .eapolLogoff)])).pae.sessions = [] ∧
      ¬ FailsClosed Site.config
        (serve Site.deps (Site.start ⟨[.ok Site.accept], [.ok (), .error .radSec]⟩)
          (Site.bypass ++ [(Site.station, .eapolLogoff)])) := by
  have gone : (serve Site.deps (Site.start ⟨[.ok Site.accept], [.ok (), .error .radSec]⟩)
      (Site.bypass ++ [(Site.station, .eapolLogoff)])).pae.sessions = [] := by
    decide +kernel
  refine ⟨fun _ _ _ _ => rfl, gone, ?_⟩
  intro closed
  have applied : appliedOf (serve Site.deps (Site.start ⟨[.ok Site.accept],
      [.ok (), .error .radSec]⟩) (Site.bypass ++ [(Site.station, .eapolLogoff)])).log
        (some Site.station) = some (.authorized { vlan := some "42" }) := by
    decide +kernel
  obtain ⟨s, member, -⟩ := closed _ _ applied (by simp)
  rw [gone] at member
  cases member

end Witness

end Authenticator.Authd
