/-
# Authd.SharedPort -- one dataplane for the sessions of a port

In `multiAuth` and `multiDomain` every MAC has a session and commands of its own, but the
SONiC enforcer ignores the target of a command: a port has one posture, and the last
authorization wins.  `last_authorization_wins` says what that leaves of the postures of the
sessions: the port of an authorized session is open, unless the last command was
`Unauthorized`, for another MAC.

The exception is real: `first_contact_closes_port` has a supplicant that merely shows up
close the port on one that is authorized.
-/
import Authenticator.Authd.EndToEnd

namespace Authenticator.Authd

set_option autoImplicit false

open Authenticator.Pacp Authenticator.Pae Authenticator.Radius Authenticator.Theory
open Authenticator.Enforce

/-! ## The last command, with its target -/

/-- A command and its target. -/
abbrev Command := Option MacAddr × PortAuthorization

def Command.after (last : Option Command) (de : DirectedEffect) : Option Command :=
  match de.effect with
  | .setAuthorization auth => some (de.mac, auth)
  | _ => last

def Entry.lastCommand (last : Option Command) : Entry → Option Command
  | ⟨_, .handled _ _ fx⟩ => fx.foldl Command.after last
  | _ => last

/-- The last command of the PAE. -/
def lastCommand (log : List Entry) : Option Command := log.foldl Entry.lastCommand none

/-- The posture in force is that of the last command. -/
theorem inForce_eq_lastCommand (log : List Entry) :
    inForce log = (lastCommand log).map Prod.snd := by
  have effects : ∀ (fx : List DirectedEffect) (last : Option Command),
      commanded (last.map Prod.snd) (bare fx) = (fx.foldl Command.after last).map Prod.snd := by
    intro fx
    induction fx with
    | nil => exact fun _ => rfl
    | cons de rest ih =>
        intro last
        rw [List.foldl_cons, ← ih]
        obtain ⟨target, effect⟩ := de
        cases effect <;> rfl
  have entries : ∀ (entries : List Entry) (last : Option Command),
      entries.foldl Entry.posture (last.map Prod.snd) =
        (entries.foldl Entry.lastCommand last).map Prod.snd := by
    intro entries
    induction entries with
    | nil => exact fun _ => rfl
    | cons entry rest ih =>
        intro last
        have one : Entry.posture (last.map Prod.snd) entry =
            (Entry.lastCommand last entry).map Prod.snd := by
          obtain ⟨serving, call⟩ := entry
          cases call with
          | handled mac event fx => exact effects fx last
          | _ => rfl
        rw [List.foldl_cons, List.foldl_cons, one, ih]
  exact entries log none

/-- The postures hold the last command, and nothing if there was none. -/
structure Remembers (P : Postures) (last : Option Command) : Prop where
  known : ∀ target auth, last = some (target, auth) → P target = some auth
  never : last = none → ∀ target, P target = none

theorem Remembers.directed {P : Postures} {last : Option Command} (remembers : Remembers P last)
    (fx : List DirectedEffect) :
    Remembers (directed P fx) (fx.foldl Command.after last) := by
  induction fx generalizing P last with
  | nil => exact remembers
  | cons de rest ih =>
      refine ih ?_
      cases command : de.effect with
      | setAuthorization auth =>
          have now : Command.after last de = some (de.mac, auth) := by
            simp only [Command.after, command]
          rw [now]
          refine ⟨?_, by simp⟩
          rintro target other ⟨⟩
          rw [DirectedEffect.command, command, Function.update_self]
          rfl
      | _ =>
          have same : Command.after last de = last := by simp only [Command.after, command]
          rw [same, DirectedEffect.command_quiet P (by rw [command]; rfl)]
          exact remembers

/-- The last command is an earlier one, or one of the effects. -/
theorem after_cases (fx : List DirectedEffect) (last : Option Command) :
    fx.foldl Command.after last = last ∨
      ∃ de ∈ fx, ∃ auth, de.effect = .setAuthorization auth ∧
        fx.foldl Command.after last = some (de.mac, auth) := by
  induction fx generalizing last with
  | nil => exact Or.inl rfl
  | cons de rest ih =>
      rw [List.foldl_cons]
      rcases ih (Command.after last de) with kept | ⟨later, member, auth, command, same⟩
      · rw [kept]
        cases command : de.effect with
        | setAuthorization auth =>
            exact Or.inr ⟨de, List.mem_cons_self, auth, command, by simp only [Command.after, command]⟩
        | _ => exact Or.inl (by simp only [Command.after, command])
      · exact Or.inr ⟨later, List.mem_cons_of_mem _ member, auth, command, same⟩

/-! ## The invariant of a run -/

/-- Whether the last authorization opens the port. -/
def opens (posture : Option PortAuthorization) : Bool := (desired posture).authorized

section Invariant

variable {ω : Type} {cfg : PaeConfig} {port : String}
variable {w w' : World (SonicEnforcer Databases × ω)} {rest : List DirectedEffect}

/-- What the sessions say of their own commands, and the switch of the last one. -/
structure Sharing (cfg : PaeConfig) (port : String) (rest : List DirectedEffect)
    (w : World (SonicEnforcer Databases × ω)) : Prop where
  configured : w.pae.cfg = cfg
  sessions : ∃ P, PortInv w.pae P ∧ Remembers P (lastCommand w.log)
  aimed : ∀ target auth, lastCommand w.log = some (target, auth) →
    ∃ mac, target = portTarget cfg.hostMode mac
  lagging : Lagging (fun s posture => s.Gates port (opens posture)) port rest w

theorem Sharing.enter (sharing : Sharing cfg port [] w) (mac : MacAddr) (event : Event) :
    Sharing cfg port (feedPae mac event w).1 (feedPae mac event w).2 := by
  obtain ⟨rfl, ⟨P, inv, remembers⟩, aimed, lagging⟩ := sharing
  have now : lastCommand (feedPae mac event w).2.log =
      (w.pae.handle mac event).2.foldl Command.after (lastCommand w.log) := List.foldl_concat ..
  refine ⟨w.pae.handle_cfg mac event, ⟨_, PortPae.portInv_handle inv mac event, ?_⟩, ?_,
    lagging.enter mac event⟩
  · rw [now]
    exact remembers.directed _
  · intro target auth
    rw [now]
    intro last
    rcases after_cases (w.pae.handle mac event).2 (lastCommand w.log) with
      kept | ⟨de, member, other, command, same⟩
    · rw [kept] at last
      exact aimed target auth last
    · rw [same] at last
      cases last
      exact ⟨mac, w.pae.handle_target mac event member (by rw [command]; rfl)⟩

variable {ε : Type} [RadiusProto] {base : Deps ω} {display : SonicError ε → String}
variable {de : DirectedEffect} {calls : List Call}

theorem Dispatched.lastCommands {deps : Deps ω} {env env' : ω}
    {result : Except AuthdError (Option Event)}
    (outcome : Dispatched deps port env de calls env' result) (serving : Option MacAddr)
    (last : Option Command) :
    (calls.map fun call => (⟨serving, call⟩ : Entry)).foldl Entry.lastCommand last = last := by
  cases outcome <;> rfl

theorem lastCommand_performed {deps : Deps (SonicEnforcer Databases × ω)}
    {result : Except AuthdError (Option Event)}
    (performed : Performed deps w de (result, w') calls) :
    lastCommand w'.log = lastCommand w.log := by
  rw [lastCommand, performed.log, List.foldl_append]
  exact performed.outcome.lastCommands _ _

/-- Performing an effect changes what the switch holds, and nothing else. -/
theorem Sharing.performed {result : Except AuthdError (Option Event)} {later : List DirectedEffect}
    (sharing : Sharing cfg port rest w)
    (performed : Performed (onSwitch base display) w de (result, w') calls)
    (lagging : Lagging (fun s posture => s.Gates port (opens posture)) port later w') :
    Sharing cfg port later w' := by
  obtain ⟨rfl, sessions, aimed, -⟩ := sharing
  have pae : w'.pae = w.pae := performed.pae
  refine ⟨by rw [pae], ?_, ?_, lagging⟩
  · rw [pae, lastCommand_performed performed]
    exact sessions
  · rw [lastCommand_performed performed]
    exact aimed

theorem Sharing.act {follow : Option Event} (sharing : Sharing cfg port (de :: rest) w)
    (performed : Performed (onSwitch base display) w de (.ok follow, w') calls) :
    Sharing cfg port rest w' := by
  have programs : ∀ (s : SonicEnforcer Databases) posture target auth, s.Gates port (opens posture) →
      (SonicEnforcer.apply (redisConn ε) port target auth s).1 = .ok () →
      (SonicEnforcer.apply (redisConn ε) port target auth s).2.Gates port (opens (some auth)) :=
    fun _ _ _ _ gates ran => gates.apply ran
  exact sharing.performed performed (sharing.lagging.act programs performed)

theorem sharing_broughtUp (base : Deps ω) (display : SonicError ε → String) {port : String}
    (ctxTemplate : RequestContext) (cfg : PaeConfig) {s : SonicEnforcer Databases} (env : ω)
    (trapped : (SonicEnforcer.ensureEapolTrap (redisConn ε) port s).1 = .ok ()) :
    Sharing cfg port [] (broughtUp base display port ctxTemplate cfg s env) := by
  have gates := SonicEnforcer.gates_bringUp trapped
  obtain ⟨named, pae, unrecorded, programmed⟩ :=
    broughtUp_closed base display port ctxTemplate cfg s env
  have silent : lastCommand (broughtUp base display port ctxTemplate cfg s env).log = none := by
    rw [inForce_eq_lastCommand] at unrecorded
    exact Option.map_eq_none_iff.mp unrecorded
  refine ⟨by rw [pae]; rfl, ⟨fun _ => none, ?_, ?_⟩, ?_, ⟨named, ⟨none, ?_, unrecorded.symm⟩, trivial⟩⟩
  · rw [pae]
    exact .new cfg
  · rw [silent]
    exact ⟨by simp, fun _ _ => rfl⟩
  · rw [silent]
    simp
  · rw [programmed]
    exact gates.apply gates.close

end Invariant

/-! ## The main result -/

/-- What the sessions of a port with one dataplane can count on: the port is open exactly when
the last command of any of them opens it, so an authorized session finds it closed exactly when
the last command was `Unauthorized`, for another MAC. -/
structure LastWins {ω : Type} (port : String) (w : World (SonicEnforcer Databases × ω)) : Prop where
  opened : (w.env.1.conn .config (denyRuleKey port)).isSome = false ↔
    ∃ mac auth, lastCommand w.log = some (some mac, auth) ∧ auth ≠ .unauthorized
  shut : ∀ s ∈ w.pae.sessions, s.accountingOpen = true →
    ((w.env.1.conn .config (denyRuleKey port)).isSome = true ↔
      ∃ other, other ≠ s.mac ∧ lastCommand w.log = some (some other, .unauthorized))

theorem Sharing.lastWins {ω : Type} {cfg : PaeConfig} {port : String}
    {w : World (SonicEnforcer Databases × ω)} (own : cfg.hostMode ≠ .multiHost)
    (sharing : Sharing cfg port [] w) : LastWins port w := by
  have rule := sharing.lagging.settled.rule
  obtain ⟨rfl, ⟨P, inv, remembers⟩, aimed, -⟩ := sharing
  have narrow : ∀ mac, portTarget w.pae.cfg.hostMode mac = some mac := by
    intro mac
    simp [portTarget, own]
  simp only [narrow] at aimed
  rw [inForce_eq_lastCommand] at rule
  have granted : ∀ s ∈ w.pae.sessions, s.accountingOpen = true →
      ∃ a, P (some s.mac) = some (.authorized a) := by
    intro s member opened
    have held := inv.posture s member
    rw [narrow] at held
    obtain ⟨a, -, authorized⟩ := held.authorized_of_open opened
    exact ⟨a, authorized⟩
  cases last : lastCommand w.log with
  | none =>
      rw [last] at rule
      have present : (w.env.1.conn .config (denyRuleKey port)).isSome = true := rule
      refine ⟨by simp [present, last], ?_⟩
      intro s member opened
      obtain ⟨a, authorized⟩ := granted s member opened
      rw [remembers.never last] at authorized
      cases authorized
  | some command =>
      obtain ⟨target, auth⟩ := command
      obtain ⟨mac, rfl⟩ := aimed target auth last
      have known := remembers.known _ _ last
      rw [last] at rule
      have closing : (w.env.1.conn .config (denyRuleKey port)).isSome = true ↔ auth = .unauthorized := by
        rw [rule]
        cases auth <;> simp [opens, desired, Desired.fromAuthorization]
      refine ⟨?_, ?_⟩
      · rw [← Bool.not_eq_true, closing, last]
        constructor
        · exact fun opening => ⟨mac, auth, rfl, opening⟩
        · rintro ⟨other, same, ⟨⟩, opening⟩
          exact opening
      · intro s member opened
        obtain ⟨a, authorized⟩ := granted s member opened
        rw [closing, last]
        constructor
        · rintro rfl
          refine ⟨mac, ?_, rfl⟩
          rintro rfl
          rw [authorized] at known
          cases known
        · rintro ⟨other, -, ⟨⟩⟩
          rfl

/-- **The last authorization wins.**  On a port with a session for every MAC, brought up and
enabled, after every run in which nothing but a RADIUS round-trip fails: the default-deny rule
is gone exactly when the last command of any session opens the port.  The port of an authorized
session is closed exactly when the last command was `Unauthorized`, for another MAC. -/
theorem last_authorization_wins {ε ω : Type} [RadiusProto] (base : Deps ω)
    (display : SonicError ε → String) (port : String) (ctxTemplate : RequestContext)
    (cfg : PaeConfig) (shared : cfg.hostMode = .multiAuth ∨ cfg.hostMode = .multiDomain)
    (s : SonicEnforcer Databases) (env : ω)
    (trapped : (SonicEnforcer.ensureEapolTrap (redisConn ε) port s).1 = .ok ())
    (inputs : List (MacAddr × Event))
    (succeeds : ServesWithin (onSwitch base display) (fun _ de _ => de.effect.isRequest = true)
      (broughtUp base display port ctxTemplate cfg s env) inputs) :
    LastWins port (serve (onSwitch base display)
      (broughtUp base display port ctxTemplate cfg s env) inputs) := by
  have own : cfg.hostMode ≠ .multiHost := by
    rcases shared with mode | mode <;> rw [mode] <;> decide
  have sharing : Sharing cfg port [] (serve (onSwitch base display)
      (broughtUp base display port ctxTemplate cfg s env) inputs) :=
    serve_effects_invariant (fun mac event _ sharing => sharing.enter mac event)
      (fun sharing performed => sharing.act performed)
      (fun sharing performed asks =>
        sharing.performed performed (sharing.lagging.abandon performed asks))
      (sharing_broughtUp base display ctxTemplate cfg env trapped) succeeds
  exact sharing.lastWins own

section Witness

attribute [local instance] Site.proto

/-- The site on a switch, with any number of hosts on the port. -/
def sharedSite : World (SonicEnforcer Databases × Site.Script) :=
  broughtUp Site.deps (fun _ : SonicError String => "enforcer") "Ethernet4" Site.context Site.config
    (.new emptyDatabases) ⟨[.ok Site.accept], [.ok ()]⟩

/-- A second supplicant. -/
def neighbour : MacAddr := #v[0x00, 0x1a, 0x2b, 0x3c, 0x4d, 0x5f]

/-- The station is bypassed into VLAN 42: its command is the last, and the port is open. -/
theorem last_authorization_wins_bypass :
    lastCommand (serve (onSwitch Site.deps fun _ : SonicError String => "enforcer") sharedSite
        Site.bypass).log =
      some (some Site.station, .authorized { vlan := some "42" }) ∧
    LastWins "Ethernet4" (serve (onSwitch Site.deps fun _ : SonicError String => "enforcer")
      sharedSite Site.bypass) := by
  refine ⟨by decide +kernel, ?_⟩
  exact last_authorization_wins Site.deps _ "Ethernet4" Site.context _ (Or.inl rfl)
    (.new emptyDatabases) _ (by decide +kernel) Site.bypass (by decide +kernel)

/-- The neighbour shows up, nothing fails, and the port is closed on the station, whose session
is authorized. -/
theorem first_contact_closes_port :
    ¬ ∀ (base : Deps Site.Script) (display : SonicError String → String) (port : String)
      (ctxTemplate : RequestContext) (cfg : PaeConfig),
      cfg.hostMode = .multiAuth ∨ cfg.hostMode = .multiDomain →
      ∀ (s : SonicEnforcer Databases) (env : Site.Script),
      (SonicEnforcer.ensureEapolTrap (redisConn String) port s).1 = .ok () →
      ∀ inputs : List (MacAddr × Event),
      ServesWithin (onSwitch base display) (fun _ _ _ => False)
        (broughtUp base display port ctxTemplate cfg s env) inputs →
      ∀ t ∈ (serve (onSwitch base display) (broughtUp base display port ctxTemplate cfg s env)
        inputs).pae.sessions, t.accountingOpen = true →
      ((serve (onSwitch base display) (broughtUp base display port ctxTemplate cfg s env)
        inputs).env.1.conn .config (denyRuleKey port)).isSome = false := by
  intro claim
  have open_ := claim Site.deps (fun _ => "enforcer") "Ethernet4" Site.context Site.config (Or.inl rfl)
    (.new emptyDatabases) ⟨[.ok Site.accept], [.ok ()]⟩ (by decide +kernel)
    (Site.bypass ++ [(neighbour, .eapolStart)]) (by decide +kernel)
  revert open_
  decide +kernel

end Witness

end Authenticator.Authd
