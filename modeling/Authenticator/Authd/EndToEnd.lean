/-
# Authd.EndToEnd -- CONFIG_DB is in step with the session of a port

The whole path on a port with one session at a time: the session machine, the host mode,
the orchestrator and the SONiC enforcer with its cache and its database.  As long as
nothing but a RADIUS round-trip fails, after every call the entries of the port are the
representation of the posture of its session.

`Lagging` says that the switch follows the commands of the PAE, but for the effects that are
left; `Programming` carries three copies of one posture through a call: what the session
commanded, what the cache remembers and what the database holds.

The port must have a name that a list field can hold: under a name with a comma an
operator's table never lists the port (`comma_port_out_of_step`).
-/
import Authenticator.Pae.Solo
import Authenticator.Enforce.Resync
import Authenticator.Authd.Run

namespace Authenticator.Authd

set_option autoImplicit false

open Authenticator.Pacp Authenticator.Pae Authenticator.Radius Authenticator.Theory
open Authenticator.Enforce

/-! ## The orchestrator on a SONiC switch -/

section Switch

variable {ε ω : Type}

/-- A boundary that does not reach the switch. -/
def beside {α : Type} (m : Prog AuthdError ω α) :
    Prog AuthdError (SonicEnforcer Databases × ω) α :=
  m.zoom Prod.snd fun env s => (s.1, env)

/-- The boundaries of `base`, with the SONiC enforcer in place of its enforcer. -/
def onSwitch (base : Deps ω) (display : SonicError ε → String) :
    Deps (SonicEnforcer Databases × ω) where
  sendEap mac eap := beside (base.sendEap mac eap)
  accessRequest request := beside (base.accessRequest request)
  accounting request := beside (base.accounting request)
  apply port target auth :=
    ((SonicEnforcer.apply (redisConn ε) port target auth).mapError display).zoom Prod.fst
      fun s env => (s, env.2)
  arm mac kind secs env := (env.1, base.arm mac kind secs env.2)
  cancel mac kind env := (env.1, base.cancel mac kind env.2)
  cancelAll mac env := (env.1, base.cancelAll mac env.2)
  generateRequestAuthenticator env :=
    ((base.generateRequestAuthenticator env.2).1,
      (env.1, (base.generateRequestAuthenticator env.2).2))
  timers := base.timers
  secret := base.secret

variable [RadiusProto] {base : Deps ω} {display : SonicError ε → String} {port : String}
variable {env env' : SonicEnforcer Databases × ω} {de : DirectedEffect} {calls : List Call}
variable {result : Except AuthdError (Option Event)}

/-- Only a command reaches the switch. -/
theorem Dispatched.switch_kept
    (outcome : Dispatched (onSwitch base display) port env de calls env' result)
    (quiet : de.effect.isSetAuthorization = false) : env'.1 = env.1 := by
  cases outcome with
  | applied mac auth => cases quiet
  | unanswered _ _ _ _ _ _ called | discarded _ _ _ _ _ _ _ called
  | answered _ _ _ _ _ _ _ _ called =>
      exact (congrArg (fun r => r.2.1) called).symm
  | _ => rfl

/-- A command calls the enforcer, and fails if the enforcer does. -/
theorem Dispatched.switch_applied {auth : PortAuthorization}
    (outcome : Dispatched (onSwitch base display) port env de calls env' result)
    (command : de.effect = .setAuthorization auth) :
    env'.1 = (SonicEnforcer.apply (redisConn ε) port (targetOf de.mac) auth env.1).2 ∧
      ∀ follow, result = .ok follow →
        (SonicEnforcer.apply (redisConn ε) port (targetOf de.mac) auth env.1).1 = .ok () := by
  have unasked : ∀ {mac}, de.asks = some mac → False := by
    intro mac asked
    have asking := DirectedEffect.isRequest_of_asks asked
    rw [command] at asking
    cases asking
  cases outcome with
  | applied mac other =>
      cases command
      refine ⟨rfl, ?_⟩
      intro follow
      show (((SonicEnforcer.apply (redisConn ε) port (targetOf mac) auth env.1).1.mapError
        display).mapError AuthdError.enforce).map _ = _ → _
      cases (SonicEnforcer.apply (redisConn ε) port (targetOf mac) auth env.1).1 with
      | ok u => exact fun _ => rfl
      | error e =>
          intro done
          cases done
  | idle effect quiet => exact absurd command (quiet auth)
  | refused _ _ asked | unanswered _ _ asked | discarded _ _ asked | answered _ _ asked =>
      exact absurd asked unasked
  | _ => cases command

end Switch

/-! ## The invariant of a run -/

def Entry.posture (posture : Option PortAuthorization) : Entry → Option PortAuthorization
  | ⟨_, .handled _ _ fx⟩ => commanded posture (bare fx)
  | _ => posture

/-- The last command of the PAE, at whatever target. -/
def inForce (log : List Entry) : Option PortAuthorization := log.foldl Entry.posture none

/-- The posture of a port that was last commanded so; closed when it never was. -/
def desired : Option PortAuthorization → Desired
  | some auth => .fromAuthorization auth
  | none => {}

theorem desired_closed {posture : Option PortAuthorization} (closed : Closed posture) :
    desired posture = {} := by
  rcases closed with rfl | rfl <;> rfl

theorem commanded_of_quiet {fx : List Effect} (quiet : ∀ effect ∈ fx, effect.isSetAuthorization = false)
    (posture : Option PortAuthorization) : commanded posture fx = posture := by
  induction fx with
  | nil => rfl
  | cons effect rest ih =>
      have here := quiet effect List.mem_cons_self
      have same : effect.command posture = posture := by
        cases effect <;> first | rfl | cases here
      rw [commanded_cons, same]
      exact ih fun later member => quiet later (List.mem_cons_of_mem _ member)

section Lag

variable {ε ω : Type} {port : String} {G : SonicEnforcer Databases → Option PortAuthorization → Prop}
variable {w w' : World (SonicEnforcer Databases × ω)}

/-- The switch follows the commands of the PAE, but for the effects left.  `G` is what it
holds under the posture last programmed. -/
structure Lagging (G : SonicEnforcer Databases → Option PortAuthorization → Prop) (port : String)
    (rest : List DirectedEffect) (w : World (SonicEnforcer Databases × ω)) : Prop where
  named : w.orch.port = port
  switch : ∃ posture, G w.env.1 posture ∧ commanded posture (bare rest) = inForce w.log
  last : RequestsLast (bare rest)

theorem Lagging.settled (lagging : Lagging G port [] w) : G w.env.1 (inForce w.log) := by
  obtain ⟨posture, held, same⟩ := lagging.switch
  have same : posture = inForce w.log := same
  rw [← same]
  exact held

theorem inForce_feedPae (mac : MacAddr) (event : Event) (w : World (SonicEnforcer Databases × ω)) :
    inForce (feedPae mac event w).2.log =
      commanded (inForce w.log) (bare (w.pae.handle mac event).2) := List.foldl_concat ..

theorem Lagging.enter (lagging : Lagging G port [] w) (mac : MacAddr) (event : Event) :
    Lagging G port (feedPae mac event w).1 (feedPae mac event w).2 :=
  ⟨lagging.named, ⟨inForce w.log, lagging.settled, (inForce_feedPae mac event w).symm⟩,
    (w.pae.handle_outputs mac event).last⟩

variable [RadiusProto] {base : Deps ω} {display : SonicError ε → String} {de : DirectedEffect}
variable {rest : List DirectedEffect} {calls : List Call}

theorem Dispatched.postures {deps : Deps (SonicEnforcer Databases × ω)}
    {env env' : SonicEnforcer Databases × ω} {result : Except AuthdError (Option Event)}
    (outcome : Dispatched deps port env de calls env' result) (serving : Option MacAddr)
    (posture : Option PortAuthorization) :
    (calls.map fun call => (⟨serving, call⟩ : Entry)).foldl Entry.posture posture = posture := by
  cases outcome <;> rfl

theorem inForce_performed {deps : Deps (SonicEnforcer Databases × ω)}
    {result : Except AuthdError (Option Event)}
    (performed : Performed deps w de (result, w') calls) : inForce w'.log = inForce w.log := by
  rw [inForce, performed.log, List.foldl_append]
  exact performed.outcome.postures _ _

/-- **The step lemma of the switch**: performing an effect. -/
theorem Lagging.act {follow : Option Event}
    (programs : ∀ s posture target auth, G s posture →
      (SonicEnforcer.apply (redisConn ε) port target auth s).1 = .ok () →
      G (SonicEnforcer.apply (redisConn ε) port target auth s).2 (some auth))
    (lagging : Lagging G port (de :: rest) w)
    (performed : Performed (onSwitch base display) w de (.ok follow, w') calls) :
    Lagging G port rest w' := by
  obtain ⟨rfl, ⟨posture, held, same⟩, last⟩ := lagging
  refine ⟨performed.port, ?_, last.2⟩
  rw [inForce_performed performed]
  cases command : de.effect with
  | setAuthorization auth =>
      obtain ⟨programmed, succeeds⟩ := performed.outcome.switch_applied command
      refine ⟨some auth, ?_, ?_⟩
      · show G w'.env.1 _
        rw [programmed]
        exact programs _ posture _ auth held (succeeds follow rfl)
      · rw [← same]
        show _ = commanded (de.effect.command posture) (bare rest)
        rw [command]
        rfl
  | _ =>
      have kept : w'.env.1 = w.env.1 := performed.outcome.switch_kept (by rw [command]; rfl)
      refine ⟨posture, by rw [kept]; exact held, ?_⟩
      rw [← same]
      show _ = commanded (de.effect.command posture) (bare rest)
      rw [command]
      rfl

/-- What a failed round-trip leaves: no command stood behind it. -/
theorem Lagging.abandon {e : AuthdError} (lagging : Lagging G port (de :: rest) w)
    (performed : Performed (onSwitch base display) w de (.error e, w') calls)
    (asks : de.effect.isRequest = true) : Lagging G port [] w' := by
  obtain ⟨rfl, ⟨posture, held, same⟩, last⟩ := lagging
  have quiet := (Effect.quiet_of_isRequest asks).2
  have kept : w'.env.1 = w.env.1 := performed.outcome.switch_kept quiet
  have settled : commanded posture (bare (de :: rest)) = posture := by
    apply commanded_of_quiet
    intro effect member
    rcases List.mem_cons.mp member with rfl | later
    · exact quiet
    · exact last.1 asks effect later
  refine ⟨performed.port, ⟨posture, by rw [kept]; exact held, ?_⟩, trivial⟩
  rw [inForce_performed performed, ← same, settled]
  rfl

end Lag

section Invariant

variable {ω : Type} {cfg : PaeConfig} {port : String}

/-- The session is in the posture last commanded, and the switch will be, once the
effects left are performed. -/
structure Programming (cfg : PaeConfig) (port : String) (rest : List DirectedEffect)
    (w : World (SonicEnforcer Databases × ω)) : Prop where
  configured : w.pae.cfg = cfg
  named : w.orch.port = port
  solo : SoloInv w.pae (inForce w.log)
  switch : ∃ posture, w.env.1.Holds port (desired posture) ∧
    commanded posture (bare rest) = inForce w.log
  last : RequestsLast (bare rest)

variable {w w' : World (SonicEnforcer Databases × ω)} {rest : List DirectedEffect}

theorem Programming.lagging (programming : Programming cfg port rest w) :
    Lagging (fun s posture => s.Holds port (desired posture)) port rest w :=
  ⟨programming.named, programming.switch, programming.last⟩

theorem Programming.enter (solo : cfg.hostMode.Solo) (programming : Programming cfg port [] w)
    (mac : MacAddr) (event : Event) :
    Programming cfg port (feedPae mac event w).1 (feedPae mac event w).2 := by
  obtain ⟨named, switch, last⟩ := programming.lagging.enter mac event
  obtain ⟨rfl, -, inv, -, -⟩ := programming
  refine ⟨w.pae.handle_cfg mac event, named, ?_, switch, last⟩
  rw [inForce_feedPae]
  exact inv.handle solo mac event

variable {ε : Type} [RadiusProto] {base : Deps ω} {display : SonicError ε → String}
variable {de : DirectedEffect} {calls : List Call}

/-- **The step lemma**: performing an effect. -/
theorem Programming.act {follow : Option Event} (clean : ListName port)
    (programming : Programming cfg port (de :: rest) w)
    (performed : Performed (onSwitch base display) w de (.ok follow, w') calls) :
    Programming cfg port rest w' := by
  have programs : ∀ (s : SonicEnforcer Databases) posture target auth,
      s.Holds port (desired posture) →
      (SonicEnforcer.apply (redisConn ε) port target auth s).1 = .ok () →
      (SonicEnforcer.apply (redisConn ε) port target auth s).2.Holds port (desired (some auth)) :=
    fun _ _ _ _ held ran => held.apply clean ran
  obtain ⟨named, switch, last⟩ := programming.lagging.act programs performed
  obtain ⟨rfl, -, inv, -, -⟩ := programming
  have pae : w'.pae = w.pae := performed.pae
  refine ⟨by rw [pae], named, ?_, switch, last⟩
  rw [pae, inForce_performed performed]
  exact inv

theorem Programming.abandon {e : AuthdError} (programming : Programming cfg port (de :: rest) w)
    (performed : Performed (onSwitch base display) w de (.error e, w') calls)
    (asks : de.effect.isRequest = true) : Programming cfg port [] w' := by
  obtain ⟨named, switch, last⟩ := programming.lagging.abandon performed asks
  obtain ⟨rfl, -, inv, -, -⟩ := programming
  have pae : w'.pae = w.pae := performed.pae
  refine ⟨by rw [pae], named, ?_, switch, last⟩
  rw [pae, inForce_performed performed]
  exact inv

end Invariant

/-! ## The main result -/

/-- What CONFIG_DB holds for the port, read off its session: its authorization while
accounting is open, its fallback VLAN while that is in force, and the closed posture
otherwise and when there is no session. -/
structure InStep {ω : Type} (cfg : PaeConfig) (port : String)
    (w : World (SonicEnforcer Databases × ω)) : Prop where
  unique : w.pae.sessions = [] ∨ ∃ s, w.pae.sessions = [s] ∧ s.state ≠ .new
  vacant : w.pae.sessions = [] → Represents (w.env.1.conn .config) port {}
  granted : ∀ s ∈ w.pae.sessions, s.accountingOpen = true →
    ∃ a, s.authz = some a ∧
      Represents (w.env.1.conn .config) port (.fromAuthorization (.authorized a))
  parked : ∀ s ∈ w.pae.sessions, ∀ reason, s.state = .fallback reason →
    ∃ vlan, cfg.fallbackVlan reason = some vlan ∧
      inForce w.log = some (.fallback reason (some vlan))
  fallback : ∀ reason vlan, inForce w.log = some (.fallback reason vlan) →
    Represents (w.env.1.conn .config) port (.fromAuthorization (.fallback reason vlan))
  closed : ∀ s ∈ w.pae.sessions, s.accountingOpen = false →
    (∀ reason vlan, inForce w.log ≠ some (.fallback reason vlan)) →
    Represents (w.env.1.conn .config) port {}

theorem Programming.inStep {ω : Type} {cfg : PaeConfig} {port : String}
    {w : World (SonicEnforcer Databases × ω)} (programming : Programming cfg port [] w) :
    InStep cfg port w := by
  have stored : Represents (w.env.1.conn .config) port (desired (inForce w.log)) :=
    programming.lagging.settled.database
  obtain ⟨rfl, -, inv, -, -⟩ := programming
  have fallback : ∀ reason vlan, inForce w.log = some (.fallback reason vlan) →
      Represents (w.env.1.conn .config) port (.fromAuthorization (.fallback reason vlan)) := by
    intro reason vlan parked
    rw [parked] at stored
    exact stored
  cases inv with
  | idle none closed =>
      have shut : Represents (w.env.1.conn .config) port {} := by
        rw [desired_closed closed] at stored
        exact stored
      exact ⟨Or.inl none, fun _ => shut, by simp [none], by simp [none], fallback, fun _ _ _ _ => shut⟩
  | live s one alive inv =>
      refine ⟨Or.inr ⟨s, one, alive⟩, by simp [one], ?_, ?_, fallback, ?_⟩
      · intro t member opened
        rw [one, List.mem_singleton] at member
        subst member
        obtain ⟨a, known, authorized⟩ := inv.authorized_of_open opened
        rw [authorized] at stored
        exact ⟨a, known, stored⟩
      · intro t member
        rw [one, List.mem_singleton] at member
        subst member
        exact inv.parked
      · intro t member idle unparked
        rw [one, List.mem_singleton] at member
        subst member
        have shut : Closed (inForce w.log) := by
          cases last : inForce w.log with
          | none => exact Or.inl rfl
          | some auth =>
              cases auth with
              | authorized a =>
                  have opened := ((inv.granted a).mp last).1
                  rw [idle] at opened
                  cases opened
              | unauthorized => exact Or.inr rfl
              | fallback reason vlan => exact absurd last (unparked reason vlan)
        rw [desired_closed shut] at stored
        exact stored

/-- Bringing the port up and enabling it. -/
def broughtUp {ε ω : Type} [RadiusProto] (base : Deps ω) (display : SonicError ε → String)
    (port : String) (ctxTemplate : RequestContext) (cfg : PaeConfig)
    (s : SonicEnforcer Databases) (env : ω) : World (SonicEnforcer Databases × ω) :=
  (applyEffects (onSwitch base display) (PortPae.new cfg).enable (.start port ctxTemplate cfg
    ((SonicEnforcer.ensureEapolTrap (redisConn ε) port s).2, env))).2

/-- A port that was brought up has no session and has commanded nothing; the enforcer closed
it last. -/
theorem broughtUp_closed {ε ω : Type} [RadiusProto] (base : Deps ω)
    (display : SonicError ε → String) (port : String) (ctxTemplate : RequestContext)
    (cfg : PaeConfig) (s : SonicEnforcer Databases) (env : ω) :
    let w := broughtUp base display port ctxTemplate cfg s env
    w.orch.port = port ∧ w.pae = .new cfg ∧ inForce w.log = none ∧
      w.env.1 = (SonicEnforcer.apply (redisConn ε) port .port .unauthorized
        (SonicEnforcer.ensureEapolTrap (redisConn ε) port s).2).2 := by
  dsimp only
  obtain ⟨calls, performed⟩ := dispatch_performed (onSwitch base display)
    ⟨none, .setAuthorization .unauthorized⟩ (.start port ctxTemplate cfg
      ((SonicEnforcer.ensureEapolTrap (redisConn ε) port s).2, env))
  rw [broughtUp, PortPae.enable, applyEffects_singleton]
  generalize dispatch (onSwitch base display) _ _ = r at performed ⊢
  obtain ⟨result, w⟩ := r
  exact ⟨performed.port, performed.pae, inForce_performed performed,
    (performed.outcome.switch_applied rfl).1⟩

theorem programming_broughtUp {ε ω : Type} [RadiusProto] (base : Deps ω)
    (display : SonicError ε → String) {port : String} (ctxTemplate : RequestContext)
    (cfg : PaeConfig) {s : SonicEnforcer Databases} (env : ω) (clean : ListName port)
    (bare : NoEntries (s.conn .config) port)
    (trapped : (SonicEnforcer.ensureEapolTrap (redisConn ε) port s).1 = .ok ()) :
    Programming cfg port [] (broughtUp base display port ctxTemplate cfg s env) := by
  have held := SonicEnforcer.holds_bringUp bare trapped
  obtain ⟨named, pae, unrecorded, programmed⟩ :=
    broughtUp_closed base display port ctxTemplate cfg s env
  refine ⟨by rw [pae]; rfl, named, ?_, ⟨none, ?_, unrecorded.symm⟩, trivial⟩
  · rw [unrecorded, pae]
    exact .new cfg
  · rw [programmed]
    exact held.apply clean held.gates.close

/-- **The database is in step with the session.**  On a port that admits one session at a
time and has a name a list field can hold, brought up on a database without entries for it
and enabled, after every run in which nothing but a RADIUS round-trip fails, CONFIG_DB
holds for the port exactly what its session says. -/
theorem database_in_step {ε ω : Type} [RadiusProto] (base : Deps ω)
    (display : SonicError ε → String) (port : String) (ctxTemplate : RequestContext)
    (cfg : PaeConfig) (solo : cfg.hostMode = .singleHost ∨ cfg.hostMode = .multiHost)
    (s : SonicEnforcer Databases) (env : ω) (clean : ListName port)
    (bare : NoEntries (s.conn .config) port)
    (trapped : (SonicEnforcer.ensureEapolTrap (redisConn ε) port s).1 = .ok ())
    (inputs : List (MacAddr × Event))
    (succeeds : ServesWithin (onSwitch base display) (fun _ de _ => de.effect.isRequest = true)
      (broughtUp base display port ctxTemplate cfg s env) inputs) :
    InStep cfg port (serve (onSwitch base display)
      (broughtUp base display port ctxTemplate cfg s env) inputs) := by
  have programming : Programming cfg port [] (serve (onSwitch base display)
      (broughtUp base display port ctxTemplate cfg s env) inputs) :=
    serve_effects_invariant
      (fun mac event _ programming => programming.enter (HostMode.solo_iff.mpr solo) mac event)
      (fun programming performed => programming.act clean performed)
      (fun programming performed asks => programming.abandon performed asks)
      (programming_broughtUp base display ctxTemplate cfg env clean bare trapped) succeeds
  exact programming.inStep

section Witness

attribute [local instance] Site.proto

/-- The site on a switch, with one host on the port. -/
def switchSite : World (SonicEnforcer Databases × Site.Script) :=
  broughtUp Site.deps (fun _ : SonicError String => "enforcer") "Ethernet4" Site.context
    { Site.config with hostMode := .singleHost } (.new emptyDatabases) ⟨[.ok Site.accept], [.ok ()]⟩

/-- A silent supplicant is bypassed: its session holds VLAN 42, and so does CONFIG_DB. -/
theorem database_in_step_bypass :
    (∃ s ∈ (serve (onSwitch Site.deps fun _ : SonicError String => "enforcer") switchSite
        Site.bypass).pae.sessions,
      s.accountingOpen = true ∧ s.authz = some { vlan := some "42" }) ∧
      InStep { Site.config with hostMode := .singleHost } "Ethernet4"
        (serve (onSwitch Site.deps fun _ : SonicError String => "enforcer") switchSite
          Site.bypass) := by
  refine ⟨by decide +kernel, ?_⟩
  exact database_in_step Site.deps _ "Ethernet4" Site.context _ (Or.inl rfl) (.new emptyDatabases)
    _ (by decide) (noEntries_empty "Ethernet4") (by decide +kernel) Site.bypass (by decide +kernel)

/-- CONFIG_DB with one ACL table of the operator, bound to no port. -/
def opsDatabases : Databases := fun db =>
  if db = .config then Function.update (fun _ => none) (aclTableKey "OPS") (some fun _ => none)
  else fun _ => none

theorem noEntries_ops {port : String} (foreign : denyTable port ≠ "OPS") :
    NoEntries (opsDatabases .config) port := by
  have unlisted : ∀ table, hget (opsDatabases .config) (aclTableKey table) "ports" = none := by
    intro table
    by_cases here : aclTableKey table = aclTableKey "OPS" <;>
      simp [opsDatabases, hget, Function.update, here]
  refine ⟨?_, ?_, ?_, ?_, ?_⟩
  · simp [opsDatabases, Function.update]
  · simp [opsDatabases, Function.update]
  · simp [opsDatabases, Function.update, foreign]
  · simp [opsDatabases, Function.update]
  · intro table
    rw [ports, unlisted]
    exact List.not_mem_nil

/-- The site on a port whose name a list field cannot hold, with an accept that binds the
port to the table of the operator. -/
def commaSite : World (SonicEnforcer Databases × Site.Script) :=
  broughtUp Site.deps (fun _ : SonicError String => "enforcer") "Eth0,Eth4" Site.context
    { Site.config with hostMode := .singleHost } (.new opsDatabases)
    ⟨[.ok { Site.accept with attributes := [⟨AttributeType.filterId, utf8 "OPS"⟩] }], [.ok ()]⟩

/-- The list field of the table splits the name of the port in two, so the port is let
through and the table does not list it. -/
theorem comma_port_out_of_step :
    NoEntries (opsDatabases .config) "Eth0,Eth4" ∧
      (SonicEnforcer.ensureEapolTrap (redisConn String) "Eth0,Eth4"
        (.new opsDatabases)).1 = .ok () ∧
      ServesWithin (onSwitch Site.deps fun _ : SonicError String => "enforcer") (fun _ _ _ => False)
        commaSite Site.bypass ∧
      ¬ InStep { Site.config with hostMode := .singleHost } "Eth0,Eth4"
        (serve (onSwitch Site.deps fun _ : SonicError String => "enforcer") commaSite
          Site.bypass) := by
  refine ⟨noEntries_ops (by decide), by decide +kernel, by decide +kernel, ?_⟩
  have holds : ∃ s ∈ (serve (onSwitch Site.deps fun _ : SonicError String => "enforcer") commaSite
      Site.bypass).pae.sessions, s.accountingOpen = true ∧ s.authz = some { filterId := some "OPS" } := by
    decide +kernel
  generalize serve (onSwitch Site.deps fun _ : SonicError String => "enforcer") commaSite
    Site.bypass = w at holds
  intro inStep
  obtain ⟨s, member, opened, authz⟩ := holds
  obtain ⟨a, known, stored⟩ := inStep.granted s member opened
  rw [authz] at known
  cases known
  have listed := (stored.filter "OPS" (by decide)).mpr rfl
  exact absurd (listName_of_mem listed) (by decide)

end Witness

end Authenticator.Authd
