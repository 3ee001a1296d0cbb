/-
# Authd.OpenPort -- an open port was opened by the server or by its configuration

What CONFIG_DB holds for a running port, in any host mode, is the posture the enforcer was last
asked for, if the port has a name a list field can hold and CONFIG_DB had no entries for it.  `port_open_granted` says where that posture comes from when the port is open: a
grant that a verified Access-Accept made to a supplicant of the port, or a fallback VLAN its
configuration names.  Nothing else opens a port.
-/
import Authenticator.Pae.Fallback
import Authenticator.Authd.PortInStep
import Authenticator.Authd.Provenance
import Authenticator.Theory.Since

namespace Authenticator.Authd

set_option autoImplicit false

open Authenticator.Pacp Authenticator.Pae Authenticator.Radius Authenticator.Theory
open Authenticator.Enforce
open Authenticator.Theory.Timers (Background)

/-! ## The posture last asked for -/

/-- The posture the enforcer is asked for. -/
def Entry.asked : Entry → Option PortAuthorization
  | ⟨_, .apply _ auth _⟩ => some auth
  | _ => none

/-- The enforcer was last asked for `auth`, by the entry. -/
def LastAsked (entry : Entry) (auth : PortAuthorization) (log : List Entry) : Prop :=
  entry.asked = some auth ∧
    Since (fun _ last => last = entry) (fun _ later => later.asked.isSome = true) log

section Effects

variable {ω : Type} [RadiusProto] {deps : Deps ω} {port : String} {env env' : ω}
variable {de : DirectedEffect} {calls : List Call} {result : Except AuthdError (Option Event)}

theorem Dispatched.calls_of_command {auth : PortAuthorization}
    (outcome : Dispatched deps port env de calls env' result)
    (command : de.effect = .setAuthorization auth) :
    ∃ answer, calls = [.apply (targetOf de.mac) auth answer] := by
  have unasked : ∀ {mac}, de.asks = some mac → False := by
    intro mac asked
    have asking := DirectedEffect.isRequest_of_asks asked
    rw [command] at asking
    cases asking
  cases outcome with
  | applied mac other =>
      cases command
      exact ⟨_, rfl⟩
  | idle effect quiet => exact absurd command (quiet auth)
  | refused _ _ asked | unanswered _ _ asked | discarded _ _ asked | answered _ _ asked =>
      exact absurd asked unasked
  | _ => cases command

/-- An enforcer call that ends the run failed itself. -/
theorem Dispatched.refusal {target : Target} {auth : PortAuthorization} {answer : Except String Unit}
    {e : AuthdError} (outcome : Dispatched deps port env de [.apply target auth answer] env' (.error e)) :
    ∃ message, answer = .error message := by
  generalize known : Except.error e = result at outcome
  cases outcome with
  | applied mac auth =>
      cases called : (deps.apply port (targetOf mac) auth env).1 with
      | error message => exact ⟨message, rfl⟩
      | ok u =>
          rw [called] at known
          cases known

/-- A command that the enforcer obeys succeeds. -/
theorem Dispatched.obeyed {auth : PortAuthorization}
    (outcome : Dispatched deps port env de calls env' result)
    (command : de.effect = .setAuthorization auth)
    (obeys : (deps.apply port (targetOf de.mac) auth env).1 = .ok ()) : result = .ok none := by
  have unasked : ∀ {mac}, de.asks = some mac → False := by
    intro mac asked
    have asking := DirectedEffect.isRequest_of_asks asked
    rw [command] at asking
    cases asking
  cases outcome with
  | applied mac other =>
      cases command
      rw [obeys]
      rfl
  | idle effect quiet => exact absurd command (quiet auth)
  | refused _ _ asked | unanswered _ _ asked | discarded _ _ asked | answered _ _ asked =>
      exact absurd asked unasked
  | _ => cases command

theorem Dispatched.unasked (outcome : Dispatched deps port env de calls env' result)
    (quiet : de.effect.isSetAuthorization = false) (serving : Option MacAddr) :
    ∀ call ∈ calls, Entry.asked ⟨serving, call⟩ = none := by
  cases outcome with
  | applied mac auth => cases quiet
  | _ => simp [Entry.asked]

omit [RadiusProto] in
theorem LastAsked.quiets {entry : Entry} {auth : PortAuthorization} {log more : List Entry}
    (last : LastAsked entry auth log) (quiet : ∀ later ∈ more, later.asked = none) :
    LastAsked entry auth (log ++ more) := by
  induction more generalizing log with
  | nil => simpa using last
  | cons later rest ih =>
      have one : LastAsked entry auth (log ++ [later]) := by
        refine ⟨last.1, since_concat.mpr (Or.inr ⟨last.2, ?_⟩)⟩
        simp [quiet later List.mem_cons_self]
      have whole := ih one fun entry member => quiet entry (List.mem_cons_of_mem _ member)
      rwa [List.append_assoc] at whole

end Effects

/-! ## The invariant of a run -/

section Invariant

variable {ω : Type} {cfg : PaeConfig} {port : String}

/-- A fallback VLAN that is asked for is one the configuration names. -/
def Configures (cfg : PaeConfig) (auth : PortAuthorization) : Prop :=
  ∀ reason vlan, auth = .fallback reason vlan →
    ∃ v, vlan = some v ∧ cfg.fallbackInUse reason = some v

/-- The switch holds the posture last asked for, and the fallback VLANs are configured. -/
structure Following (cfg : PaeConfig) (port : String) (w : World (SonicEnforcer Databases × ω)) :
    Prop where
  configured : w.pae.cfg = cfg
  named : w.orch.port = port
  last : ∃ entry auth, LastAsked entry auth w.log ∧
    w.env.1.Holds port (.fromAuthorization auth) ∧ Configures cfg auth

/-- Inside the effects of one event. -/
def FollowingWith (cfg : PaeConfig) (port : String) (rest : List DirectedEffect)
    (w : World (SonicEnforcer Databases × ω)) : Prop :=
  Following cfg port w ∧
    ∀ de ∈ rest, ∀ auth, de.effect = .setAuthorization auth → Configures cfg auth

theorem Following.enter {w : World (SonicEnforcer Databases × ω)} (following : Following cfg port w)
    (mac : MacAddr) (event : Event) :
    FollowingWith cfg port (feedPae mac event w).1 (feedPae mac event w).2 := by
  obtain ⟨rfl, named, entry, auth, last, held, configured⟩ := following
  refine ⟨⟨w.pae.handle_cfg mac event, named, entry, auth, last.quiets ?_, held, configured⟩, ?_⟩
  · intro later member
    rw [List.mem_singleton.mp member]
    rfl
  · rintro de member _ command reason vlan rfl
    have asked : de ∈ (portMachine.step w.pae (.handle mac event)).2 := member
    exact step_parks asked command

variable {ε : Type} [RadiusProto] {base : Deps ω} {display : SonicError ε → String}

/-- An effect that commands nothing leaves the switch alone, whatever its outcome. -/
theorem Following.quiet {de : DirectedEffect} {w w' : World (SonicEnforcer Databases × ω)}
    {calls : List Call} {result : Except AuthdError (Option Event)} (following : Following cfg port w)
    (performed : Performed (onSwitch base display) w de (result, w') calls)
    (quiet : de.effect.isSetAuthorization = false) : Following cfg port w' := by
  obtain ⟨rfl, rfl, entry, auth, last, held, configured⟩ := following
  have pae : w'.pae = w.pae := performed.pae
  have log : w'.log = w.log ++ calls.map fun call => ⟨w.serving, call⟩ := performed.log
  have kept : w'.env.1 = w.env.1 := performed.outcome.switch_kept quiet
  refine ⟨by rw [pae], performed.port, entry, auth, ?_, by rw [kept]; exact held, configured⟩
  rw [log]
  refine last.quiets ?_
  intro later member
  obtain ⟨call, made, rfl⟩ := List.mem_map.mp member
  exact performed.outcome.unasked quiet _ call made

/-- **The step lemma**: performing an effect. -/
theorem FollowingWith.act {de : DirectedEffect} {rest : List DirectedEffect}
    {w w' : World (SonicEnforcer Databases × ω)} {calls : List Call} {follow : Option Event}
    (clean : ListName port) (following : FollowingWith cfg port (de :: rest) w)
    (performed : Performed (onSwitch base display) w de (.ok follow, w') calls) :
    FollowingWith cfg port rest w' := by
  obtain ⟨following, fallbacks⟩ := following
  refine ⟨?_, fun de member => fallbacks de (List.mem_cons_of_mem _ member)⟩
  cases command : de.effect with
  | setAuthorization wanted =>
      obtain ⟨rfl, rfl, entry, auth, last, held, configured⟩ := following
      have pae : w'.pae = w.pae := performed.pae
      have log : w'.log = w.log ++ calls.map fun call => ⟨w.serving, call⟩ := performed.log
      obtain ⟨answer, rfl⟩ := performed.outcome.calls_of_command command
      obtain ⟨programmed, succeeds⟩ := performed.outcome.switch_applied command
      refine ⟨by rw [pae], performed.port, ⟨w.serving, .apply (targetOf de.mac) wanted answer⟩, wanted,
        ⟨rfl, ?_⟩, ?_, fallbacks de List.mem_cons_self wanted command⟩
      · rw [log]
        exact since_concat.mpr (Or.inl rfl)
      · show w'.env.1.Holds _ _
        rw [programmed]
        exact held.apply clean (succeeds follow rfl)
  | _ => exact following.quiet performed (by rw [command]; rfl)

/-- A port that was brought up was closed last, and granted nothing. -/
theorem following_broughtUp (base : Deps ω) (display : SonicError ε → String)
    (ctxTemplate : RequestContext) (cfg : PaeConfig) {s : SonicEnforcer Databases} (env : ω)
    (clean : ListName port) (bare : NoEntries (s.conn .config) port)
    (trapped : (SonicEnforcer.ensureEapolTrap (redisConn ε) port s).1 = .ok ()) :
    let w := broughtUp base display port ctxTemplate cfg s env
    Following cfg port w ∧ Provenance (onSwitch base display) cfg w := by
  intro w
  have held := SonicEnforcer.holds_bringUp bare trapped
  obtain ⟨named, pae, -, programmed⟩ := broughtUp_closed base display port ctxTemplate cfg s env
  obtain ⟨answer, log⟩ : ∃ answer, w.log = [⟨none, .apply .port .unauthorized answer⟩] := by
    obtain ⟨calls, performed⟩ := dispatch_performed (onSwitch base display)
      ⟨none, .setAuthorization .unauthorized⟩ (.start port ctxTemplate cfg
        ((SonicEnforcer.ensureEapolTrap (redisConn ε) port s).2, env))
    obtain ⟨answer, rfl⟩ := performed.outcome.calls_of_command rfl
    have same : w = (dispatch (onSwitch base display) ⟨none, .setAuthorization .unauthorized⟩
        (.start port ctxTemplate cfg ((SonicEnforcer.ensureEapolTrap (redisConn ε) port s).2, env))).2 :=
      applyEffects_singleton _ _ _
    rw [same]
    exact ⟨answer, performed.log⟩
  refine ⟨⟨by rw [pae]; rfl, named, ⟨none, .apply .port .unauthorized answer⟩, .unauthorized,
    ⟨rfl, ?_⟩, ?_, ?_⟩, none, ⟨by rw [pae]; rfl, ?_⟩⟩
  · rw [log, ← List.nil_append [_]]
    exact since_concat.mpr (Or.inl rfl)
  · rw [programmed]
    exact held.apply clean held.gates.close
  · intro reason vlan parks
    cases parks
  · rw [log]
    exact Matched.nil.quiet rfl

/-- The last call was one to the enforcer, and it failed. -/
def Refused (log : List Entry) : Prop :=
  ∃ before serving target auth message,
    log = before ++ [⟨serving, .apply target auth (.error message)⟩]

/-- What an effect leaves that fails. -/
theorem FollowingWith.abandon {de : DirectedEffect} {rest : List DirectedEffect}
    {w w' : World (SonicEnforcer Databases × ω)} {calls : List Call} {e : AuthdError}
    (following : FollowingWith cfg port (de :: rest) w)
    (performed : Performed (onSwitch base display) w de (.error e, w') calls) :
    Refused w'.log ∨ Following cfg port w' := by
  cases command : de.effect with
  | setAuthorization wanted =>
      have log : w'.log = w.log ++ calls.map fun call => ⟨w.serving, call⟩ := performed.log
      obtain ⟨answer, rfl⟩ := performed.outcome.calls_of_command command
      obtain ⟨message, rfl⟩ := performed.outcome.refusal
      exact Or.inl ⟨w.log, w.serving, targetOf de.mac, wanted, message, log⟩
  | _ => exact Or.inr (following.1.quiet performed (by rw [command]; rfl))

/-- The switch follows what it is asked for until it refuses it. -/
theorem keeps_following [LawfulRadiusProto] (base : Deps ω) (display : SonicError ε → String)
    (cfg : PaeConfig) (clean : ListName port) :
    (eventQueue (onSwitch base display)).Keeps (fun _ _ _ => True)
      (fun queue w => Following cfg port w ∧ Between (onSwitch base display) cfg queue w)
      (fun task rest queue w => FollowingWith cfg port rest w ∧
        Inside (onSwitch base display) cfg task rest queue w)
      (fun w => (Refused w.log ∨ Following cfg port w) ∧
        Provenance (onSwitch base display) cfg w) := by
  have sources := keeps_provenance (onSwitch base display) cfg
  refine ⟨?_, ?_, ?_, fun _ _ _ inside => ⟨inside.1.1, inside.2.leave⟩⟩
  · intro task queue w between
    exact ⟨between.1.enter task.1 task.2, sources.enter task queue w between.2⟩
  · intro task de rest queue w follow w' inside acted
    refine ⟨?_, sources.act task de rest queue w follow w' inside.2 acted⟩
    obtain ⟨event, calls, -, performed⟩ := eventQueue_act_ok acted
    exact inside.1.act clean performed
  · intro task de rest queue w e w' inside acted ok
    obtain ⟨calls, performed⟩ := eventQueue_act_error acted
    exact ⟨inside.1.abandon performed, sources.abandon task de rest queue w e w' inside.2 acted ok⟩

/-- An event of the daemon finds no grant pending. -/
theorem Provenance.enters {deps : Deps ω} {w : World ω} {event : Event}
    (provenance : Provenance deps cfg w) (mac : MacAddr) (daemon : DaemonEvent event) :
    Between deps cfg [(mac, event)] w := by
  obtain ⟨pending, accounted⟩ := provenance
  refine ⟨pending, accounted, .one mac event ?_ ?_⟩
  · rintro a eap rfl
    cases daemon
  · rintro a rfl
    cases daemon

/-- What one event leaves. -/
theorem following_handleEvent [LawfulRadiusProto] (clean : ListName port) (mac : MacAddr)
    {event : Event} {w : World (SonicEnforcer Databases × ω)} (daemon : DaemonEvent event)
    (following : Following cfg port w) (provenance : Provenance (onSwitch base display) cfg w) :
    Prog.Ends
      (fun _ w => Following cfg port w ∧ Provenance (onSwitch base display) cfg w)
      (fun w => (Refused w.log ∨ Following cfg port w) ∧ Provenance (onSwitch base display) cfg w)
      (handleEvent (onSwitch base display) mac event w) := by
  have ended := (keeps_following base display cfg clean).drain 64 [(mac, event)] w
    ⟨following, provenance.enters mac daemon⟩
    ((eventQueue (onSwitch base display)).drainsWithin_of_forall _ (fun _ _ _ => trivial) 64 _ w)
  unfold handleEvent
  cases ran : (eventQueue (onSwitch base display)).drain 64 [(mac, event)] w with
  | mk outcome w' =>
      rw [ran] at ended
      cases outcome with
      | ok u =>
          obtain ⟨queue, following, pending, accounted, -⟩ := ended
          exact ⟨following, pending, accounted⟩
      | error e => exact ended

/-- **The invariant of a run in which nothing fails.** -/
theorem following_serve [LawfulRadiusProto] (clean : ListName port)
    {w : World (SonicEnforcer Databases × ω)} {inputs : List (MacAddr × Event)}
    (daemon : ∀ input ∈ inputs, DaemonEvent input.2)
    (succeeds : Succeeds (onSwitch base display) w inputs)
    (start : Following cfg port w ∧ Provenance (onSwitch base display) cfg w) :
    Following cfg port (serve (onSwitch base display) w inputs) ∧
      Provenance (onSwitch base display) cfg (serve (onSwitch base display) w inputs) := by
  have whole := keeps_following base display cfg clean
  have keeps : (eventQueue (onSwitch base display)).Keeps (fun _ _ _ => False)
      (fun queue w => Following cfg port w ∧ Between (onSwitch base display) cfg queue w)
      (fun task rest queue w => FollowingWith cfg port rest w ∧
        Inside (onSwitch base display) cfg task rest queue w) (fun _ => False) :=
    ⟨whole.enter, whole.act, fun _ _ _ _ _ _ _ _ _ failed => failed, whole.leave⟩
  have enters : ∀ mac event (w : World (SonicEnforcer Databases × ω)), DaemonEvent event →
      Following cfg port w ∧ Provenance (onSwitch base display) cfg w →
      Following cfg port w ∧ Between (onSwitch base display) cfg [(mac, event)] w :=
    fun mac _ _ daemon held => ⟨held.1, held.2.enters mac daemon⟩
  have settles : ∀ queue (w : World (SonicEnforcer Databases × ω)),
      Following cfg port w ∧ Between (onSwitch base display) cfg queue w →
      Following cfg port w ∧ Provenance (onSwitch base display) cfg w := by
    rintro queue w ⟨following, pending, accounted, -⟩
    exact ⟨following, pending, accounted⟩
  exact serve_invariant keeps enters settles (fun _ failed => failed.elim) start daemon succeeds

end Invariant

/-! ## The main result -/

/-- What asked for an open port: a grant of the server, or a configured fallback. -/
inductive Warrant [RadiusProto] (secret : Bytes) (cfg : PaeConfig) (before : List Entry) :
    Option MacAddr → PortAuthorization → Prop
  | granted (mac : MacAddr) (a : Authorization) (request reply : Packet)
      (asked : ⟨some mac, .accessRequest request (.ok reply)⟩ ∈ before)
      (accepted : Accepted secret mac a request reply) :
      Warrant secret cfg before (some mac) (.authorized a)
  | configured (serving : Option MacAddr) (reason : FallbackReason) (vlan : String)
      (inUse : cfg.fallbackInUse reason = some vlan) :
      Warrant secret cfg before serving (.fallback reason (some vlan))

/-- The posture last asked for, and where it comes from. -/
theorem Following.warranted {ε ω : Type} [RadiusProto] {base : Deps ω}
    {display : SonicError ε → String} {cfg : PaeConfig} {port : String}
    {w : World (SonicEnforcer Databases × ω)} (following : Following cfg port w)
    (provenance : Provenance (onSwitch base display) cfg w) :
    ∃ before serving target auth answer after,
      w.log = before ++ ⟨serving, .apply target auth answer⟩ :: after ∧
      (∀ later ∈ after, later.asked = none) ∧
      Represents (w.env.1.conn .config) port (.fromAuthorization auth) ∧
      (auth = .unauthorized ∨ Warrant base.secret cfg before serving auth) := by
  obtain ⟨-, -, entry, auth, ⟨asks, last⟩, held, configured⟩ := following
  obtain ⟨pending, -, backing, assigned, -⟩ := provenance
  obtain ⟨serving, target, answer, rfl⟩ : ∃ serving target answer,
      entry = ⟨serving, .apply target auth answer⟩ := by
    obtain ⟨serving, call⟩ := entry
    cases call with
    | apply target wanted answer =>
        cases asks
        exact ⟨serving, target, answer, rfl⟩
    | _ => cases asks
  obtain ⟨before, _, after, log, rfl, calm⟩ := last
  refine ⟨before, serving, target, auth, answer, after, log, ?_, held.database, ?_⟩
  · intro later member
    obtain ⟨between, rest, rfl⟩ := List.append_of_mem member
    have quiet := calm between later ⟨rest, by simp⟩
    simpa using quiet
  · cases auth with
    | unauthorized => exact Or.inl rfl
    | fallback reason vlan =>
        obtain ⟨v, rfl, inUse⟩ := configured reason vlan rfl
        exact Or.inr (.configured serving reason v inUse)
    | authorized a =>
        have here : w.log[before.length]? = some ⟨serving, .apply target (.authorized a) answer⟩ := by
          rw [log]
          simp
        obtain ⟨earlier, entry, found, mac, b, request, reply, same, rfl, accepted⟩ :=
          assigned.backed before.length _ _ here rfl
        cases same
        refine Or.inr (.granted mac a request reply ?_ accepted)
        rw [log, List.getElem?_append_left earlier] at found
        exact List.mem_of_getElem? found

/-- **An open port has a warrant.**  On a port of any host mode, with a name a list field can
hold and brought up on a database without entries for it: whenever `run_port` is back at its
`select!` and the default-deny rule of the port is gone from CONFIG_DB, the database holds the
posture last asked for, and that is either the grant of an Access-Accept, verified against a
request for the supplicant it opened the port to, or a fallback VLAN of the configuration. -/
theorem port_open_granted {ε ω : Type} [RadiusProto] [LawfulRadiusProto] (base : Deps ω)
    (display : SonicError ε → String) (openSocket : String → Prog AuthdError ω Unit) (port : String)
    (ctxTemplate : RequestContext) (cfg : PaeConfig) (s : SonicEnforcer Databases) (env : ω)
    (clean : ListName port) (bare : NoEntries (s.conn .config) port)
    (schedule : List (List (Background TimerKey))) (picks : List Pick)
    {w : World (Runtime (SonicEnforcer Databases × ω))}
    (waits : runOnSwitch base display openSocket port ctxTemplate cfg s env schedule picks = (.ok (), w))
    (opened : (w.plain.env.1.conn .config (denyRuleKey port)).isSome = false) :
    ∃ before serving target auth answer after,
      w.log = before ++ ⟨serving, .apply target auth answer⟩ :: after ∧
      (∀ later ∈ after, later.asked = none) ∧
      Represents (w.plain.env.1.conn .config) port (.fromAuthorization auth) ∧
      Warrant base.secret cfg before serving auth := by
  obtain ⟨trapped, inputs, daemon, succeeds, reached⟩ :=
    running_serves base display openSocket port ctxTemplate cfg s env schedule picks
      (congrArg Prod.fst waits)
  rw [waits] at reached
  have kept := following_serve clean daemon succeeds
    (following_broughtUp (timerless base) display ctxTemplate cfg _ clean bare trapped)
  rw [← reached] at kept
  obtain ⟨before, serving, target, auth, answer, after, log, calm, represents, source⟩ :=
    kept.1.warranted kept.2
  refine ⟨before, serving, target, auth, answer, after, log, calm, represents, ?_⟩
  rcases source with rfl | warrant
  · have present : (w.plain.env.1.conn .config (denyRuleKey port)).isSome = true := represents.deny
    rw [opened] at present
    cases present
  · exact warrant

/-! ## A port that stops -/

section Stops

variable {ε ω : Type} [RadiusProto]

/-- A trap that holds and a socket that opens leave the port to be closed. -/
theorem openPort_start {base : Deps ω} {opening : Opening ω} {port : String}
    {ctxTemplate : RequestContext} {cfg : PaeConfig} {env env₁ env₂ : ω}
    (trap : opening.ensureEapolTrap port env = (.ok (), env₁))
    (socket : opening.openSocket port env₁ = (.ok (), env₂)) :
    openPort base opening port cfg (.start port ctxTemplate cfg env) =
      applyEffects base (PortPae.new cfg).enable (.start port ctxTemplate cfg env₂) := by
  have trapped : (opening.ensureEapolTrap port).zoom World.env (fun env w => { w with env := env })
      (.start port ctxTemplate cfg env) = (.ok (), .start port ctxTemplate cfg env₁) := by
    simp only [Prog.zoom, World.start, trap]
  have ready : (opening.openSocket port).zoom World.env (fun env w => { w with env := env })
      (.start port ctxTemplate cfg env₁) = (.ok (), .start port ctxTemplate cfg env₂) := by
    simp only [Prog.zoom, World.start, socket]
  unfold openPort
  rw [Prog.bind_ok (Prog.mapError_eq_ok_iff.mpr trapped), Prog.bind_ok ready]

/-- The command that closes the port, where the enforcer obeys it. -/
theorem applyEffects_enable {base : Deps ω} {cfg : PaeConfig} {w : World ω}
    (obeys : (base.apply w.orch.port .port .unauthorized w.env).1 = .ok ()) :
    (applyEffects base (PortPae.new cfg).enable w).1 = .ok () := by
  obtain ⟨calls, performed⟩ := dispatch_performed base ⟨none, .setAuthorization .unauthorized⟩ w
  have done := performed.outcome.obeyed rfl obeys
  show ((dispatch base ⟨none, .setAuthorization .unauthorized⟩ >>= fun _ =>
    applyEffects base []) w).1 = .ok ()
  rw [Prog.bind_ok (Prod.ext done rfl)]
  rfl

/-- A port whose trap holds and whose socket opens is brought up: closing it cannot fail. -/
theorem openPort_ok (base : Deps ω) (display : SonicError ε → String)
    {openSocket : String → Prog AuthdError ω Unit} {port : String} (ctxTemplate : RequestContext)
    (cfg : PaeConfig) {s : SonicEnforcer Databases} {env : ω}
    (trapped : (SonicEnforcer.ensureEapolTrap (redisConn ε) port s).1 = .ok ())
    (socket : (openSocket port env).1 = .ok ()) :
    openPort (onSwitch base display) (switchOpening display openSocket) port cfg
        (.start port ctxTemplate cfg (s, env)) =
      (.ok (), broughtUp base display port ctxTemplate cfg s (openSocket port env).2) := by
  have closed : (SonicEnforcer.apply (redisConn ε) port .port .unauthorized
      (SonicEnforcer.ensureEapolTrap (redisConn ε) port s).2).1 = .ok () :=
    (SonicEnforcer.gates_bringUp trapped).close
  rw [broughtUp]
  rcases ran : SonicEnforcer.ensureEapolTrap (redisConn ε) port s with ⟨result, s'⟩
  rw [ran] at trapped closed
  obtain rfl : result = .ok () := trapped
  have trap : (switchOpening display openSocket).ensureEapolTrap port (s, env) =
      (.ok (), (s', env)) := by
    simp only [switchOpening, Prog.zoom, Prog.mapError, ran]
    rfl
  have ready : (switchOpening display openSocket).openSocket port (s', env) =
      (.ok (), (s', (openSocket port env).2)) := by
    simp only [switchOpening, beside, Prog.zoom, socket]
  have obeys : ((onSwitch base display).apply port .port .unauthorized
      (s', (openSocket port env).2)).1 = .ok () := by
    simp only [onSwitch, Prog.zoom, Prog.mapError, closed]
    rfl
  rw [openPort_start trap ready]
  exact Prod.ext (applyEffects_enable obeys) rfl

/-- **A port that stops leaves the switch as it was last told.**  On a port of any host mode, with
a name a list field can hold and brought up on a database without entries for it: wherever
`run_port` is, or has stopped, whatever failed, either the enforcer itself refused the last call
that was made, or CONFIG_DB holds the posture it was last asked for; and that one is closed, a
grant of an Access-Accept verified against a request for the supplicant it was made to, or a
fallback VLAN of the configuration. -/
theorem port_left_as_asked [LawfulRadiusProto] (base : Deps ω) (display : SonicError ε → String)
    (openSocket : String → Prog AuthdError ω Unit) (port : String) (ctxTemplate : RequestContext)
    (cfg : PaeConfig) (s : SonicEnforcer Databases) (env : ω) (clean : ListName port)
    (bare : NoEntries (s.conn .config) port)
    (trapped : (SonicEnforcer.ensureEapolTrap (redisConn ε) port s).1 = .ok ())
    (socket : (openSocket port env).1 = .ok ())
    (schedule : List (List (Background TimerKey))) (picks : List Pick) :
    let run := runOnSwitch base display openSocket port ctxTemplate cfg s env schedule picks
    Refused run.2.log ∨ ∃ before serving target auth answer after,
      run.2.log = before ++ ⟨serving, .apply target auth answer⟩ :: after ∧
      (∀ later ∈ after, later.asked = none) ∧
      Represents (run.2.plain.env.1.conn .config) port (.fromAuthorization auth) ∧
      (auth = .unauthorized ∨ Warrant base.secret cfg before serving auth) := by
  intro run
  let started := broughtUp (timerless base) display port ctxTemplate cfg s (openSocket port env).2
  obtain ⟨served, inputs, serves, -⟩ := serves_runPort (onSwitch base display)
    (switchOpening display openSocket) port cfg picks
    (.start port ctxTemplate cfg ⟨.new, schedule, (s, env)⟩) rfl
  have opened : openPort (timerless (onSwitch base display)) (switchOpening display openSocket) port
      cfg (World.plain (.start port ctxTemplate cfg ⟨.new, schedule, (s, env)⟩)) = (.ok (), started) :=
    openPort_ok (timerless base) display ctxTemplate cfg trapped socket
  rw [opened] at serves
  have start := following_broughtUp (timerless base) display ctxTemplate cfg (openSocket port env).2
    clean bare trapped
  have ended : (Refused run.2.plain.log ∨ Following cfg port run.2.plain) ∧
      Provenance (onSwitch (timerless base) display) cfg run.2.plain := by
    have daemon := serves.daemon
    have stops : Succeeds (onSwitch (timerless base) display) started inputs.dropLast := serves.stops
    have reached : run.2.plain = serve (onSwitch (timerless base) display) started inputs :=
      serves.reached
    rw [reached]
    rcases List.eq_nil_or_concat inputs with rfl | ⟨before, last, rfl⟩
    · exact ⟨Or.inr start.1, start.2⟩
    · rw [List.concat_eq_append] at daemon stops ⊢
      rw [List.dropLast_concat] at stops
      have held := following_serve clean (fun input member => daemon input (by simp [member]))
        stops start
      rw [serve_append]
      have handled := following_handleEvent clean last.1 (daemon last (by simp)) held.1 held.2
      exact handled.state (fun _ _ both => ⟨Or.inr both.1, both.2⟩) fun _ both => both
  obtain ⟨refused | following, provenance⟩ := ended
  · exact Or.inl refused
  · have asked := following.warranted provenance
    exact Or.inr asked

end Stops

section Witness

attribute [local instance] Site.proto Site.lawful

/-- The port of the bypassed station is open, on a grant of the server. -/
theorem port_open_granted_bypass :
    ∃ before serving target auth answer after,
      switchRun.2.log = before ++ ⟨serving, .apply target auth answer⟩ :: after ∧
      (∀ later ∈ after, later.asked = none) ∧
      Represents (switchRun.2.plain.env.1.conn .config) "Ethernet4" (.fromAuthorization auth) ∧
      Warrant Site.deps.secret oneHost before serving auth := by
  have pair : ∀ r : Except AuthdError Unit × World (Runtime (SonicEnforcer Databases × Site.Script)),
      r.1 = .ok () → r = (.ok (), r.2) := fun _ ended => Prod.ext ended rfl
  have waits : switchRun = (.ok (), switchRun.2) := pair switchRun (by decide +kernel)
  have opened : (switchRun.2.plain.env.1.conn .config (denyRuleKey "Ethernet4")).isSome = false := by
    decide +kernel
  exact port_open_granted Site.deps _ (fun _ => pure ()) "Ethernet4" Site.context oneHost
    (.new emptyDatabases) _ (by decide) (noEntries_empty "Ethernet4") expiry _ waits opened

/-- An EAPOL-Logoff of the station. -/
def logoffFrame : Bytes :=
  [0x01, 0x80, 0xc2, 0x00, 0x00, 0x03] ++ Site.station.toList ++ [0x88, 0x8e, 3, 2, 0, 0]

/-- A station that is let in, and leaves. -/
def stay : List Pick :=
  [.source (.frame startFrame), .source .timer, .source (.frame logoffFrame)]

/-- The server answers the request and the Accounting-Start, and is gone. -/
def stayScript : Site.Script := ⟨[.ok Site.accept], [.ok ()]⟩

def strandedRun : Except AuthdError Unit × World (Runtime (SonicEnforcer Databases × Site.Script)) :=
  runOnSwitch Site.deps (fun _ : SonicError String => "enforcer") (fun _ => pure ()) "Ethernet4"
    Site.context oneHost (.new emptyDatabases) stayScript expiry stay

/-- The Accounting-Stop fails, the port stops, and VLAN 42 stays open on the grant. -/
theorem port_left_as_asked_stranded :
    strandedRun.1 = .error .radSec ∧
      (strandedRun.2.plain.env.1.conn .config (vlanMemberKey "42" "Ethernet4")).isSome = true ∧
      (Refused strandedRun.2.log ∨ ∃ before serving target auth answer after,
        strandedRun.2.log = before ++ ⟨serving, .apply target auth answer⟩ :: after ∧
        (∀ later ∈ after, later.asked = none) ∧
        Represents (strandedRun.2.plain.env.1.conn .config) "Ethernet4" (.fromAuthorization auth) ∧
        (auth = .unauthorized ∨ Warrant Site.deps.secret oneHost before serving auth)) := by
  have left := port_left_as_asked Site.deps (fun _ : SonicError String => "enforcer")
    (fun _ => pure ()) "Ethernet4" Site.context oneHost (.new emptyDatabases) stayScript
    (by decide) (noEntries_empty "Ethernet4") (by decide +kernel) rfl expiry stay
  refine ⟨by decide +kernel, by decide +kernel, ?_⟩
  unfold strandedRun
  exact left

end Witness

end Authenticator.Authd
