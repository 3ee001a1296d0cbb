/-
# Authd.Correlation -- what an Accounting-Request is about

`Class` is what the server recognises an accounting session by: it hands one out with an
Access-Accept and expects it back.  `accounting_correlates` is about every Accounting-Request of
every run of `run_port`: it carries the Class of the last accept its supplicant was sent, and a
Start is sent right after the enforcer confirmed the grant of that accept, with nothing in
between.  So no session is opened at the server that the dataplane did not let in.
-/
import Authenticator.Authd.Provenance
import Authenticator.Authd.Bounded
import Authenticator.Authd.Quiescent

namespace Authenticator.Pae

set_option autoImplicit false

open Authenticator.Pacp Authenticator.Theory

/-! ## A Start comes right after a grant -/

/-- Every Start among the effects comes right after a grant; `granted` says that one came
before them. -/
def StartsGranted : Bool → List Effect → Prop
  | _, [] => True
  | granted, effect :: rest =>
      (effect = .accounting .start → granted = true) ∧ StartsGranted effect.grant.isSome rest

section StartsGranted

variable {fx first later : List Effect}

theorem StartsGranted.weaken (starts : StartsGranted false fx) (granted : Bool) :
    StartsGranted granted fx := by
  cases fx with
  | nil => trivial
  | cons effect rest => exact ⟨fun start => absurd (starts.1 start) (by simp), starts.2⟩

theorem startsGranted_append {granted : Bool} (one : StartsGranted granted first)
    (two : StartsGranted false later) : StartsGranted granted (first ++ later) := by
  induction first generalizing granted with
  | nil => exact two.weaken granted
  | cons effect rest ih => exact ⟨one.1, ih one.2⟩

theorem startsGranted_of_none (none : ∀ effect ∈ fx, effect ≠ .accounting .start) :
    StartsGranted false fx := by
  induction fx with
  | nil => trivial
  | cons effect rest ih =>
      exact ⟨fun start => absurd start (none effect List.mem_cons_self),
        (ih fun later member => none later (List.mem_cons_of_mem _ member)).weaken _⟩

theorem Transition.startsGranted {cfg : PaeConfig} {s s' : PortSession} {event : Event}
    (moved : Transition cfg s event s' fx) : StartsGranted false fx := by
  cases moved with
  | authorized a eap asked =>
      unfold PortSession.authorize
      cases eap <;> cases s.accountingOpen <;> cases cfg.reauthEnabled <;>
        cases a.sessionTimeout.isSome <;> simp [StartsGranted, Effect.grant]
  | ignored => trivial
  | enabled =>
      exact startsGranted_of_none (by simp [PortSession.enable, PortSession.sendIdentity,
        PortSession.after])
  | solicited _ _ cancel _ _ cancels =>
      refine startsGranted_of_none ?_
      rcases cancels with rfl | ⟨kind, -, rfl⟩ <;> simp
  | relayed | bypassed | challenged | coaAuthorized => exact startsGranted_of_none (by simp)
  | survived => exact startsGranted_of_none (by split <;> simp)
  | fellBack _ _ _ eap => exact startsGranted_of_none (by cases eap <;> split <;> simp [relay])
  | held _ eap => exact startsGranted_of_none (by cases eap <;> simp [relay])
  | tornDown _ cause eap =>
      exact startsGranted_of_none (by
        unfold PortSession.teardown
        cases eap <;> split <;> cases s.accountingOpen <;> simp [relay])
  | expired =>
      exact startsGranted_of_none (by
        unfold PortSession.teardown
        split <;> cases s.accountingOpen <;> simp)

theorem PortPae.handle_startsGranted (p : PortPae) (mac : MacAddr) (event : Event) :
    StartsGranted false ((p.handle mac event).2.map DirectedEffect.effect) := by
  have bare : ∀ fx, (decorate p.cfg.hostMode mac fx).map DirectedEffect.effect = fx := by
    intro fx
    simp [decorate, Function.comp_def]
  obtain ⟨before, s, later, -, rfl, same⟩ | ⟨-, -, same⟩ | ⟨-, -, same⟩ := p.handle_cases mac event
  · rw [same, bare]
    exact (PortSession.step_transition p.cfg s event).startsGranted
  · rw [same, bare]
    have enabled := (PortSession.step_transition p.cfg (PortSession.new mac) .enable).startsGranted
    unfold admitted
    split
    · exact enabled
    · exact startsGranted_append enabled (PortSession.step_transition p.cfg _ event).startsGranted
  · rw [same]
    trivial

end StartsGranted

end Authenticator.Pae

namespace Authenticator.Authd

open Authenticator.Pacp Authenticator.Pae Authenticator.Radius Authenticator.Theory
open Authenticator.Theory.Timers (Background)

/-! ## What a log says of the Class of a MAC -/

/-- An accept hands out a Class. -/
def eventClass (last : Option Bytes) : Event → Option Bytes
  | .accessAccept a _ => a.class_
  | _ => last

section Definitions

variable [RadiusProto]

/-- A reply that was sent to the MAC may hand it a Class. -/
def Entry.classAfter (mac : MacAddr) (last : Option Bytes) : Entry → Option Bytes
  | ⟨serving, .accessRequest _ (.ok reply)⟩ =>
      match parseReply reply with
      | .ok event => if serving = some mac then eventClass last event else last
      | .error _ => last
  | _ => last

/-- The Class of the last accept that was sent to the MAC. -/
def lastClass (mac : MacAddr) (log : List Entry) : Option Bytes :=
  log.foldl (Entry.classAfter mac) none

/-- The log ends with the confirmed grant, to the MAC, of an accept with the Class. -/
def EndsGranted (hostMode : HostMode) (mac : MacAddr) (cls : Option Bytes) (log : List Entry) : Prop :=
  ∃ earlier a, a.class_ = cls ∧
    log = earlier ++
      [⟨some mac, .apply (targetOf (portTarget hostMode mac)) (.authorized a) (.ok ())⟩]

/-- What an Accounting-Request after `before` is about. -/
def Correlates (secret : Bytes) (hostMode : HostMode) (ctxTemplate : RequestContext)
    (before : List Entry) (serving : Option MacAddr) (request : Packet) : Prop :=
  ∃ mac trigger identifier sessionId, serving = some mac ∧
    accountingRequest { ctxTemplate with callingStation := mac } identifier trigger sessionId
      (lastClass mac before) secret = .ok request ∧
    (trigger = .start → EndsGranted hostMode mac (lastClass mac before) before)

/-- Every Accounting-Request of the log. -/
def Correlated (secret : Bytes) (hostMode : HostMode) (ctxTemplate : RequestContext)
    (log : List Entry) : Prop :=
  ∀ before serving request result after,
    log = before ++ ⟨serving, .accounting request result⟩ :: after →
      Correlates secret hostMode ctxTemplate before serving request

end Definitions

/-! ## What one effect adds to it -/

section Effects

variable {ω : Type} [RadiusProto] {deps : Deps ω} {port : String} {env env' : ω}
variable {de : DirectedEffect} {calls : List Call} {result : Except AuthdError (Option Event)}
variable {w : World ω}

/-- Only an answered request sets a Class. -/
theorem Dispatched.lastClass_kept (outcome : Dispatched deps port env de calls env' result)
    (quiet : de.asks = none) (serving : Option MacAddr) (mac : MacAddr) (log : List Entry) :
    lastClass mac (log ++ calls.map fun call => ⟨serving, call⟩) = lastClass mac log := by
  rw [lastClass, lastClass, List.foldl_append]
  have unasked : ∀ {other}, de.asks = some other → False := by
    intro other asked
    rw [quiet] at asked
    cases asked
  cases outcome with
  | refused _ _ asked | unanswered _ _ asked | discarded _ _ asked | answered _ _ asked =>
      exact absurd asked unasked
  | _ => rfl

/-- A round-trip that succeeds leaves the Class of its accept. -/
theorem class_roundTrip {mac : MacAddr}
    {build : RequestContext → Auth16 → Prog AuthdError RadiusSession Packet} {event : Event}
    (builds : Builds deps.secret build)
    (done : (roundTrip deps mac build w).1 = .ok (some event)) (other : MacAddr) :
    ((roundTrip deps mac build w).2.orch.session other).radius.class_ =
      if other = mac then eventClass (w.orch.session mac).radius.class_ event
      else (w.orch.session other).radius.class_ := by
  have kept := builds.class_ (w.orch.ctxFor mac) (deps.generateRequestAuthenticator w.env).1
    (w.orch.session mac).radius
  rw [roundTrip_eq] at done ⊢
  dsimp only at done ⊢
  generalize build (w.orch.ctxFor mac) (deps.generateRequestAuthenticator w.env).1
    (w.orch.session mac).radius = made at kept done ⊢
  obtain ⟨outcome, radius⟩ := made
  cases outcome with
  | error e => cases done
  | ok request =>
      dsimp only at kept done ⊢
      generalize deps.accessRequest request (deps.generateRequestAuthenticator w.env).2 = called
        at done ⊢
      obtain ⟨answer, env⟩ := called
      cases answer with
      | error e => cases done
      | ok reply =>
          dsimp only at done ⊢
          have handling := RadiusSession.handleReply_handling radius reply deps.secret
          generalize (RadiusSession.handleReply reply deps.secret radius).1 = outcome,
            (RadiusSession.handleReply reply deps.secret radius).2 = later at handling done ⊢
          simp only [World.withRadius, World.record, Orchestrator.session_setSession]
          split
          · cases handling with
            | granted =>
                cases done
                rfl
            | answered _ _ _ _ event _ silent =>
                cases done
                cases event with
                | accessAccept a eap => exact absurd rfl (silent a eap)
                | _ => exact kept
            | _ => cases done
          · rfl

theorem Dispatched.confirmed {target : Enforce.Target} {auth : PortAuthorization}
    {answer : Except String Unit} {follow : Option Event}
    (outcome : Dispatched deps port env de [.apply target auth answer] env' (.ok follow)) :
    answer = .ok () := by
  generalize known : Except.ok follow = result at outcome
  cases outcome with
  | applied mac auth =>
      cases called : (deps.apply port (targetOf mac) auth env).1 with
      | ok u => rfl
      | error e =>
          rw [called] at known
          cases known

/-- Only an accounting effect sends an Accounting-Request. -/
theorem Dispatched.uncharged (outcome : Dispatched deps port env de calls env' result)
    (other : ∀ trigger, de.effect ≠ .accounting trigger) :
    ∀ call ∈ calls, ∀ request answer, call ≠ .accounting request answer := by
  cases outcome with
  | accounted mac trigger request => exact absurd rfl (other trigger)
  | _ => simp

end Effects

/-! ## The invariant of a run -/

section Invariant

variable {ω : Type} [RadiusProto] {deps : Deps ω} {cfg : PaeConfig} {ctxTemplate : RequestContext}
variable {w : World ω}

theorem correlated_concat {secret : Bytes} {hostMode : HostMode} {log : List Entry} {entry : Entry}
    (correlated : Correlated secret hostMode ctxTemplate log)
    (last : ∀ serving request result, entry = ⟨serving, .accounting request result⟩ →
      Correlates secret hostMode ctxTemplate log serving request) :
    Correlated secret hostMode ctxTemplate (log ++ [entry]) := by
  intro before serving request result after split
  rcases concat_eq_append_cons.mp split with ⟨rfl, same, -⟩ | ⟨earlier, -, older⟩
  · exact last serving request result same.symm
  · exact correlated before serving request result earlier older

/-- What holds throughout. -/
structure Echoing (deps : Deps ω) (cfg : PaeConfig) (ctxTemplate : RequestContext) (w : World ω) :
    Prop where
  configured : w.pae.cfg = cfg
  context : w.orch.ctxTemplate = ctxTemplate
  echo : ∀ mac, (w.orch.session mac).radius.class_ = lastClass mac w.log
  log : Correlated deps.secret cfg.hostMode ctxTemplate w.log

/-- A pending grant is of the accept that was sent last. -/
def Owed (pending : Option Grant) (log : List Entry) : Prop :=
  ∀ mac target a, pending = some (some mac, target, a) → a.class_ = lastClass mac log

/-- Between two events. -/
def EchoingQueue (deps : Deps ω) (cfg : PaeConfig) (ctxTemplate : RequestContext)
    (queue : List (MacAddr × Event)) (w : World ω) : Prop :=
  Echoing deps cfg ctxTemplate w ∧
    ∃ pending, Owed pending w.log ∧ Waits cfg.hostMode pending queue

/-- Inside the effects of one event. -/
structure EchoingWith (deps : Deps ω) (cfg : PaeConfig) (ctxTemplate : RequestContext)
    (task : MacAddr × Event) (rest : List DirectedEffect) (queue : List (MacAddr × Event))
    (w : World ω) : Prop where
  echoing : Echoing deps cfg ctxTemplate w
  serving : w.serving = some task.1
  aimed : ∀ de ∈ rest, Aimed cfg.hostMode task.1 de
  charged : ∀ de ∈ rest, ∀ trigger, de.effect = .accounting trigger → de.mac = some task.1
  starts : ∃ granted, StartsGranted granted (rest.map DirectedEffect.effect) ∧
    (granted = true → EndsGranted cfg.hostMode task.1 (lastClass task.1 w.log) w.log)
  phase : ∃ pending, Owed pending w.log ∧
    Phase cfg.hostMode task.1 pending (rest.map DirectedEffect.effect) queue

theorem EchoingQueue.enter {task : MacAddr × Event} {queue : List (MacAddr × Event)}
    (between : EchoingQueue deps cfg ctxTemplate (task :: queue) w) :
    EchoingWith deps cfg ctxTemplate task (feedPae task.1 task.2 w).1 queue
      (feedPae task.1 task.2 w).2 := by
  obtain ⟨⟨rfl, context, echo, log⟩, pending, owed, waits⟩ := between
  have same : ∀ mac, lastClass mac (feedPae task.1 task.2 w).2.log = lastClass mac w.log :=
    fun mac => List.foldl_concat ..
  refine ⟨⟨w.pae.handle_cfg task.1 task.2, context, ?_, ?_⟩, rfl, aimed_handle w.pae task.1 task.2, ?_,
    ⟨false, w.pae.handle_startsGranted task.1 task.2, fun none => by cases none⟩, pending, ?_,
    waits.phase (w.pae.handle_outputs task.1 task.2)⟩
  · intro mac
    rw [same]
    exact echo mac
  · exact correlated_concat log fun _ _ _ other => by cases other
  · intro de member trigger charges
    rcases w.pae.handle_directed task.1 task.2 de member with own | ⟨-, a, commands⟩
    · exact own
    · rw [charges] at commands
      cases commands
  · intro mac target a waiting
    rw [same]
    exact owed mac target a waiting

/-- The calls of an effect leave the log correlated, whatever their outcome. -/
theorem EchoingWith.correlated {task : MacAddr × Event} {de : DirectedEffect}
    {rest : List DirectedEffect} {queue : List (MacAddr × Event)}
    (inside : EchoingWith deps cfg ctxTemplate task (de :: rest) queue w) :
    Correlated deps.secret cfg.hostMode ctxTemplate (dispatch deps de w).2.log := by
  have echoing := inside.echoing
  by_cases charges : ∃ trigger, de.effect = .accounting trigger
  · obtain ⟨trigger, charges⟩ := charges
    have own := inside.charged de List.mem_cons_self trigger charges
    obtain ⟨mac, effect⟩ := de
    obtain rfl : effect = .accounting trigger := charges
    obtain rfl : mac = some task.1 := own
    rw [dispatch_accounting]
    cases made : builtAccounting deps task.1 trigger w with
    | error e => exact echoing.log
    | ok request =>
        refine correlated_concat echoing.log ?_
        rintro serving request' result ⟨⟩
        rw [builtAccounting_eq, mapError_eq_ok, echoing.echo, Orchestrator.ctxFor, echoing.context] at made
        refine ⟨task.1, trigger, (w.orch.session task.1).radius.nextAcctId,
          (w.orch.acctIdFor task.1).1, inside.serving, made, ?_⟩
        · rintro rfl
          obtain ⟨granted, starts, ends⟩ := inside.starts
          exact ends (starts.1 rfl)
  · obtain ⟨calls, performed⟩ := dispatch_performed deps de w
    have quiet := performed.outcome.uncharged fun trigger charged => charges ⟨trigger, charged⟩
    have short := performed.outcome.calls_length
    rw [performed.log]
    cases calls with
    | nil =>
        rw [List.map_nil, List.append_nil]
        exact echoing.log
    | cons call rest =>
        obtain rfl : rest = [] := by simpa using short
        refine correlated_concat echoing.log ?_
        rintro serving request result same
        exact absurd (congrArg Entry.call same) (quiet call List.mem_cons_self request result)

/-- An effect that asks nothing keeps what holds throughout. -/
theorem EchoingWith.quiet {task : MacAddr × Event} {de : DirectedEffect}
    {rest : List DirectedEffect} {queue : List (MacAddr × Event)}
    (inside : EchoingWith deps cfg ctxTemplate task (de :: rest) queue w) (quiet : de.asks = none) :
    Echoing deps cfg ctxTemplate (dispatch deps de w).2 ∧
      ∀ mac, lastClass mac (dispatch deps de w).2.log = lastClass mac w.log := by
  obtain ⟨calls, performed⟩ := dispatch_performed deps de w
  have noted := noted_dispatch deps quiet w
  have same : ∀ mac, lastClass mac (dispatch deps de w).2.log = lastClass mac w.log := by
    intro mac
    rw [performed.log]
    exact performed.outcome.lastClass_kept quiet _ _ _
  refine ⟨⟨?_, ?_, ?_, inside.correlated⟩, same⟩
  · rw [performed.pae]
    exact inside.echoing.configured
  · rw [noted.context]
    exact inside.echoing.context
  · intro mac
    obtain ⟨n, radius⟩ := noted.radius mac
    rw [radius, same]
    exact inside.echoing.echo mac

/-- A request that is answered hands out the Class of its reply. -/
theorem EchoingWith.answered {task : MacAddr × Event} {de : DirectedEffect}
    {rest : List DirectedEffect} {queue : List (MacAddr × Event)} {event : Event}
    (inside : EchoingWith deps cfg ctxTemplate task (de :: rest) queue w)
    (done : (dispatch deps de w).1 = .ok (some event)) :
    Echoing deps cfg ctxTemplate (dispatch deps de w).2 ∧
      lastClass task.1 (dispatch deps de w).2.log = eventClass (lastClass task.1 w.log) event := by
  obtain ⟨calls, performed⟩ := dispatch_performed deps de w
  obtain ⟨mac, request, reply, pending, asked, rfl, -, -, -, parsed⟩ := performed.outcome.followed done
  obtain ⟨rfl, -⟩ := (inside.aimed de List.mem_cons_self).asks mac asked
  obtain ⟨build, same, builds⟩ := dispatch_asks deps asked
  have handed : ∀ other, lastClass other (dispatch deps de w).2.log =
      if other = task.1 then eventClass (lastClass task.1 w.log) event else lastClass other w.log := by
    intro other
    have one : lastClass other (w.log ++ [⟨w.serving, .accessRequest request (.ok reply)⟩]) =
        Entry.classAfter other (lastClass other w.log)
          ⟨w.serving, .accessRequest request (.ok reply)⟩ := List.foldl_concat ..
    rw [performed.log, List.map_singleton, one, inside.serving]
    unfold Entry.classAfter
    simp only [parsed, Option.some_inj]
    by_cases here : other = task.1
    · simp [here]
    · simp [here, Ne.symm here]
  have context : (dispatch deps de w).2.orch.ctxTemplate = w.orch.ctxTemplate := by
    rw [same]
    obtain ⟨-, -, kept, -⟩ := roundTrip_sessions deps task.1 build w
    exact kept
  refine ⟨⟨?_, by rw [context]; exact inside.echoing.context, ?_, inside.correlated⟩, by simp [handed]⟩
  · rw [performed.pae]
    exact inside.echoing.configured
  · intro other
    rw [handed]
    rw [same] at done ⊢
    rw [class_roundTrip builds done]
    split
    · rw [inside.echoing.echo]
    · exact inside.echoing.echo other

/-- **The step lemma**: performing an effect. -/
theorem EchoingWith.act {task : MacAddr × Event} {de : DirectedEffect}
    {rest : List DirectedEffect} {queue : List (MacAddr × Event)} {follow : Option Event}
    (inside : EchoingWith deps cfg ctxTemplate task (de :: rest) queue w)
    (done : (dispatch deps de w).1 = .ok follow) :
    EchoingWith deps cfg ctxTemplate task rest
      (queue ++ (follow.map fun event => (de.mac.getD task.1, event)).toList)
      (dispatch deps de w).2 := by
  obtain ⟨calls, performed⟩ := dispatch_performed deps de w
  have here := inside.aimed de List.mem_cons_self
  have serving : (dispatch deps de w).2.serving = some task.1 :=
    performed.serving.trans inside.serving
  have aimed : ∀ de ∈ rest, Aimed cfg.hostMode task.1 de := fun de member =>
    inside.aimed de (List.mem_cons_of_mem _ member)
  have charged : ∀ de ∈ rest, ∀ trigger, de.effect = .accounting trigger → de.mac = some task.1 :=
    fun de member => inside.charged de (List.mem_cons_of_mem _ member)
  obtain ⟨_, starts, -⟩ := inside.starts
  obtain ⟨pending, owed, phase⟩ := inside.phase
  cases follow with
  | none =>
      rw [Option.map_none, Option.toList_none, List.append_nil]
      have quiet : de.asks = none := by
        cases asked : de.asks with
        | none => rfl
        | some mac =>
            obtain ⟨event, same, -⟩ := reply_of_asks deps asked done
            cases same
      obtain ⟨echoing, same⟩ := inside.quiet quiet
      cases granted : de.effect.grant with
      | none =>
          refine ⟨echoing, serving, aimed, charged, ⟨_, starts.2, ?_⟩, pending, ?_, phase.tail granted⟩
          · rw [granted]
            exact fun none => by cases none
          · intro mac target a waiting
            rw [same]
            exact owed mac target a waiting
      | some a =>
          obtain ⟨rfl, later⟩ := phase.grant granted
          refine ⟨echoing, serving, aimed, charged, ⟨_, starts.2, fun _ => ?_⟩, none, ?_, later none⟩
          case refine_2 =>
            intro mac target b waiting
            cases waiting
          obtain ⟨answer, rfl⟩ := performed.outcome.grants granted
          refine ⟨w.log, a, ?_, ?_⟩
          · rw [same]
            exact owed _ _ _ rfl
          · obtain rfl : answer = .ok () := (done ▸ performed.outcome).confirmed
            rw [performed.log, List.map_singleton, inside.serving,
              here.commands (Effect.isSetAuthorization_of_grant granted)]
  | some event =>
      obtain ⟨mac, request, reply, sent, asked, -, -, -, -, parsed⟩ := performed.outcome.followed done
      obtain ⟨rfl, directed⟩ := here.asks mac asked
      have asks := DirectedEffect.isRequest_of_asks asked
      obtain ⟨echoing, handed⟩ := inside.answered done
      rw [Option.map_some, directed, Option.getD_some]
      refine ⟨echoing, serving, aimed, charged, ⟨_, starts.2, ?_⟩, ?_⟩
      · rw [(Effect.quiet_of_isRequest asks).1]
        exact fun none => by cases none
      · cases event with
        | accessAccept a eap =>
            refine ⟨some (some task.1, targetOf (portTarget cfg.hostMode task.1), a), ?_,
              phase.request asks (.one task.1 _ ?_ fun b same => by cases same)⟩
            · rintro mac target b ⟨⟩
              rw [handed]
              rfl
            · rintro b eap' ⟨⟩
              rfl
        | coaAuthorize a => exact absurd (isReply_of_parseReply parsed) id
        | _ =>
            refine ⟨none, ?_, phase.request asks (.one task.1 _ ?_ ?_)⟩
            · intro mac target b waiting
              cases waiting
            · intro b eap same
              cases same
            · intro b same
              cases same

theorem keeps_echoing (deps : Deps ω) (cfg : PaeConfig) (ctxTemplate : RequestContext) :
    (eventQueue deps).Keeps (fun _ _ _ => True) (EchoingQueue deps cfg ctxTemplate)
      (EchoingWith deps cfg ctxTemplate)
      (fun w => Correlated deps.secret cfg.hostMode ctxTemplate w.log) := by
  refine eventQueue_keeps (fun _ _ _ between => between.enter) ?_ ?_ ?_
  · intro task de rest queue w follow inside done
    exact inside.act done
  · intro task de rest queue w e inside _ _
    exact inside.correlated
  · intro task queue w inside
    obtain ⟨pending, owed, phase⟩ := inside.phase
    refine ⟨inside.echoing, pending, owed, ?_⟩
    cases phase with
    | asking => exact .nil
    | granting a _ grants => cases grants
    | done _ waits => exact waits

end Invariant

/-! ## Whole runs -/

section Runs

variable {ω : Type} [RadiusProto] {deps : Deps ω} {cfg : PaeConfig} {ctxTemplate : RequestContext}
variable {w : World ω}

/-- An event of the daemon finds nothing owed. -/
theorem Echoing.enters {event : Event} (echoing : Echoing deps cfg ctxTemplate w) (mac : MacAddr)
    (daemon : DaemonEvent event) : EchoingQueue deps cfg ctxTemplate [(mac, event)] w := by
  refine ⟨echoing, none, fun _ _ _ waiting => (by cases waiting), .one mac event ?_ ?_⟩
  · rintro a eap rfl
    exact absurd daemon id
  · rintro a rfl
    exact absurd daemon id

/-- The command that closes the port says nothing of anybody. -/
theorem Echoing.shut (echoing : Echoing deps cfg ctxTemplate w) :
    Echoing deps cfg ctxTemplate (dispatch deps ⟨none, .setAuthorization .unauthorized⟩ w).2 := by
  have quiet : DirectedEffect.asks ⟨none, .setAuthorization .unauthorized⟩ = none := rfl
  obtain ⟨calls, performed⟩ := dispatch_performed deps ⟨none, .setAuthorization .unauthorized⟩ w
  have noted := noted_dispatch deps quiet w
  refine ⟨performed.pae ▸ echoing.configured, noted.context ▸ echoing.context, ?_, ?_⟩
  · intro mac
    obtain ⟨n, radius⟩ := noted.radius mac
    rw [radius, performed.log, performed.outcome.lastClass_kept quiet]
    exact echoing.echo mac
  · have short := performed.outcome.calls_length
    have uncharged := performed.outcome.uncharged fun trigger charged => by cases charged
    rw [performed.log]
    cases calls with
    | nil =>
        rw [List.map_nil, List.append_nil]
        exact echoing.log
    | cons call rest =>
        obtain rfl : rest = [] := by simpa using short
        refine correlated_concat echoing.log ?_
        rintro serving request result same
        exact absurd (congrArg Entry.call same) (uncharged call List.mem_cons_self request result)

/-- **Every Accounting-Request is about a session the server knows.**  In every run of `run_port`,
whatever the boundaries answer and whenever the timers fire: an Accounting-Request is sent while
its own station is served, carries the Class of the last accept that station was sent, and a
Start comes right after the enforcer confirmed the grant of that accept. -/
theorem accounting_correlates (base : Deps ω) (opening : Opening ω) (port : String)
    (ctxTemplate : RequestContext) (cfg : PaeConfig) (schedule : List (List (Background TimerKey)))
    (env : ω) (picks : List Pick) :
    Correlated base.secret cfg.hostMode ctxTemplate
      (runPortUntilError base opening port cfg picks
        (.start port ctxTemplate cfg ⟨.new, schedule, env⟩)).2.log := by
  have events : KeepsEvents (onTokio base)
      (fun _ event w => DaemonEvent event ∧ Echoing (onTokio base) cfg ctxTemplate w)
      (Echoing (onTokio base) cfg ctxTemplate)
      (fun w => Correlated base.secret cfg.hostMode ctxTemplate w.log) :=
    keepsEvents_of_keeps (keeps_echoing (onTokio base) cfg ctxTemplate)
      (fun mac _ _ held => held.2.enters mac held.1) fun _ _ between => between.1
  have unseen : ∀ (w : World (Runtime ω)) env', Echoing (onTokio base) cfg ctxTemplate w →
      Echoing (onTokio base) cfg ctxTemplate { w with env := env' } := fun _ _ echoing =>
    ⟨echoing.configured, echoing.context, echoing.echo, echoing.log⟩
  have opens : opening.Keeps port (Echoing (onTokio base) cfg ctxTemplate) :=
    ⟨fun w => unseen w _, fun w => unseen w _⟩
  refine (ends_runPort events (Unmoved.daemon fun w scheduler schedule => unseen w ⟨scheduler, schedule, w.env.env⟩)
    (fun _ echoing => echoing.log) opens cfg picks
    (fun w echoing => ends_applyEffects (fun de member w echoing => ?_) echoing)
    ⟨rfl, rfl, fun _ => rfl, ?_⟩).state (fun _ _ echoing => echoing.log) fun _ log => log
  · rw [List.mem_singleton.mp member]
    cases ran : dispatch (onTokio base) ⟨none, .setAuthorization .unauthorized⟩ w with
    | mk result w' =>
        have after := echoing.shut
        rw [ran] at after
        cases result with
        | ok follow => exact after
        | error e => exact after.log
  · intro before serving request result after split
    cases before <;> cases split

end Runs

end Authenticator.Authd
