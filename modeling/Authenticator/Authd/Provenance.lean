/-
# Authd.Provenance -- every grant comes from an accept of its own

Whatever the boundaries answer and wherever they fail, a grant reaches the enforcer
only on behalf of a MAC whose Access-Request, built for that MAC, was answered by a
verified Access-Accept that parses to exactly that grant; and no accept is used twice.

The log of a run is matched (`Theory.Matching`): grants spend, verified accepts offer.
Inside one call to the port the effects still to be performed either may ask the
server once, or may grant what is pending, or do neither (`Phase`).
-/
import Authenticator.Theory.Matching
import Authenticator.Pae.PortPosture
import Authenticator.Authd.Run

namespace Authenticator.Authd

set_option autoImplicit false

open Authenticator.Pacp Authenticator.Pae Authenticator.Radius Authenticator.Theory
open Authenticator.Enforce (Target)

/-- The grant a call to the enforcer makes: on whose behalf, where, and what. -/
abbrev Grant := Option MacAddr × Target × Authorization

def Entry.grant : Entry → Option Grant
  | ⟨serving, .apply target (.authorized a) _⟩ => some (serving, target, a)
  | _ => none

section Definitions

variable [RadiusProto]

/-- A request for `mac`, and the verified Access-Accept that answered it with `a`. -/
structure Accepted (secret : Bytes) (mac : MacAddr) (a : Authorization) (request reply : Packet) :
    Prop where
  built : RadiusSession.Requests secret mac ⟨request.identifier, request.authenticator⟩ request
  station : RadiusProto.findAttribute request AttributeType.callingStationId =
    some ⟨AttributeType.callingStationId, utf8 (formatMac mac)⟩
  matched : reply.identifier = request.identifier
  verified : verifyReply reply request.authenticator secret = true
  code : reply.code = .accessAccept
  parsed : parseAuthorization reply = .ok a

/-- The entry is an accepted request for the MAC of the grant. -/
def Backs (secret : Bytes) (hostMode : HostMode) (entry : Entry) (grant : Grant) : Prop :=
  ∃ mac a request reply, grant = (some mac, targetOf (portTarget hostMode mac), a) ∧
    entry = ⟨some mac, .accessRequest request (.ok reply)⟩ ∧
    Accepted secret mac a request reply

end Definitions

/-! ## What one effect adds to the log -/

section Effects

variable {ω : Type} [RadiusProto] {deps : Deps ω} {port : String} {env env' : ω}
variable {de : DirectedEffect} {calls : List Call} {result : Except AuthdError (Option Event)}

/-- Only an effect that grants makes a grant. -/
theorem Dispatched.grantless (outcome : Dispatched deps port env de calls env' result)
    (quiet : de.effect.grant = none) (serving : Option MacAddr) :
    ∀ call ∈ calls, Entry.grant ⟨serving, call⟩ = none := by
  cases outcome with
  | applied mac auth =>
      cases auth with
      | authorized a => cases quiet
      | unauthorized => simp [Entry.grant]
      | fallback reason vlan => simp [Entry.grant]
  | _ => simp [Entry.grant]

/-- An effect that grants calls the enforcer, once. -/
theorem Dispatched.grants (outcome : Dispatched deps port env de calls env' result)
    {a : Authorization} (granted : de.effect.grant = some a) :
    ∃ answer, calls = [.apply (targetOf de.mac) (.authorized a) answer] := by
  have quiet : ∀ {mac}, de.asks = some mac → de.effect.grant = none := fun asked =>
    (Effect.quiet_of_isRequest (DirectedEffect.isRequest_of_asks asked)).1
  cases outcome with
  | applied mac auth =>
      cases auth with
      | authorized b =>
          cases granted
          exact ⟨_, rfl⟩
      | unauthorized => cases granted
      | fallback reason vlan => cases granted
  | idle effect command =>
      cases effect with
      | setAuthorization auth => exact absurd rfl (command auth)
      | _ => cases granted
  | refused de mac asked e | unanswered de mac asked _ _ _ | discarded de mac asked _ _ _ _
  | answered de mac asked _ _ _ _ _ =>
      rw [quiet asked] at granted
      cases granted
  | _ => cases granted

end Effects

/-! ## The invariant of a run -/

/-- The pending grant is the one an accept at the front of the queue leads to. -/
inductive Waits (hostMode : HostMode) (pending : Option Grant) : List (MacAddr × Event) → Prop
  | nil : Waits hostMode pending []
  | one (mac : MacAddr) (event : Event)
      (accepts : ∀ a eap, event = .accessAccept a eap →
        pending = some (some mac, targetOf (portTarget hostMode mac), a))
      (uncommanded : ∀ a, event ≠ .coaAuthorize a) :
      Waits hostMode pending [(mac, event)]

/-- What the effects left of a call for `mac` can still do, with `queue` behind them. -/
inductive Phase (hostMode : HostMode) (mac : MacAddr) (pending : Option Grant) (fx : List Effect) :
    List (MacAddr × Event) → Prop
  | asking (grants : fx.filterMap Effect.grant = [])
      (requests : (fx.filter Effect.isRequest).length ≤ 1) :
      Phase hostMode mac pending fx []
  | granting (a : Authorization)
      (owed : pending = some (some mac, targetOf (portTarget hostMode mac), a))
      (grants : fx.filterMap Effect.grant = [a]) (requests : fx.filter Effect.isRequest = []) :
      Phase hostMode mac pending fx []
  | done (queue : List (MacAddr × Event)) (waits : Waits hostMode pending queue)
      (grants : fx.filterMap Effect.grant = []) (requests : fx.filter Effect.isRequest = []) :
      Phase hostMode mac pending fx queue

/-- An effect of a call for `mac`: its commands act at the target of `mac`, and its
requests are about `mac`. -/
structure Aimed (hostMode : HostMode) (mac : MacAddr) (de : DirectedEffect) : Prop where
  commands : de.effect.isSetAuthorization = true → de.mac = portTarget hostMode mac
  asks : ∀ other, de.asks = some other → other = mac ∧ de.mac = some mac

theorem aimed_handle (p : PortPae) (mac : MacAddr) (event : Event) :
    ∀ de ∈ (p.handle mac event).2, Aimed p.cfg.hostMode mac de := by
  intro de member
  exact ⟨p.handle_target mac event member, fun other => p.handle_asks mac event member⟩

section Phases

variable {hostMode : HostMode} {mac : MacAddr} {pending : Option Grant} {effect : Effect}
variable {fx : List Effect} {queue : List (MacAddr × Event)}

/-- An event that opens a phase. -/
theorem Waits.phase {task : MacAddr × Event}
    (waits : Waits hostMode pending (task :: queue)) (outputs : Outputs task.1 task.2 fx) :
    Phase hostMode task.1 pending fx queue := by
  cases waits with
  | one mac event accepts uncommanded =>
      rcases outputs.grants with none | ⟨a, granted, ⟨eap, rfl⟩ | rfl⟩
      · refine .asking none ?_
        rcases outputs.requests with quiet | ⟨request, asks, -⟩
        · simp [quiet]
        · simp [asks]
      · -- an accept is a reply, so the call asks nothing more
        rcases outputs.requests with quiet | ⟨request, -, silent⟩
        · exact .granting a (accepts a eap rfl) granted quiet
        · exact absurd trivial silent
      · exact absurd rfl (uncommanded a)

/-- An effect that neither grants nor is followed up leaves its phase to the rest. -/
theorem Phase.tail (quiet : effect.grant = none)
    (phase : Phase hostMode mac pending (effect :: fx) queue) :
    Phase hostMode mac pending fx queue := by
  have fewer : (fx.filter Effect.isRequest).Sublist ((effect :: fx).filter Effect.isRequest) :=
    (List.sublist_cons_self effect fx).filter _
  have same : (effect :: fx).filterMap Effect.grant = fx.filterMap Effect.grant :=
    List.filterMap_cons_none quiet
  cases phase with
  | asking grants requests => exact .asking (same ▸ grants) (fewer.length_le.trans requests)
  | granting a owed grants requests =>
      exact .granting a owed (same ▸ grants) (List.sublist_nil.mp (requests ▸ fewer))
  | done queue waits grants requests =>
      exact .done queue waits (same ▸ grants) (List.sublist_nil.mp (requests ▸ fewer))

/-- A grant is performed only while it is pending, and is the last. -/
theorem Phase.grant {a : Authorization} (granted : effect.grant = some a)
    (phase : Phase hostMode mac pending (effect :: fx) queue) :
    pending = some (some mac, targetOf (portTarget hostMode mac), a) ∧
      ∀ later, Phase hostMode mac later fx queue := by
  have same : (effect :: fx).filterMap Effect.grant = a :: fx.filterMap Effect.grant :=
    List.filterMap_cons_some granted
  cases phase with
  | asking grants requests =>
      rw [same] at grants
      cases grants
  | granting b owed grants requests =>
      rw [same] at grants
      obtain ⟨rfl, none⟩ := List.cons.inj grants
      have quiet : fx.filter Effect.isRequest = [] :=
        List.sublist_nil.mp (requests ▸ (List.sublist_cons_self effect fx).filter _)
      exact ⟨owed, fun later => .done [] .nil none quiet⟩
  | done queue waits grants requests =>
      rw [same] at grants
      cases grants

/-- A request is performed only while nothing is queued, and is the last. -/
theorem Phase.request {later : Option Grant} {event : Event} (asks : effect.isRequest = true)
    (phase : Phase hostMode mac pending (effect :: fx) queue)
    (waits : Waits hostMode later [(mac, event)]) :
    Phase hostMode mac later fx (queue ++ [(mac, event)]) := by
  have same : (effect :: fx).filter Effect.isRequest = effect :: fx.filter Effect.isRequest :=
    List.filter_cons_of_pos asks
  cases phase with
  | asking grants requests =>
      rw [same, List.length_cons] at requests
      have quiet : fx.filter Effect.isRequest = [] := List.eq_nil_of_length_eq_zero (by omega)
      have none : fx.filterMap Effect.grant = [] := by
        rw [List.filterMap_cons_none (Effect.quiet_of_isRequest asks).1] at grants
        exact grants
      exact .done _ waits none quiet
  | granting b owed grants requests =>
      rw [same] at requests
      cases requests
  | done queue waits grants requests =>
      rw [same] at requests
      cases requests

end Phases

section Invariant

variable {ω : Type} [RadiusProto] {deps : Deps ω} {cfg : PaeConfig}

/-- The log of the world is matched, with `pending` left. -/
structure Accounted (deps : Deps ω) (cfg : PaeConfig) (w : World ω) (pending : Option Grant) :
    Prop where
  configured : w.pae.cfg = cfg
  matched : Matched Entry.grant (Backs deps.secret cfg.hostMode) w.log pending

def Provenance (deps : Deps ω) (cfg : PaeConfig) (w : World ω) : Prop :=
  ∃ pending, Accounted deps cfg w pending

/-- Between two events. -/
def Between (deps : Deps ω) (cfg : PaeConfig) (queue : List (MacAddr × Event)) (w : World ω) :
    Prop :=
  ∃ pending, Accounted deps cfg w pending ∧ Waits cfg.hostMode pending queue

/-- Inside the effects of one event. -/
def Inside (deps : Deps ω) (cfg : PaeConfig) (task : MacAddr × Event)
    (rest : List DirectedEffect) (queue : List (MacAddr × Event)) (w : World ω) : Prop :=
  w.serving = some task.1 ∧ (∀ de ∈ rest, Aimed cfg.hostMode task.1 de) ∧
    ∃ pending, Accounted deps cfg w pending ∧
      Phase cfg.hostMode task.1 pending (rest.map DirectedEffect.effect) queue

/-- Giving an event to the port opens a phase. -/
theorem Between.enter {task : MacAddr × Event} {queue : List (MacAddr × Event)} {w : World ω}
    (between : Between deps cfg (task :: queue) w) :
    Inside deps cfg task (feedPae task.1 task.2 w).1 queue (feedPae task.1 task.2 w).2 := by
  obtain ⟨pending, ⟨rfl, matched⟩, waits⟩ := between
  refine ⟨rfl, aimed_handle w.pae task.1 task.2, pending, ⟨?_, matched.quiet rfl⟩, ?_⟩
  · exact w.pae.handle_cfg task.1 task.2
  · exact waits.phase (w.pae.handle_outputs task.1 task.2)

variable {w w' : World ω} {de : DirectedEffect} {calls : List Call}
variable {result : Except AuthdError (Option Event)} {pending : Option Grant}

/-- An effect that grants nothing leaves what is pending. -/
theorem Accounted.quiet (accounted : Accounted deps cfg w pending)
    (performed : Performed deps w de (result, w') calls) (quiet : de.effect.grant = none) :
    Accounted deps cfg w' pending := by
  refine ⟨?_, ?_⟩
  · rw [performed.pae]
    exact accounted.configured
  · rw [performed.log]
    apply accounted.matched.quiets
    intro entry member
    obtain ⟨call, made, rfl⟩ := List.mem_map.mp member
    exact performed.outcome.grantless quiet _ call made

/-- A grant spends what is pending. -/
theorem Accounted.spend {mac : MacAddr} {a : Authorization} (serving : w.serving = some mac)
    (aimed : Aimed cfg.hostMode mac de) (granted : de.effect.grant = some a)
    (accounted : Accounted deps cfg w (some (some mac, targetOf (portTarget cfg.hostMode mac), a)))
    (performed : Performed deps w de (result, w') calls) : Accounted deps cfg w' none := by
  have commands := Effect.isSetAuthorization_of_grant granted
  obtain ⟨answer, rfl⟩ := performed.outcome.grants granted
  refine ⟨?_, ?_⟩
  · rw [performed.pae]
    exact accounted.configured
  · rw [performed.log]
    apply accounted.matched.spend
    rw [serving, aimed.commands commands]
    rfl

/-- A verified accept is an offer. -/
theorem Accounted.offer [LawfulRadiusProto] {mac : MacAddr} {a : Authorization}
    {eap : Option Bytes} (serving : w.serving = some mac) (aimed : Aimed cfg.hostMode mac de)
    (accounted : Accounted deps cfg w pending)
    (performed : Performed deps w de (.ok (some (.accessAccept a eap)), w') calls) :
    Accounted deps cfg w' (some (some mac, targetOf (portTarget cfg.hostMode mac), a)) := by
  obtain ⟨other, request, reply, sent, asked, rfl, built, matched, verified, parsed⟩ :=
    performed.outcome.followed rfl
  obtain ⟨rfl, -⟩ := aimed.asks other asked
  obtain ⟨identifier, authenticator, station⟩ := built.builtFor
  obtain ⟨code, authorization⟩ := parseReply_accept parsed
  have accepted : Accepted deps.secret other a request reply := by
    refine ⟨?_, station, ?_, ?_, code, authorization⟩
    · rw [identifier, authenticator]
      exact built
    · rw [identifier]
      exact matched
    · rw [authenticator]
      exact verified
  refine ⟨?_, ?_⟩
  · rw [performed.pae]
    exact accounted.configured
  · rw [performed.log, serving]
    exact accounted.matched.offer rfl ⟨other, a, request, reply, rfl, rfl, accepted⟩

/-- **The step lemma**: performing an effect stays inside the phases. -/
theorem Inside.act [LawfulRadiusProto] {task : MacAddr × Event} {rest : List DirectedEffect}
    {queue : List (MacAddr × Event)} {follow : Option Event}
    (inside : Inside deps cfg task (de :: rest) queue w)
    (performed : Performed deps w de (.ok follow, w') calls) :
    Inside deps cfg task rest
      (queue ++ (follow.map fun event => (de.mac.getD task.1, event)).toList) w' := by
  obtain ⟨serving, aimed, pending, accounted, phase⟩ := inside
  have here := aimed de List.mem_cons_self
  refine ⟨performed.serving.trans serving, fun de member => aimed de (List.mem_cons_of_mem _ member), ?_⟩
  cases follow with
  | none =>
      rw [Option.map_none, Option.toList_none, List.append_nil]
      cases granted : de.effect.grant with
      | none => exact ⟨pending, accounted.quiet performed granted, phase.tail granted⟩
      | some a =>
          obtain ⟨rfl, later⟩ := phase.grant granted
          exact ⟨none, accounted.spend serving here granted performed, later none⟩
  | some event =>
      obtain ⟨other, request, reply, sent, asked, -, -, -, -, parsed⟩ :=
        performed.outcome.followed rfl
      obtain ⟨-, directed⟩ := here.asks other asked
      have asks := DirectedEffect.isRequest_of_asks asked
      have quiet := (Effect.quiet_of_isRequest asks).1
      have uncommanded : ∀ a, event ≠ .coaAuthorize a := by
        rintro a rfl
        exact isReply_of_parseReply parsed
      rw [Option.map_some, directed, Option.getD_some]
      by_cases accept : ∃ a eap, event = .accessAccept a eap
      · obtain ⟨a, eap, rfl⟩ := accept
        refine ⟨_, accounted.offer serving here performed, phase.request asks ?_⟩
        refine .one task.1 _ ?_ uncommanded
        rintro b eap' ⟨⟩
        rfl
      · refine ⟨pending, accounted.quiet performed quiet, phase.request asks ?_⟩
        refine .one task.1 event ?_ uncommanded
        intro a eap same
        exact absurd ⟨a, eap, same⟩ accept

/-- What a failure leaves. -/
theorem Inside.abandon {task : MacAddr × Event} {rest : List DirectedEffect}
    {queue : List (MacAddr × Event)} (inside : Inside deps cfg task (de :: rest) queue w)
    (performed : Performed deps w de (result, w') calls) : Provenance deps cfg w' := by
  obtain ⟨serving, aimed, pending, accounted, phase⟩ := inside
  cases granted : de.effect.grant with
  | none => exact ⟨pending, accounted.quiet performed granted⟩
  | some a =>
      obtain ⟨rfl, -⟩ := phase.grant granted
      exact ⟨none, accounted.spend serving (aimed de List.mem_cons_self) granted performed⟩

/-- Once its effects are performed, a call leaves its queue. -/
theorem Inside.leave {task : MacAddr × Event} {queue : List (MacAddr × Event)}
    (inside : Inside deps cfg task [] queue w) : Between deps cfg queue w := by
  obtain ⟨-, -, pending, accounted, phase⟩ := inside
  refine ⟨pending, accounted, ?_⟩
  cases phase with
  | asking => exact .nil
  | granting => exact .nil
  | done queue waits => exact waits

theorem keeps_provenance [LawfulRadiusProto] (deps : Deps ω) (cfg : PaeConfig) :
    (eventQueue deps).Keeps (fun _ _ _ => True) (Between deps cfg) (Inside deps cfg)
      (Provenance deps cfg) where
  enter _ _ _ between := between.enter
  act _ _ _ _ _ _ _ inside acted := by
    obtain ⟨event, calls, rfl, performed⟩ := eventQueue_act_ok acted
    exact inside.act performed
  abandon _ _ _ _ _ _ _ inside acted _ := by
    obtain ⟨calls, performed⟩ := eventQueue_act_error acted
    exact inside.abandon performed
  leave _ _ _ inside := inside.leave

end Invariant

/-- **Provenance of every grant.**  In every run of a fresh orchestrator and port on the
events of the daemon, each call to the enforcer that grants is on behalf of some MAC, at
its target, and comes after an accepted request for that MAC and exactly that grant; and
distinct grants have distinct requests. -/
theorem grants_have_provenance {ω : Type} [RadiusProto] [LawfulRadiusProto] (deps : Deps ω)
    (port : String) (ctxTemplate : RequestContext) (cfg : PaeConfig) (env : ω)
    (inputs : List (MacAddr × Event)) (produced : ∀ input ∈ inputs, DaemonEvent input.2) :
    ∃ backing : Nat → Nat,
      (∀ i serving target a answer,
        (serve deps (.start port ctxTemplate cfg env) inputs).log[i]? =
            some ⟨serving, .apply target (.authorized a) answer⟩ →
          ∃ mac request reply, serving = some mac ∧
            target = targetOf (portTarget cfg.hostMode mac) ∧ backing i < i ∧
            (serve deps (.start port ctxTemplate cfg env) inputs).log[backing i]? =
              some ⟨some mac, .accessRequest request (.ok reply)⟩ ∧
            Accepted deps.secret mac a request reply) ∧
      Set.InjOn backing (Spending Entry.grant
        (serve deps (.start port ctxTemplate cfg env) inputs).log) := by
  have enters : ∀ mac event (w : World ω), DaemonEvent event → Provenance deps cfg w →
      Between deps cfg [(mac, event)] w := by
    rintro mac event w daemon ⟨pending, accounted⟩
    refine ⟨pending, accounted, .one mac event ?_ ?_⟩
    · rintro a eap rfl
      cases daemon
    · rintro a rfl
      cases daemon
  have settles : ∀ queue (w : World ω), Between deps cfg queue w → Provenance deps cfg w := by
    rintro queue w ⟨pending, accounted, -⟩
    exact ⟨pending, accounted⟩
  have begins : Provenance deps cfg (.start port ctxTemplate cfg env) := ⟨none, rfl, Matched.nil⟩
  obtain ⟨pending, -, backing, assigned, -⟩ := serve_invariant (keeps_provenance deps cfg) enters
    settles (fun _ held => held) begins produced
    (servesWithin_of_forall deps (fun _ _ _ => trivial) _ inputs)
  refine ⟨backing, ?_, assigned.injective⟩
  intro i serving target a answer found
  obtain ⟨earlier, entry, held, mac, b, request, reply, same, rfl, accepted⟩ :=
    assigned.backed i _ _ found rfl
  cases same
  exact ⟨mac, request, reply, rfl, rfl, earlier, held, accepted⟩

section Witness

attribute [local instance] Site.proto Site.lawful

/-- A silent supplicant is bypassed into VLAN 42: the eleventh entry grants, and one of
the first ten is the request that backs it. -/
theorem grants_have_provenance_bypass :
    (serve Site.deps (Site.start ⟨[.ok Site.accept], [.ok ()]⟩) Site.bypass).log[10]? =
        some ⟨some Site.station, .apply (.mac Site.station)
          (.authorized { vlan := some "42" }) (.ok ())⟩ ∧
      ∃ j < 10, ∃ request reply,
        (serve Site.deps (Site.start ⟨[.ok Site.accept], [.ok ()]⟩) Site.bypass).log[j]? =
          some ⟨some Site.station, .accessRequest request (.ok reply)⟩ ∧
        Accepted Site.deps.secret Site.station { vlan := some "42" } request reply := by
  have granted : (serve Site.deps (Site.start ⟨[.ok Site.accept], [.ok ()]⟩)
      Site.bypass).log[10]? = some ⟨some Site.station, .apply (.mac Site.station)
        (.authorized { vlan := some "42" }) (.ok ())⟩ := by
    decide +kernel
  have produced : ∀ input ∈ Site.bypass, DaemonEvent input.2 := by
    simp [Site.bypass, DaemonEvent]
  obtain ⟨backing, backed, -⟩ := grants_have_provenance Site.deps "Ethernet4" Site.context
    Site.config ⟨[.ok Site.accept], [.ok ()]⟩ Site.bypass produced
  obtain ⟨mac, request, reply, serving, -, earlier, held, accepted⟩ := backed 10 _ _ _ _ granted
  cases serving
  exact ⟨granted, backing 10, earlier, request, reply, held, accepted⟩

end Witness

end Authenticator.Authd
