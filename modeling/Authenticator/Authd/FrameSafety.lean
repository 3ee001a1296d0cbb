/-
# Authd.FrameSafety -- which frames stop a port

The loop of a port ends with the first error, so a frame that leads to one takes the port out
of service.  With every boundary call succeeding there is one way left: the frame is relayed,
and the name in force for it does not pass as a `User-Name`.  The builder refuses the request,
and the refusal is an error like any other (`frame_served_iff`).

Both directions follow the effects of the frame.  `Ready` says that the requests that are left
can be built; an error then is that of a call (`dispatch_failed`).  A request that cannot be
built stays so until its turn, since no effect ahead of it touches the name (`nameInForce_quiet`).
-/
import Authenticator.Authd.Bounded
import Authenticator.Authd.Relay

namespace Authenticator.Authd

set_option autoImplicit false

open Authenticator.Pacp Authenticator.Pae Authenticator.Radius Authenticator.Theory
open Orchestrator (Bounded Noted)

/-! ## Calls that succeed -/

section Calls

variable [RadiusProto]

/-- The call succeeded; a reply must verify and parse. -/
def Call.succeeds (secret : Bytes) : Call → Bool
  | .sendEap _ _ result => result.isOk
  | .accessRequest request (.ok reply) =>
      verifyReply reply request.authenticator secret && (parseReply reply).isOk
  | .accessRequest _ (.error _) => false
  | .accounting _ result => result.isOk
  | .apply _ _ result => result.isOk
  | _ => true

/-- The log grew from `start` by calls that succeeded. -/
def Unfailing (secret : Bytes) (start log : List Entry) : Prop :=
  ∃ new, log = start ++ new ∧ ∀ entry ∈ new, entry.call.succeeds secret = true

theorem not_unfailing {secret : Bytes} {start log : List Entry} (grew : start <+: log)
    {serving : Option MacAddr} {call : Call} (failed : call.succeeds secret = false) :
    ¬ Unfailing secret start (log ++ [⟨serving, call⟩]) := by
  obtain ⟨before, rfl⟩ := grew
  rintro ⟨new, same, all⟩
  rw [List.append_assoc] at same
  have last : (⟨serving, call⟩ : Entry) ∈ new := by
    rw [← List.append_cancel_left same]
    simp
  have done := all _ last
  rw [failed] at done
  cases done

end Calls

/-- What the RadSec client answers is for this request, and came off the wire. -/
structure OverRadSec {ω : Type} (deps : Deps ω) : Prop where
  matched : ∀ request env reply env', deps.accessRequest request env = (.ok reply, env') →
    reply.identifier = request.identifier
  sized : SizedReplies deps

/-! ## The name in force -/

/-- The identity a request for `eap` is built with: that of the packet, or the remembered one. -/
def nameInForce (o : Orchestrator) (mac : MacAddr) (eap : Bytes) : Option Bytes :=
  (eapIdentity eap).or (o.session mac).radius.userName

theorem nameInForce_noted {o o' : Orchestrator} (noted : Noted o o') (mac : MacAddr) (eap : Bytes) :
    nameInForce o' mac eap = nameInForce o mac eap := by
  obtain ⟨n, radius⟩ := noted.radius mac
  simp only [nameInForce, radius]

section Requests

variable {ω : Type} [RadiusProto] (deps : Deps ω) {mac : MacAddr} {eap : Bytes} {w : World ω}

/-- No effect that asks nothing touches the name. -/
theorem nameInForce_quiet {de : DirectedEffect} (quiet : de.asks = none) (w : World ω)
    (mac : MacAddr) (eap : Bytes) :
    nameInForce (dispatch deps de w).2.orch mac eap = nameInForce w.orch mac eap :=
  nameInForce_noted (noted_dispatch deps quiet w) mac eap

/-- The request for `eap`, at `w`. -/
def builtRequest (mac : MacAddr) (eap : Bytes) (w : World ω) :
    Except AuthdError Packet × RadiusSession :=
  RadiusSession.buildEapRequest (w.orch.ctxFor mac) (eapIdentity eap) eap
    (deps.generateRequestAuthenticator w.env).1 deps.secret (w.orch.session mac).radius

theorem builtRequest_eq (mac : MacAddr) (eap : Bytes) (w : World ω) :
    (builtRequest deps mac eap w).1 =
      (accessRequestEap (w.orch.ctxFor mac) (w.orch.session mac).radius.nextId
        (deps.generateRequestAuthenticator w.env).1 (nameInForce w.orch mac eap)
        (w.orch.session mac).radius.lastState eap deps.secret).mapError .radius := by
  unfold builtRequest nameInForce
  cases eapIdentity eap <;> rfl

/-- **The request is built exactly when the name in force passes.** -/
theorem builtRequest_ok_iff [LawfulRadiusProto] [SizedRadiusProto] (bounded : w.orch.Bounded)
    (some_ : eap ≠ []) (short : eap.length ≤ 1600) :
    (∃ request, (builtRequest deps mac eap w).1 = .ok request) ↔
      ∀ id ∈ nameInForce w.orch mac eap, Conforms id := by
  have context : (w.orch.ctxFor mac).Sized :=
    ⟨bounded.context.nasIdentifier, bounded.context.nasPortId⟩
  rw [builtRequest_eq]
  simp only [mapError_eq_ok]
  exact accessRequestEap_ok_iff context (bounded.sessions mac).state some_ short

/-- A request that is not built is an error. -/
theorem dispatch_unbuilt (unbuilt : ¬ ∃ request, (builtRequest deps mac eap w).1 = .ok request) :
    ∃ e, (dispatch deps ⟨some mac, .toAuthServer eap⟩ w).1 = .error e := by
  unfold builtRequest at unbuilt
  rw [dispatch_toAuthServer, roundTrip_eq]
  dsimp only
  split
  · rename_i e radius refused
    exact ⟨e, rfl⟩
  · rename_i request radius made
    exact absurd ⟨request, by rw [made]⟩ unbuilt

/-- A request that is built fails with its call. -/
theorem dispatch_built [LawfulRadiusProto] (contract : OverRadSec deps)
    (built : ∃ request, (builtRequest deps mac eap w).1 = .ok request) {e : AuthdError}
    (failed : (dispatch deps ⟨some mac, .toAuthServer eap⟩ w).1 = .error e) :
    ∃ call, call.succeeds deps.secret = false ∧
      (dispatch deps ⟨some mac, .toAuthServer eap⟩ w).2.log = w.log ++ [⟨w.serving, call⟩] := by
  obtain ⟨request, ok⟩ := built
  unfold builtRequest at ok
  rw [dispatch_toAuthServer, roundTrip_eq] at failed ⊢
  dsimp only at failed ⊢
  generalize made : RadiusSession.buildEapRequest (w.orch.ctxFor mac) (eapIdentity eap) eap
    (deps.generateRequestAuthenticator w.env).1 deps.secret (w.orch.session mac).radius = r
    at ok failed ⊢
  obtain ⟨outcome, radius⟩ := r
  obtain rfl : outcome = .ok request := ok
  obtain ⟨pending, outstanding, requests⟩ := RadiusSession.buildEapRequest_eq_ok made
  obtain ⟨identifier, authenticator, -⟩ := requests.builtFor
  dsimp only at failed ⊢
  generalize called : deps.accessRequest request (deps.generateRequestAuthenticator w.env).2 = r
    at failed ⊢
  obtain ⟨answer, env⟩ := r
  cases answer with
  | error e => exact ⟨.accessRequest request (.error e), rfl, rfl⟩
  | ok reply =>
      refine ⟨.accessRequest request (.ok reply), ?_, rfl⟩
      by_contra succeeded
      simp only [Call.succeeds, Bool.not_eq_false, Bool.and_eq_true] at succeeded
      obtain ⟨verified, parses⟩ := succeeded
      cases parsed : parseReply reply with
      | error e =>
          rw [parsed] at parses
          cases parses
      | ok event =>
          have matched := contract.matched _ _ _ _ called
          rw [identifier] at matched
          rw [authenticator] at verified
          have taken := RadiusSession.handleReply_ok_iff.mpr
            ⟨pending, outstanding, matched, verified, parsed⟩
          dsimp only at failed
          rw [taken] at failed
          cases failed

/-- An effect that asks nothing fails with its call, or for want of an Accounting-Request. -/
theorem dispatch_quiet_fails {de : DirectedEffect} (quiet : de.asks = none) {e : AuthdError}
    (failed : (dispatch deps de w).1 = .error e) :
    (∃ call, call.succeeds deps.secret = false ∧
      (dispatch deps de w).2.log = w.log ++ [⟨w.serving, call⟩]) ∨
    ∃ mac trigger, de = ⟨some mac, .accounting trigger⟩ ∧
      ¬ ∃ request, builtAccounting deps mac trigger w = .ok request := by
  have unsuccessful : ∀ result : Except AuthdError Unit,
      (result.map fun _ => (none : Option Event)) = .error e → result.isOk = false := by
    intro result same
    cases result with
    | ok u => cases same
    | error e => rfl
  obtain ⟨calls, performed⟩ := dispatch_performed deps de w
  obtain ⟨outcome, -, -, -, log⟩ := performed
  rw [log]
  generalize (dispatch deps de w).1 = result, (dispatch deps de w).2.env = env at outcome failed
  cases outcome with
  | sent mac eap => exact Or.inl ⟨.sendEap mac eap _, unsuccessful _ failed, rfl⟩
  | accounted mac trigger request =>
      exact Or.inl ⟨.accounting request _, unsuccessful _ failed, rfl⟩
  | applied mac auth =>
      refine Or.inl ⟨_, ?_, rfl⟩
      cases called : (deps.apply w.orch.port (targetOf mac) auth w.env).1 with
      | ok u =>
          rw [called] at failed
          cases failed
      | error e => rfl
  | unaccounted mac trigger e =>
      refine Or.inr ⟨mac, trigger, rfl, ?_⟩
      rintro ⟨request, built⟩
      rw [dispatch_accounting, built] at log
      have counted : (w.counted mac).log = w.log := rfl
      simp [World.record, counted] at log
  | refused de mac asked e | unanswered de mac asked _ _ _ | discarded de mac asked _ _ _ _
  | answered de mac asked _ _ _ _ _ =>
      rw [asked] at quiet
      cases quiet
  | _ => cases failed

/-- An effect that asks nothing fails with its call. -/
theorem dispatch_quiet_failed [LawfulRadiusProto] [SizedRadiusProto] (bounded : w.orch.Bounded)
    {de : DirectedEffect} (quiet : de.asks = none) {e : AuthdError}
    (failed : (dispatch deps de w).1 = .error e) :
    ∃ call, call.succeeds deps.secret = false ∧
      (dispatch deps de w).2.log = w.log ++ [⟨w.serving, call⟩] := by
  rcases dispatch_quiet_fails deps quiet failed with called | ⟨mac, trigger, -, unbuilt⟩
  · exact called
  · exact absurd (builtAccounting_ok deps mac trigger bounded) unbuilt

end Requests

/-! ## Frames that are served -/

section Served

variable {ω : Type} {w : World ω}

/-- The requests that are left can be built. -/
structure Ready (rest : List DirectedEffect) (w : World ω) : Prop where
  order : AsksThenArms rest
  requests : ∀ de ∈ rest, ∀ mac, de.asks = some mac → ∃ eap, de = ⟨some mac, .toAuthServer eap⟩ ∧
    eap ≠ [] ∧ eap.length ≤ 1600 ∧ ∀ id ∈ nameInForce w.orch mac eap, Conforms id

/-- Handling the event asks nothing that cannot be built. -/
structure Servable (w : World ω) (mac : MacAddr) (event : Event) : Prop where
  untimed : ∀ kind, event ≠ .timer kind
  sized : ∀ eap, event = .eapFromSupplicant eap → eap.packet ≠ [] ∧ eap.packet.length ≤ 1600
  named : ∀ eap, event = .eapFromSupplicant eap → w.pae.Relays mac eap →
    ∀ id ∈ nameInForce w.orch mac eap.packet, Conforms id

theorem servable_of_isReply {event : Event} (reply : event.IsReply) (w : World ω) (mac : MacAddr) :
    Servable w mac event := by
  cases event with
  | accessChallenge | accessAccept | accessReject => exact ⟨by simp, by simp, by simp⟩
  | _ => cases reply

theorem Ready.enter {P : Postures} (inv : PortInv w.pae P) {mac : MacAddr}
    {event : Event} (servable : Servable w mac event) :
    Ready (feedPae mac event w).1 (feedPae mac event w).2 := by
  refine ⟨w.pae.handle_order mac event, ?_⟩
  intro de member station asked
  have isRequest := DirectedEffect.isRequest_of_asks asked
  obtain ⟨rfl, aimed⟩ := w.pae.handle_asks mac event member asked
  obtain ⟨target, effect⟩ := de
  obtain rfl : target = some station := aimed
  cases w.pae.handle_request station event member isRequest with
  | relay eap =>
      obtain ⟨some_, short⟩ := servable.sized eap rfl
      exact ⟨eap.packet, rfl, some_, short, servable.named eap rfl
        ((PortPae.handle_relays_iff inv station eap).mp ⟨_, member, isRequest⟩)⟩
  | bypass => exact absurd rfl (servable.untimed .txPeriod)

/-- What a run keeps, between its calls and inside them. -/
def Serving (w : World ω) : Prop := w.orch.Bounded ∧ ∃ P, PortInv w.pae P

theorem Serving.feed (serving : Serving w) (mac : MacAddr) (event : Event) :
    Serving (feedPae mac event w).2 := by
  obtain ⟨bounded, P, inv⟩ := serving
  exact ⟨bounded, _, PortPae.portInv_handle inv mac event⟩

/-- Inside the effects of one event, with the log grown from `start`. -/
structure Attending (start : List Entry) (rest : List DirectedEffect)
    (queue : List (MacAddr × Event)) (w : World ω) : Prop where
  grew : start <+: w.log
  serving : Serving w
  ready : Ready rest w
  replies : ∀ task ∈ queue, task.2.IsReply

theorem Attending.enter {start : List Entry} {mac : MacAddr} {event : Event}
    {queue : List (MacAddr × Event)} (grew : start <+: w.log) (serving : Serving w)
    (servable : Servable w mac event) (replies : ∀ task ∈ queue, task.2.IsReply) :
    Attending start (feedPae mac event w).1 queue (feedPae mac event w).2 := by
  obtain ⟨P, inv⟩ := serving.2
  exact ⟨grew.trans (List.prefix_append _ _), serving.feed mac event, .enter inv servable, replies⟩

variable [RadiusProto] {deps : Deps ω} {de : DirectedEffect} {rest : List DirectedEffect}

theorem Ready.act (deps : Deps ω) (ready : Ready (de :: rest) w) :
    Ready rest (dispatch deps de w).2 := by
  refine ⟨ready.order.2, ?_⟩
  intro later member mac asked
  cases asks : de.asks with
  | none =>
      obtain ⟨eap, same, some_, short, names⟩ :=
        ready.requests later (List.mem_cons_of_mem _ member) mac asked
      refine ⟨eap, same, some_, short, ?_⟩
      rw [nameInForce_quiet deps asks]
      exact names
  | some station =>
      -- A request is the last one: only timers are armed behind it.
      obtain ⟨kind, arms⟩ := ready.order.1 (DirectedEffect.isRequest_of_asks asks) later member
      have again := DirectedEffect.isRequest_of_asks asked
      rw [arms] at again
      cases again

/-- **An error is that of a call**, as long as the requests can be built. -/
theorem dispatch_failed [LawfulRadiusProto] [SizedRadiusProto] (contract : OverRadSec deps)
    (bounded : w.orch.Bounded) (ready : Ready (de :: rest) w) {e : AuthdError}
    (failed : (dispatch deps de w).1 = .error e) :
    ∃ call, call.succeeds deps.secret = false ∧
      (dispatch deps de w).2.log = w.log ++ [⟨w.serving, call⟩] := by
  cases asks : de.asks with
  | none => exact dispatch_quiet_failed deps bounded asks failed
  | some mac =>
      obtain ⟨eap, rfl, some_, short, names⟩ := ready.requests de List.mem_cons_self mac asks
      exact dispatch_built deps contract
        ((builtRequest_ok_iff deps bounded some_ short).mpr names) failed

theorem Serving.dispatch [LawfulRadiusProto] (serving : Serving w) (replies : SizedReplies deps)
    (de : DirectedEffect) : Serving (dispatch deps de w).2 := by
  obtain ⟨bounded, inv⟩ := serving
  obtain ⟨calls, performed⟩ := dispatch_performed deps de w
  exact ⟨bounded_dispatch replies de bounded, by rw [performed.pae]; exact inv⟩

/-- **Every run keeps it.** -/
theorem serving_serve [LawfulRadiusProto] (replies : SizedReplies deps) {port : String}
    (short : (utf8 port).length < 16) {ctxTemplate : RequestContext} (sized : ctxTemplate.Sized)
    (cfg : PaeConfig) (env : ω) (inputs : List (MacAddr × Event)) :
    Serving (serve deps (.start port ctxTemplate cfg env) inputs) := by
  have keeps := keeps_world (fun mac event w (serving : Serving w) => serving.feed mac event)
    (fun de w serving => serving.dispatch replies de)
  have start : Serving (World.start port ctxTemplate cfg env) := by
    refine ⟨⟨short, sized, ?_⟩, _, .new cfg⟩
    intro mac
    exact ⟨by simp [World.start, Orchestrator.new, Orchestrator.session],
      by simp [World.start, Orchestrator.new, Orchestrator.session],
      by simp [World.start, Orchestrator.new, Orchestrator.session]⟩
  have enters : ∀ (_ : MacAddr) (_ : Event) (w : World ω), True → Serving w → Serving w :=
    fun _ _ _ _ held => held
  exact serve_invariant keeps enters (fun _ _ held => held) (fun _ held => held) start
    (fun _ _ => trivial) (servesWithin_of_forall deps (fun _ _ _ => trivial) _ _)

/-- Only replies are queued behind an event. -/
theorem Attending.act [LawfulRadiusProto] (replies : SizedReplies deps) {start : List Entry}
    {queue : List (MacAddr × Event)} (mac : MacAddr) {event : Option Event}
    (attending : Attending start (de :: rest) queue w)
    (done : (dispatch deps de w).1 = .ok event) :
    Attending start rest (queue ++ (event.map fun event => (mac, event)).toList)
      (dispatch deps de w).2 := by
  obtain ⟨grew, serving, ready, queued⟩ := attending
  obtain ⟨calls, performed⟩ := dispatch_performed deps de w
  refine ⟨grew.trans ⟨_, performed.log.symm⟩, serving.dispatch replies de, ready.act deps, ?_⟩
  intro next member
  rcases List.mem_append.mp member with old | new
  · exact queued next old
  · cases event with
    | none => cases new
    | some event =>
        obtain ⟨_, _, _, _, -, -, -, -, -, parsed⟩ := performed.outcome.followed done
        rw [List.mem_singleton.mp new]
        exact isReply_of_parseReply parsed

/-- **An event that is servable is served**, or a call of it fails. -/
theorem handleEvent_ok [LawfulRadiusProto] [SizedRadiusProto] (contract : OverRadSec deps)
    (serving : Serving w) {mac : MacAddr} {event : Event} (servable : Servable w mac event)
    (unfailing : Unfailing deps.secret w.log (handleEvent deps mac event w).2.log) :
    (handleEvent deps mac event w).1 = .ok () := by
  have keeps : (eventQueue deps).Keeps (fun _ _ _ => True)
      (fun queue w' => w.log <+: w'.log ∧ Serving w' ∧
        ((∀ task ∈ queue, task.2.IsReply) ∨ queue = [(mac, event)] ∧ Servable w' mac event))
      (fun _ rest queue w' => Attending w.log rest queue w')
      (fun w' => ¬ Unfailing deps.secret w.log w'.log) := by
    refine eventQueue_keeps ?_ ?_ ?_ ?_
    · rintro ⟨m, event⟩ queue w' ⟨grew, serving, replies | ⟨same, servable⟩⟩
      · have reply : event.IsReply := replies (m, event) List.mem_cons_self
        exact .enter grew serving (servable_of_isReply reply w' m)
          fun task member => replies task (List.mem_cons_of_mem _ member)
      · cases same
        exact .enter grew serving servable (by simp)
    · intro task de rest queue w' follow attending done
      exact attending.act contract.sized (de.mac.getD task.1) done
    · intro task de rest queue w' e attending failed _
      obtain ⟨call, unsuccessful, log⟩ :=
        dispatch_failed contract attending.serving.1 attending.ready failed
      rw [log]
      exact not_unfailing attending.grew unsuccessful
    · intro task queue w' attending
      exact ⟨attending.grew, attending.serving, Or.inl attending.replies⟩
  have ended := keeps.drain 64 [(mac, event)] w
    ⟨List.prefix_refl _, serving, Or.inr ⟨rfl, servable⟩⟩
    ((eventQueue deps).drainsWithin_of_forall _ (fun _ _ _ => trivial) 64 _ w)
  unfold handleEvent at unfailing ⊢
  cases ran : (eventQueue deps).drain 64 [(mac, event)] w with
  | mk outcome w' =>
      rw [ran] at ended unfailing
      cases outcome with
      | ok u => rfl
      | error e => exact absurd unfailing ended

end Served

/-! ## Frames that stop the port -/

section Stopped

variable {ω : Type} {w : World ω}

/-- The request of `eap` is among those left, no other is, and it cannot be built. -/
structure Doomed (mac : MacAddr) (eap : Bytes) (rest : List DirectedEffect) (w : World ω) : Prop where
  left : ⟨some mac, .toAuthServer eap⟩ ∈ rest
  only : ∀ de ∈ rest, ∀ station, de.asks = some station → de = ⟨some mac, .toAuthServer eap⟩
  unnamed : ¬ ∀ id ∈ nameInForce w.orch mac eap, Conforms id

theorem Doomed.enter {P : Postures} (inv : PortInv w.pae P) {mac : MacAddr} {eap : InboundEap}
    (relays : w.pae.Relays mac eap)
    (unnamed : ¬ ∀ id ∈ nameInForce w.orch mac eap.packet, Conforms id) :
    Doomed mac eap.packet (feedPae mac (.eapFromSupplicant eap) w).1
      (feedPae mac (.eapFromSupplicant eap) w).2 := by
  obtain ⟨de, member, isRequest⟩ := (PortPae.handle_relays_iff inv mac eap).mpr relays
  refine ⟨?_, ?_, unnamed⟩
  · rw [← w.pae.handle_relayed mac eap member isRequest]
    exact member
  · intro de member station asked
    exact w.pae.handle_relayed mac eap member (DirectedEffect.isRequest_of_asks asked)

variable [RadiusProto] {deps : Deps ω}

/-- Nothing ahead of the request names the session. -/
theorem Doomed.act [LawfulRadiusProto] [SizedRadiusProto] (deps : Deps ω) {mac : MacAddr}
    {eap : Bytes} {de : DirectedEffect} {rest : List DirectedEffect}
    (doomed : Doomed mac eap (de :: rest) w)
    (bounded : w.orch.Bounded) (some_ : eap ≠ []) (short : eap.length ≤ 1600)
    {follow : Option Event} (done : (dispatch deps de w).1 = .ok follow) :
    Doomed mac eap rest (dispatch deps de w).2 := by
  cases asks : de.asks with
  | none =>
      refine ⟨?_, fun later member => doomed.only later (List.mem_cons_of_mem _ member), ?_⟩
      · rcases List.mem_cons.mp doomed.left with same | later
        · rw [← same] at asks
          cases asks
        · exact later
      · rw [nameInForce_quiet deps asks]
        exact doomed.unnamed
  | some station =>
      have same := doomed.only de List.mem_cons_self station asks
      subst same
      have unbuilt := mt (builtRequest_ok_iff deps bounded some_ short).mp doomed.unnamed
      obtain ⟨e, failed⟩ := dispatch_unbuilt deps unbuilt
      rw [failed] at done
      cases done

/-- **A packet that is relayed under a name that does not pass is an error.** -/
theorem handleEvent_refused [LawfulRadiusProto] [SizedRadiusProto] (replies : SizedReplies deps)
    (serving : Serving w) {mac : MacAddr} {eap : InboundEap} (some_ : eap.packet ≠ [])
    (short : eap.packet.length ≤ 1600) (relays : w.pae.Relays mac eap)
    (unnamed : ¬ ∀ id ∈ nameInForce w.orch mac eap.packet, Conforms id) :
    ∃ e, (handleEvent deps mac (.eapFromSupplicant eap) w).1 = .error e := by
  have keeps : (eventQueue deps).Keeps (fun _ _ _ => True)
      (fun queue w' => queue = [(mac, .eapFromSupplicant eap)] ∧ w' = w)
      (fun _ rest _ w' => Serving w' ∧ Doomed mac eap.packet rest w') (fun _ => True) := by
    refine eventQueue_keeps ?_ ?_ (fun _ _ _ _ _ _ _ _ _ => trivial) ?_
    · rintro task queue w' ⟨same, rfl⟩
      cases same
      obtain ⟨P, inv⟩ := serving.2
      exact ⟨serving.feed mac _, .enter inv relays unnamed⟩
    · rintro task de rest queue w' follow ⟨serving, doomed⟩ done
      exact ⟨serving.dispatch replies de, doomed.act deps serving.1 some_ short done⟩
    · rintro task queue w' ⟨-, doomed⟩
      cases doomed.left
  have ended := keeps.actAll (mac, .eapFromSupplicant eap) _ [] _
    (keeps.enter (mac, .eapFromSupplicant eap) [] w ⟨rfl, rfl⟩)
    ((eventQueue deps).actsWithin_of_forall _ (fun _ _ _ => trivial) _ _ _)
  unfold handleEvent Worklist.drain
  generalize (eventQueue deps).actAll (mac, .eapFromSupplicant eap)
    ((eventQueue deps).expand (mac, .eapFromSupplicant eap) w).1 []
    ((eventQueue deps).expand (mac, .eapFromSupplicant eap) w).2 = r at ended ⊢
  obtain ⟨outcome, w'⟩ := r
  cases outcome with
  | ok queue => cases ended.2.left
  | error e => exact ⟨e, rfl⟩

end Stopped

/-! ## The main result -/

section Main

variable {ω : Type} [RadiusProto]

/-- If the frame is relayed, the name in force for it passes as a `User-Name`. -/
def FrameConforms (w : World ω) (bytes : Bytes) : Prop :=
  ∀ mac eap, frameEvent bytes = some (mac, .eapFromSupplicant eap) → w.pae.Relays mac eap →
    ∀ id ∈ nameInForce w.orch mac eap.packet, Conforms id

/-- At every state between two events: if every call made for a frame succeeds, it is served if
and only if it is not relayed or its name conforms. -/
theorem dispatchFrame_ok_iff [LawfulRadiusProto] [SizedRadiusProto] {deps : Deps ω}
    (contract : OverRadSec deps) {w : World ω} (serving : Serving w) {bytes : Bytes}
    (received : bytes.length ≤ frameCap)
    (unfailing : Unfailing deps.secret w.log (dispatchFrame deps bytes w).2.log) :
    (dispatchFrame deps bytes w).1 = .ok () ↔ FrameConforms w bytes := by
  unfold dispatchFrame at unfailing ⊢
  unfold FrameConforms
  cases became : frameEvent bytes with
  | none =>
      refine ⟨?_, fun _ => rfl⟩
      rintro - mac eap ⟨⟩
  | some input =>
      obtain ⟨mac, event⟩ := input
      rw [became] at unfailing
      have fits : ∀ eap, event = .eapFromSupplicant eap →
          eap.packet ≠ [] ∧ eap.packet.length ≤ 1600 := by
        rintro eap rfl
        obtain ⟨some_, short⟩ := length_of_frameEvent became
        exact ⟨some_, short.trans received⟩
      constructor
      · rintro done station eap ⟨⟩ relays
        by_contra unnamed
        obtain ⟨some_, short⟩ := fits eap rfl
        obtain ⟨e, failed⟩ :=
          handleEvent_refused contract.sized serving some_ short relays unnamed
        rw [failed] at done
        cases done
      · intro conforms
        have untimed : ∀ kind, event ≠ .timer kind := by
          rintro kind rfl
          rcases event_of_frame became with same | same | ⟨eap, same⟩ <;> cases same
        refine handleEvent_ok contract serving ⟨untimed, fits, ?_⟩ unfailing
        rintro eap rfl
        exact conforms mac eap rfl

/-- **A frame stops the port exactly when it is relayed under a name that does not pass.**  At
every state of every run, with NAS names that fit an attribute, for every frame the socket
receives: if every boundary call made for it succeeds, `dispatchFrame` returns `ok` if and only
if the frame is not relayed or its name conforms. -/
theorem frame_served_iff [LawfulRadiusProto] [SizedRadiusProto] (deps : Deps ω)
    (contract : OverRadSec deps) (port : String) (interface : (utf8 port).length < ifNameSize)
    (ctxTemplate : RequestContext) (sized : ctxTemplate.Sized) (cfg : PaeConfig) (env : ω)
    (inputs : List (MacAddr × Event)) (bytes : Bytes) (received : bytes.length ≤ frameCap) :
    let w := serve deps (.start port ctxTemplate cfg env) inputs
    Unfailing deps.secret w.log (dispatchFrame deps bytes w).2.log →
      ((dispatchFrame deps bytes w).1 = .ok () ↔ FrameConforms w bytes) := by
  intro w unfailing
  have serving : Serving w := serving_serve contract.sized interface sized cfg env inputs
  exact dispatchFrame_ok_iff contract serving received unfailing

end Main

section Witness

attribute [local instance] exchangeProto

/-- The site, behind a client that takes no reply but one to its request, off the wire. -/
def radSecDeps : Deps Site.Script :=
  { socketDeps with
    accessRequest := fun request => do
      let reply ← Site.accessRequest request
      if reply.identifier = request.identifier ∧
          ∀ a ∈ reply.attributes, a.value.length ≤ maxAttrValue then
        return reply
      else
        Prog.fail .radSec }

theorem overRadSec_radSecDeps : OverRadSec radSecDeps := by
  have answered : ∀ request env reply env', radSecDeps.accessRequest request env =
      (.ok reply, env') → reply.identifier = request.identifier ∧
        ∀ a ∈ reply.attributes, a.value.length ≤ maxAttrValue := by
    intro request env reply env' called
    have started : radSecDeps.accessRequest request env = _ := Prog.bind_apply _ _ _
    rw [started] at called
    split at called
    · split at called
      · rename_i taken
        cases called
        exact taken
      · cases called
    · cases called
  exact ⟨fun request env reply env' called => (answered request env reply env' called).1,
    fun request env reply env' called => (answered request env reply env' called).2⟩

theorem sized_context : Site.context.Sized := ⟨by decide, by decide⟩

/-- EAP-Response/Identity of a line feed, in a frame. -/
def lineFeedFrame : Bytes :=
  [0x01, 0x80, 0xc2, 0x00, 0x00, 0x03] ++ Site.station.toList ++ [0x88, 0x8e, 3, 0, 0, 6] ++
    [2, 1, 0, 6, 1, 0x0a]

/-- The frame of `alice` is served: the name passes, and every call succeeds. -/
theorem frame_served_iff_alice :
    Unfailing radSecDeps.secret exchangeStart.log
      (dispatchFrame radSecDeps identityFrame exchangeStart).2.log ∧
      (dispatchFrame radSecDeps identityFrame exchangeStart).1 = .ok () := by
  have lawful : LawfulRadiusProto := codec_lawful exchangeDigests
  have sized : SizedRadiusProto := codec_sized exchangeDigests
  have start : serve radSecDeps (.start "Ethernet4" Site.context Site.config
      ⟨[.ok challenge], []⟩) [] = exchangeStart := rfl
  have served := frame_served_iff radSecDeps overRadSec_radSecDeps "Ethernet4" (by decide)
    Site.context sized_context Site.config ⟨[.ok challenge], []⟩ [] identityFrame (by decide)
  rw [start] at served
  have unfailing : Unfailing radSecDeps.secret exchangeStart.log
      (dispatchFrame radSecDeps identityFrame exchangeStart).2.log :=
    ⟨_, (List.nil_append _).symm, by decide +kernel⟩
  refine ⟨unfailing, (served unfailing).mpr ?_⟩
  have became : frameEvent identityFrame = some identityInput := by decide +kernel
  have alice : nameInForce exchangeStart.orch Site.station identityResponse =
      some (utf8 "alice") := by decide +kernel
  intro mac eap same _ id named
  rw [became] at same
  cases same
  rw [alice] at named
  cases named
  exact ⟨"alice", by decide +kernel⟩

/-- A supplicant that gives a line feed as its identity takes the port out of service. -/
theorem line_feed_stops_port :
    ¬ ∀ (deps : Deps Site.Script), OverRadSec deps → ∀ port : String,
      (utf8 port).length < ifNameSize → ∀ ctxTemplate : RequestContext, ctxTemplate.Sized →
        ∀ cfg env inputs, ∀ bytes : Bytes, bytes.length ≤ frameCap →
          let w := serve deps (.start port ctxTemplate cfg env) inputs
          Unfailing deps.secret w.log (dispatchFrame deps bytes w).2.log →
            (dispatchFrame deps bytes w).1 = .ok () := by
  intro claim
  have served := claim radSecDeps overRadSec_radSecDeps "Ethernet4" (by decide) Site.context
    sized_context Site.config ⟨[], []⟩ [] lineFeedFrame (by decide)
    ⟨_, (List.nil_append _).symm, by decide +kernel⟩
  have refused : (dispatchFrame radSecDeps lineFeedFrame (Site.start ⟨[], []⟩)).1 =
      .error (.radius .invalidUserName) := by decide +kernel
  have served : (dispatchFrame radSecDeps lineFeedFrame (Site.start ⟨[], []⟩)).1 = .ok () := served
  rw [refused] at served
  cases served

end Witness

end Authenticator.Authd
