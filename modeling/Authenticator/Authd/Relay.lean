/-
# Authd.Relay -- EAP passes through unchanged, in both directions

From the supplicant: whatever a frame with an EAP-Response leads to, every Access-Request
made while it is dispatched carries exactly the EAPOL body of the frame (`carried_frame`).

From the server: the log of a run is read from left to right, with the packet that is owed
to a supplicant as memory (`Relayed`).  A reply that is taken and brings EAP is owed to the
supplicant whose request it answers; until it is sent, nothing else is sent and nothing is
asked.  `Relaying` is the invariant: the session waits for the reply, and the effects that
are left pass it on before anything can fail.

`relayed_verbatim` puts both together, down to the octets of the frame that is sent.
-/
import Authenticator.Theory.Since
import Authenticator.Radius.EapMessage
import Authenticator.Pae.Exchange
import Authenticator.Authd.Worker

namespace Authenticator.Authd

set_option autoImplicit false

open Authenticator.Pacp Authenticator.Pae Authenticator.Radius Authenticator.Theory

/-! ## What one effect adds to the log -/

/-- The call neither asks the server nor sends to a supplicant. -/
def Call.silent : Call → Bool
  | .accessRequest _ _ | .sendEap _ _ _ => false
  | _ => true

section Effects

variable {ω : Type} [RadiusProto] {deps : Deps ω} {port : String} {env env' : ω}
variable {de : DirectedEffect} {calls : List Call} {result : Except AuthdError (Option Event)}

/-- An effect that asks nothing sends one packet, or is silent. -/
theorem Dispatched.sends (outcome : Dispatched deps port env de calls env' result)
    (quiet : de.asks = none) :
    (∃ mac eap answer, de = ⟨some mac, .txEapToSupplicant eap⟩ ∧
      calls = [.sendEap mac eap answer]) ∨ ∀ call ∈ calls, call.silent = true := by
  cases outcome with
  | sent mac eap => exact Or.inl ⟨mac, eap, _, rfl, rfl⟩
  | refused de mac asked e | unanswered de mac asked _ _ _ | discarded de mac asked _ _ _ _
  | answered de mac asked _ _ _ _ _ =>
      rw [asked] at quiet
      cases quiet
  | _ =>
      refine Or.inr ?_
      simp [Call.silent]

/-- A packet for a supplicant is sent. -/
theorem Dispatched.sends_eap (outcome : Dispatched deps port env de calls env' result)
    {mac : MacAddr} {eap : Bytes} (packet : de = ⟨some mac, .txEapToSupplicant eap⟩) :
    ∃ answer, calls = [.sendEap mac eap answer] := by
  cases outcome with
  | sent =>
      cases packet
      exact ⟨_, rfl⟩
  | refused de other asked e | unanswered de other asked _ _ _ | discarded de other asked _ _ _ _
  | answered de other asked _ _ _ _ _ =>
      rw [packet] at asked
      cases asked
  | _ => cases packet

/-- Timers do not fail and lead to no event. -/
theorem Dispatched.timers (outcome : Dispatched deps port env de calls env' result)
    (timer : (∃ kind, de.effect = .armTimer kind) ∨ ∃ kind, de.effect = .cancelTimer kind) :
    result = .ok none := by
  cases outcome with
  | refused de mac asked e | unanswered de mac asked _ _ _ | discarded de mac asked _ _ _ _
  | answered de mac asked _ _ _ _ _ =>
      have asks := DirectedEffect.isRequest_of_asks asked
      rcases timer with ⟨kind, same⟩ | ⟨kind, same⟩ <;> rw [same] at asks <;> cases asks
  | idle effect => rfl
  | armed | unarmed | cancelled => rfl
  | _ => simp at timer

end Effects

section Asking

variable {ω : Type} [RadiusProto]

/-- The reply is bound to the request and parses. -/
def Taken (secret : Bytes) (request reply : Packet) : Prop :=
  reply.identifier = request.identifier ∧ verifyReply reply request.authenticator secret = true ∧
    ∃ event, parseReply reply = .ok event

/-- What asking the server for `mac` comes to: no request, a request without a reply that is
taken, or one with it. -/
inductive Asked (secret : Bytes) (made : Packet → Prop) :
    Except AuthdError (Option Event) → List Call → Prop
  | refused (e : AuthdError) : Asked secret made (.error e) []
  | failed (e : AuthdError) (request : Packet) (answer : Except AuthdError Packet)
      (built : made request) (untaken : ∀ reply, answer = .ok reply → ¬ Taken secret request reply) :
      Asked secret made (.error e) [.accessRequest request answer]
  | answered (request reply : Packet) (event : Event) (built : made request)
      (taken : Taken secret request reply) (parsed : parseReply reply = .ok event) :
      Asked secret made (.ok (some event)) [.accessRequest request (.ok reply)]

theorem asked_roundTrip [LawfulRadiusProto] (deps : Deps ω) {mac : MacAddr}
    {build : RequestContext → Auth16 → Prog AuthdError RadiusSession Packet} {made : Packet → Prop}
    (builds : ∀ ctx authenticator s request s',
      build ctx authenticator s = (.ok request, s') → made request ∧
        ∃ pending, s'.pending = some pending ∧
          RadiusSession.Requests deps.secret ctx.callingStation pending request) (w : World ω) :
    ∃ calls, Asked deps.secret made (roundTrip deps mac build w).1 calls ∧
      (roundTrip deps mac build w).2.log = w.log ++ calls.map fun call => ⟨w.serving, call⟩ := by
  rw [roundTrip_eq]
  dsimp only
  split
  · rename_i e radius refused
    exact ⟨[], .refused e, (List.append_nil _).symm⟩
  · rename_i request radius built
    obtain ⟨kept, pending, outstanding, requests⟩ := builds _ _ _ _ _ built
    obtain ⟨identifier, authenticator, -⟩ := requests.builtFor
    split
    · rename_i e env called
      exact ⟨_, .failed e request _ kept (by simp), rfl⟩
    · rename_i reply env called
      cases outcome : (RadiusSession.handleReply reply deps.secret radius).1 with
      | error e =>
          refine ⟨_, .failed e request (.ok reply) kept ?_, rfl⟩
          rintro _ ⟨⟩ ⟨matched, verified, event, parsed⟩
          rw [identifier] at matched
          rw [authenticator] at verified
          have taken := RadiusSession.handleReply_ok_iff.mpr
            ⟨pending, outstanding, matched, verified, parsed⟩
          rw [outcome] at taken
          cases taken
      | ok event =>
          obtain ⟨bound, same, matched, verified, parsed⟩ :=
            RadiusSession.handleReply_ok_iff.mp outcome
          rw [outstanding] at same
          cases same
          refine ⟨_, .answered request reply event kept ⟨?_, ?_, event, parsed⟩ parsed, rfl⟩
          · rw [identifier]
            exact matched
          · rw [authenticator]
            exact verified

/-- The request of an effect, as its builder made it: with the packet of the effect in it. -/
def RequestOf (secret : Bytes) (effect : Effect) (request : Packet) : Prop :=
  ∀ eap, effect = .toAuthServer eap → ∃ ctx identifier authenticator identity state,
    accessRequestEap ctx identifier authenticator identity state eap secret = .ok request

/-- **What an effect that asks the server does.** -/
theorem asked_dispatch [LawfulRadiusProto] (deps : Deps ω) {de : DirectedEffect} {mac : MacAddr}
    (asks : de.asks = some mac) (w : World ω) :
    ∃ calls, Asked deps.secret (RequestOf deps.secret de.effect) (dispatch deps de w).1 calls ∧
      (dispatch deps de w).2.log = w.log ++ calls.map fun call => ⟨w.serving, call⟩ := by
  obtain ⟨target, effect⟩ := de
  cases effect with
  | toAuthServer eap =>
      cases target with
      | none => cases asks
      | some station =>
          rw [dispatch_toAuthServer]
          refine asked_roundTrip deps ?_ w
          intro ctx authenticator s request s' built
          refine ⟨?_, RadiusSession.buildEapRequest_eq_ok built⟩
          rintro packet ⟨⟩
          have packet := congrArg Prod.fst built
          cases identity : eapIdentity eap with
          | none =>
              rw [identity] at packet
              exact ⟨_, _, _, _, _, mapError_eq_ok.mp packet⟩
          | some id =>
              rw [identity] at packet
              exact ⟨_, _, _, _, _, mapError_eq_ok.mp packet⟩
  | startMab station =>
      rw [dispatch_startMab]
      refine asked_roundTrip deps ?_ w
      intro ctx authenticator s request s' built
      refine ⟨?_, RadiusSession.buildMabRequest_eq_ok built⟩
      intro eap same
      cases same
  | _ => cases target <;> cases asks

end Asking

/-! ## From the supplicant -/

section Inbound

variable {ω : Type} [RadiusProto]

/-- The request carries these octets, in `EAP-Message` attributes of 1 to 253 octets. -/
def Carries (body : Bytes) (request : Packet) : Prop :=
  (RadiusProto.findAllAttributes request AttributeType.eapMessage).flatMap Attribute.value = body ∧
    ∀ a ∈ RadiusProto.findAllAttributes request AttributeType.eapMessage,
      1 ≤ a.value.length ∧ a.value.length ≤ maxAttrValue

/-- The log grew from `start`, and every request in the growth carries `body`. -/
def CarriesSince (body : Bytes) (start log : List Entry) : Prop :=
  ∃ new, log = start ++ new ∧ ∀ entry ∈ new, ∀ request answer,
    entry.call = .accessRequest request answer → Carries body request

theorem CarriesSince.append {body : Bytes} {start log : List Entry} {serving : Option MacAddr}
    {calls : List Call} (carries : CarriesSince body start log)
    (here : ∀ call ∈ calls, ∀ request answer, call = .accessRequest request answer →
      Carries body request) :
    CarriesSince body start (log ++ calls.map fun call => ⟨serving, call⟩) := by
  obtain ⟨new, rfl, all⟩ := carries
  refine ⟨new ++ calls.map fun call => ⟨serving, call⟩, List.append_assoc _ _ _, ?_⟩
  intro entry member
  rcases List.mem_append.mp member with old | now
  · exact all entry old
  · obtain ⟨call, made, rfl⟩ := List.mem_map.mp now
    exact here call made

/-- The events of one frame: the packet itself, and the replies it leads to. -/
def LeadsTo (body : Bytes) (event : Event) : Prop :=
  event.IsReply ∨ ∃ eap, event = .eapFromSupplicant eap ∧ eap.packet = body

/-- Performing an effect of such an event makes no other request. -/
theorem carries_dispatch [LawfulRadiusProto] [OrderedRadiusProto] (deps : Deps ω)
    {body : Bytes} {de : DirectedEffect}
    (asks : de.effect.isRequest = true → de.effect = .toAuthServer body) (w : World ω) :
    ∃ calls : List Call,
      (dispatch deps de w).2.log = w.log ++ (calls.map fun call => ⟨w.serving, call⟩) ∧
      (∀ call ∈ calls, ∀ request answer, call = .accessRequest request answer →
        Carries body request) ∧
      ∀ event, (dispatch deps de w).1 = .ok (some event) → event.IsReply := by
  cases asked : de.asks with
  | none =>
      obtain ⟨calls, performed⟩ := dispatch_performed deps de w
      refine ⟨calls, performed.log, ?_, ?_⟩
      · rintro call member request answer rfl
        rcases performed.outcome.sends asked with ⟨mac, eap, _, -, rfl⟩ | silent
        · simp at member
        · cases silent _ member
      · intro event follow
        obtain ⟨mac, _, _, _, same, -⟩ := performed.outcome.followed follow
        rw [asked] at same
        cases same
  | some mac =>
      have carried : ∀ request, RequestOf deps.secret de.effect request → Carries body request := by
        intro request built
        obtain ⟨_, _, _, _, _, made⟩ :=
          built body (asks (DirectedEffect.isRequest_of_asks asked))
        exact accessRequestEap_carries made
      obtain ⟨calls, outcome, log⟩ := asked_dispatch deps asked w
      refine ⟨calls, log, ?_, ?_⟩
      · intro call member request answer same
        generalize (dispatch deps de w).1 = result at outcome
        cases outcome with
        | refused e => cases member
        | failed e made _ built untaken =>
            rw [List.mem_singleton.mp member] at same
            cases same
            exact carried _ built
        | answered made reply event built taken parsed =>
            rw [List.mem_singleton.mp member] at same
            cases same
            exact carried _ built
      · intro event follow
        generalize (dispatch deps de w).1 = result at outcome follow
        cases outcome with
        | answered made reply taken built _ parsed =>
            cases follow
            exact isReply_of_parseReply parsed
        | _ => cases follow

/-- **Every request made while a frame is dispatched carries its body.** -/
theorem carried_event [LawfulRadiusProto] [OrderedRadiusProto] (deps : Deps ω) (w : World ω)
    (mac : MacAddr) (eap : InboundEap) :
    CarriesSince eap.packet w.log (handleEvent deps mac (.eapFromSupplicant eap) w).2.log := by
  have keeps : (eventQueue deps).Keeps (fun _ _ _ => True)
      (fun queue w' => CarriesSince eap.packet w.log w'.log ∧
        ∀ task ∈ queue, LeadsTo eap.packet task.2)
      (fun _ rest queue w' => CarriesSince eap.packet w.log w'.log ∧
        (∀ task ∈ queue, LeadsTo eap.packet task.2) ∧
        ∀ de ∈ rest, de.effect.isRequest = true → de.effect = .toAuthServer eap.packet)
      (fun w' => CarriesSince eap.packet w.log w'.log) := by
    refine eventQueue_keeps ?_ ?_ ?_ ?_
    · rintro ⟨m, event⟩ queue w' ⟨carries, leads⟩
      have fed : ∀ call ∈ [Call.handled m event (w'.pae.handle m event).2], ∀ request answer,
          call = .accessRequest request answer → Carries eap.packet request := by
        simp
      refine ⟨carries.append fed, fun task member => leads task (List.mem_cons_of_mem _ member), ?_⟩
      intro de member isRequest
      rcases leads (m, event) List.mem_cons_self with reply | ⟨packet, same, body⟩
      · exact absurd reply (w'.pae.handle_unasked m event member isRequest)
      · have same : event = .eapFromSupplicant packet := same
        subst same
        rw [w'.pae.handle_relayed m packet member isRequest, body]
    · rintro task de rest queue w' follow ⟨carries, leads, requests⟩ done
      obtain ⟨calls, log, carried, replies⟩ :=
        carries_dispatch deps (requests de List.mem_cons_self) w'
      refine ⟨by rw [log]; exact carries.append carried, ?_,
        fun later member => requests later (List.mem_cons_of_mem _ member)⟩
      intro next member
      rcases List.mem_append.mp member with old | new
      · exact leads next old
      · cases follow with
        | none => cases new
        | some event =>
            rw [List.mem_singleton.mp new]
            exact Or.inl (replies event done)
    · rintro task de rest queue w' e ⟨carries, leads, requests⟩ - -
      obtain ⟨calls, log, carried, -⟩ := carries_dispatch deps (requests de List.mem_cons_self) w'
      rw [log]
      exact carries.append carried
    · rintro task queue w' ⟨carries, leads, -⟩
      exact ⟨carries, leads⟩
  have start : CarriesSince eap.packet w.log w.log := ⟨[], (List.append_nil _).symm, by simp⟩
  exact handleEvent_invariant keeps (fun _ _ held => held.1) (fun _ held => held)
    ⟨start, by simp [LeadsTo]⟩
    ((eventQueue deps).drainsWithin_of_forall _ (fun _ _ _ => trivial) 64 _ w)

end Inbound

/-! ## From the server -/

/-- The packet is still owed to the supplicant that is being served, or the next one sent is
that packet, to that supplicant, with nothing asked in between. -/
def Answered (owed : Option (MacAddr × Bytes)) (serving : Option MacAddr) (eap : Bytes)
    (after : List Entry) : Prop :=
  ∃ mac, serving = some mac ∧
    ((owed = some (mac, eap) ∧ ∀ entry ∈ after, entry.call.silent = true) ∨
      ∃ quiet answer rest, after = quiet ++ ⟨some mac, .sendEap mac eap answer⟩ :: rest ∧
        ∀ entry ∈ quiet, entry.call.silent = true)

/-- What has been sent stays sent. -/
theorem Answered.extend {serving : Option MacAddr} {eap : Bytes} {after : List Entry}
    (answered : Answered none serving eap after) (entry : Entry)
    (later : Option (MacAddr × Bytes)) : Answered later serving eap (after ++ [entry]) := by
  obtain ⟨mac, rfl, ⟨none, -⟩ | ⟨quiet, answer, rest, rfl, all⟩⟩ := answered
  · cases none
  · exact ⟨mac, rfl, Or.inr ⟨quiet, answer, rest ++ [entry], by simp, all⟩⟩

section Reading

variable [RadiusProto]

/-- A log in which every reply is passed on, read with the packet that is owed. -/
inductive Relayed (secret : Bytes) : List Entry → Option (MacAddr × Bytes) → Prop
  | nil : Relayed secret [] none
  | silent {log : List Entry} {owed : Option (MacAddr × Bytes)} (serving : Option MacAddr)
      (call : Call) (silent : call.silent = true) (before : Relayed secret log owed) :
      Relayed secret (log ++ [⟨serving, call⟩]) owed
  | failed {log : List Entry} (serving : Option MacAddr) (request : Packet)
      (answer : Except AuthdError Packet)
      (untaken : ∀ reply, answer = .ok reply → ¬ Taken secret request reply)
      (before : Relayed secret log none) :
      Relayed secret (log ++ [⟨serving, .accessRequest request answer⟩]) none
  | answered {log : List Entry} (mac : MacAddr) (request reply : Packet)
      (before : Relayed secret log none) :
      Relayed secret (log ++ [⟨some mac, .accessRequest request (.ok reply)⟩])
        ((nonEmpty (reassemble reply)).map fun eap => (mac, eap))
  | sent {log : List Entry} (serving : Option MacAddr) (mac : MacAddr) (eap : Bytes)
      (answer : Except AuthdError Unit) (before : Relayed secret log none) :
      Relayed secret (log ++ [⟨serving, .sendEap mac eap answer⟩]) none
  | passedOn {log : List Entry} (mac : MacAddr) (eap : Bytes) (answer : Except AuthdError Unit)
      (before : Relayed secret log (some (mac, eap))) :
      Relayed secret (log ++ [⟨some mac, .sendEap mac eap answer⟩]) none

namespace Relayed

variable {secret : Bytes} {log : List Entry} {owed : Option (MacAddr × Bytes)}

theorem silents {calls : List Call} (serving : Option MacAddr)
    (all : ∀ call ∈ calls, call.silent = true) (before : Relayed secret log owed) :
    Relayed secret (log ++ calls.map fun call => ⟨serving, call⟩) owed := by
  induction calls generalizing log with
  | nil => simpa using before
  | cons call rest ih =>
      have first := before.silent serving call (all call List.mem_cons_self)
      have later := ih (fun call member => all call (List.mem_cons_of_mem _ member)) first
      simpa using later

/-- **Every reply that is taken and brings EAP is answered.** -/
theorem answered_of_taken (relayed : Relayed secret log owed) {before after : List Entry}
    {serving : Option MacAddr} {request reply : Packet}
    (split : log = before ++ ⟨serving, .accessRequest request (.ok reply)⟩ :: after)
    (taken : Taken secret request reply) (brings : reassemble reply ≠ []) :
    Answered owed serving (reassemble reply) after := by
  induction relayed generalizing after with
  | nil => simp at split
  | silent other call silent _ ih =>
      rcases concat_eq_append_cons.mp split with ⟨-, same, -⟩ | ⟨earlier, rfl, rfl⟩
      · cases same
        cases silent
      · obtain ⟨mac, rfl, ⟨rfl, all⟩ | sent⟩ := ih rfl
        · refine ⟨mac, rfl, Or.inl ⟨rfl, ?_⟩⟩
          intro entry member
          rcases List.mem_append.mp member with old | new
          · exact all entry old
          · rw [List.mem_singleton.mp new]
            exact silent
        · exact Answered.extend ⟨mac, rfl, Or.inr sent⟩ _ _
  | failed other asked answer untaken _ ih =>
      rcases concat_eq_append_cons.mp split with ⟨-, same, -⟩ | ⟨earlier, rfl, rfl⟩
      · cases same
        exact absurd taken (untaken reply rfl)
      · exact (ih rfl).extend _ _
  | answered mac asked answer _ ih =>
      rcases concat_eq_append_cons.mp split with ⟨-, same, rfl⟩ | ⟨earlier, rfl, rfl⟩
      · cases same
        exact ⟨mac, rfl, Or.inl ⟨by simp [nonEmpty, brings], by simp⟩⟩
      · exact (ih rfl).extend _ _
  | sent other mac eap answer _ ih =>
      rcases concat_eq_append_cons.mp split with ⟨-, same, -⟩ | ⟨earlier, rfl, rfl⟩
      · cases same
      · exact (ih rfl).extend _ _
  | passedOn mac eap answer _ ih =>
      rcases concat_eq_append_cons.mp split with ⟨-, same, -⟩ | ⟨earlier, rfl, rfl⟩
      · cases same
      · obtain ⟨mac, rfl, ⟨due, all⟩ | sent⟩ := ih rfl
        · cases due
          exact ⟨_, rfl, Or.inr ⟨earlier, answer, [], rfl, all⟩⟩
        · exact Answered.extend ⟨mac, rfl, Or.inr sent⟩ _ _

end Relayed

end Reading

/-! ## The invariant of a run -/

/-- A reply leads to no further event, and any other event to one reply at most. -/
def taskWeight : MacAddr × Event → Nat
  | (_, .accessChallenge _) | (_, .accessAccept _ _) | (_, .accessReject _) => 1
  | _ => 2

def queueWeight (queue : List (MacAddr × Event)) : Nat := (queue.map taskWeight).sum

theorem taskWeight_bounds (task : MacAddr × Event) :
    1 ≤ taskWeight task ∧ taskWeight task ≤ 2 ∧ (task.2.IsReply ↔ taskWeight task = 1) := by
  obtain ⟨mac, event⟩ := task
  cases event <;> simp [taskWeight, Event.IsReply]

theorem queueWeight_cons (task : MacAddr × Event) (rest : List (MacAddr × Event)) :
    queueWeight (task :: rest) = taskWeight task + queueWeight rest := List.sum_cons

theorem queueWeight_pos (task : MacAddr × Event) (rest : List (MacAddr × Event)) :
    0 < queueWeight (task :: rest) := by
  have here := taskWeight_bounds task
  rw [queueWeight_cons]
  omega

theorem queueWeight_singleton (task : MacAddr × Event) : queueWeight [task] = taskWeight task := by
  rw [queueWeight_cons]
  rfl

section Invariant

variable {ω : Type} [RadiusProto] {deps : Deps ω}

/-- What is owed between two events. -/
inductive Awaits (p : PortPae) : Option (MacAddr × Bytes) → List (MacAddr × Event) → Prop
  | nil : Awaits p none []
  | fresh (mac : MacAddr) (event : Event) (own : event.serverEap = none) :
      Awaits p none [(mac, event)]
  | reply (mac : MacAddr) (event : Event) (waiting : p.Waiting mac) :
      Awaits p (event.serverEap.map fun eap => (mac, eap)) [(mac, event)]

/-- What is owed inside the effects of one event. -/
inductive Stage (p : PortPae) (task : MacAddr × Event) (rest : List DirectedEffect) :
    Option (MacAddr × Bytes) → List (MacAddr × Event) → Prop
  | asking (order : AsksThenArms rest)
      (waits : (∃ de ∈ rest, de.effect.isRequest = true) → p.Waiting task.1 ∧ ¬ task.2.IsReply) :
      Stage p task rest none []
  | awaiting (event : Event) (isReply : event.IsReply) (own : ¬ task.2.IsReply)
      (waiting : p.Waiting task.1) (arms : ∀ de ∈ rest, ∃ kind, de.effect = .armTimer kind) :
      Stage p task rest (event.serverEap.map fun eap => (task.1, eap)) [(task.1, event)]
  | passing (eap : Bytes) (passes : PassesOn task.1 eap rest) :
      Stage p task rest (some (task.1, eap)) []

/-- Between two events. -/
def Between.Relaying (deps : Deps ω) (queue : List (MacAddr × Event)) (w : World ω) : Prop :=
  (∃ P, PortInv w.pae P) ∧ ∃ owed, Relayed deps.secret w.log owed ∧ Awaits w.pae owed queue

/-- Between two calls, and after a failure. -/
def Settled (deps : Deps ω) (w : World ω) : Prop :=
  (∃ P, PortInv w.pae P) ∧ Relayed deps.secret w.log none

/-- Inside the effects of one event. -/
structure Relaying (deps : Deps ω) (task : MacAddr × Event) (rest : List DirectedEffect)
    (queue : List (MacAddr × Event)) (w : World ω) : Prop where
  port : ∃ P, PortInv w.pae P
  serving : w.serving = some task.1
  aimed : ∀ de ∈ rest, ∀ other, de.asks = some other → other = task.1 ∧ de.mac = some task.1
  stage : ∃ owed, Relayed deps.secret w.log owed ∧ Stage w.pae task rest owed queue

theorem Relaying.enter {task : MacAddr × Event} {queue : List (MacAddr × Event)} {w : World ω}
    (between : Between.Relaying deps (task :: queue) w) :
    Relaying deps task (feedPae task.1 task.2 w).1 queue (feedPae task.1 task.2 w).2 := by
  obtain ⟨⟨P, inv⟩, owed, relayed, awaits⟩ := between
  have fed : Relayed deps.secret (feedPae task.1 task.2 w).2.log owed :=
    relayed.silent (some task.1) _ rfl
  have order := w.pae.handle_order task.1 task.2
  have waits : (∃ de ∈ (w.pae.handle task.1 task.2).2, de.effect.isRequest = true) →
      (w.pae.handle task.1 task.2).1.Waiting task.1 ∧ ¬ task.2.IsReply := by
    rintro ⟨de, member, asks⟩
    exact ⟨PortPae.handle_waits inv task.1 task.2 ⟨de, member, asks⟩,
      w.pae.handle_unasked task.1 task.2 member asks⟩
  refine ⟨⟨_, PortPae.portInv_handle inv task.1 task.2⟩, rfl,
    fun de member other => w.pae.handle_asks task.1 task.2 member, ?_⟩
  cases awaits with
  | fresh mac event own => exact ⟨none, fed, .asking order waits⟩
  | reply mac event waiting =>
      cases brings : event.serverEap with
      | none =>
          rw [brings] at fed
          exact ⟨none, fed, .asking order waits⟩
      | some eap =>
          rw [brings] at fed
          exact ⟨_, fed, .passing eap (PortPae.handle_passesOn inv waiting brings)⟩

variable {task : MacAddr × Event} {de : DirectedEffect} {rest : List DirectedEffect}
variable {queue : List (MacAddr × Event)} {w w' : World ω}

/-- An effect that asks nothing, while nothing is owed. -/
theorem Relayed.unowed {calls : List Call} {result : Except AuthdError (Option Event)}
    (relayed : Relayed deps.secret w.log none) (quiet : de.asks = none)
    (performed : Performed deps w de (result, w') calls) :
    Relayed deps.secret w'.log none := by
  rw [performed.log]
  rcases performed.outcome.sends quiet with ⟨mac, eap, answer, -, rfl⟩ | silent
  · exact relayed.sent w.serving mac eap answer
  · exact relayed.silents w.serving silent

/-- What one effect owes the log and the effects behind it, whether or not it fails. -/
def Advances (deps : Deps ω) (task : MacAddr × Event) (de : DirectedEffect)
    (rest : List DirectedEffect) (queue : List (MacAddr × Event))
    (result : Except AuthdError (Option Event)) (w' : World ω) : Prop :=
  (∀ follow, result = .ok follow → ∃ owed, Relayed deps.secret w'.log owed ∧ Stage w'.pae task rest
    owed (queue ++ (follow.map fun event => (de.mac.getD task.1, event)).toList)) ∧
    ∀ e, result = .error e → Relayed deps.secret w'.log none

/-- Nothing is asked, and nothing is owed. -/
theorem advances_quiet {calls : List Call} {result : Except AuthdError (Option Event)}
    (performed : Performed deps w de (result, w') calls)
    (relayed : Relayed deps.secret w.log none) (quiet : de.asks = none) (order : AsksThenArms rest)
    (waits : (∃ de ∈ rest, de.effect.isRequest = true) → w'.pae.Waiting task.1 ∧ ¬ task.2.IsReply) :
    Advances deps task de rest [] result w' := by
  have later := relayed.unowed quiet performed
  refine ⟨?_, fun _ _ => later⟩
  rintro follow rfl
  cases follow with
  | none => exact ⟨none, later, .asking order waits⟩
  | some event =>
      obtain ⟨mac, _, _, _, known, -⟩ := performed.outcome.followed rfl
      rw [quiet] at known
      cases known

/-- The server is asked, and a reply that is taken is owed. -/
theorem advances_request [LawfulRadiusProto] {result : Except AuthdError (Option Event)}
    (ran : dispatch deps de w = (result, w')) (serving : w.serving = some task.1)
    (relayed : Relayed deps.secret w.log none) (asked : de.asks = some task.1)
    (directed : de.mac = some task.1) (waiting : w'.pae.Waiting task.1) (own : ¬ task.2.IsReply)
    (arms : ∀ later ∈ rest, ∃ kind, later.effect = .armTimer kind) :
    Advances deps task de rest [] result w' := by
  obtain ⟨calls, outcome, log⟩ := asked_dispatch deps asked w
  rw [ran] at outcome log
  rw [serving] at log
  unfold Advances
  rw [log]
  cases outcome with
  | refused e =>
      refine ⟨by simp, fun _ _ => ?_⟩
      simpa using relayed
  | failed e request answer built untaken =>
      refine ⟨by simp, fun _ _ => ?_⟩
      exact relayed.failed (some task.1) request answer untaken
  | answered request reply event built taken parsed =>
      refine ⟨?_, by simp⟩
      rintro follow ⟨⟩
      rw [Option.map_some, directed, Option.getD_some]
      have later := relayed.answered task.1 request reply
      rw [← serverEap_of_parseReply parsed] at later
      exact ⟨_, later, .awaiting event (isReply_of_parseReply parsed) own waiting arms⟩

/-- A timer is armed or cancelled while a packet may be owed. -/
theorem advances_timer {calls : List Call} {result : Except AuthdError (Option Event)}
    {owed : Option (MacAddr × Bytes)} (performed : Performed deps w de (result, w') calls)
    (relayed : Relayed deps.secret w.log owed)
    (timer : (∃ kind, de.effect = .armTimer kind) ∨ ∃ kind, de.effect = .cancelTimer kind)
    (stage : Stage w'.pae task rest owed queue) : Advances deps task de rest queue result w' := by
  have quiet : de.asks = none := by
    obtain ⟨target, effect⟩ := de
    rcases timer with ⟨kind, same⟩ | ⟨kind, same⟩ <;> cases same <;> cases target <;> rfl
  obtain rfl := performed.outcome.timers timer
  refine ⟨?_, by simp⟩
  rintro follow ⟨⟩
  rw [Option.map_none, Option.toList_none, List.append_nil, performed.log]
  refine ⟨owed, ?_, stage⟩
  rcases performed.outcome.sends quiet with ⟨mac, eap, answer, rfl, -⟩ | silent
  · rcases timer with ⟨kind, same⟩ | ⟨kind, same⟩ <;> cases same
  · exact relayed.silents w.serving silent

/-- The packet that is owed is sent, and nothing that is left asks. -/
theorem advances_send {calls : List Call} {result : Except AuthdError (Option Event)} {eap : Bytes}
    (performed : Performed deps w ⟨some task.1, .txEapToSupplicant eap⟩ (result, w') calls)
    (serving : w.serving = some task.1) (relayed : Relayed deps.secret w.log (some (task.1, eap)))
    (quiet : ∀ later ∈ rest, later.effect.isRequest = false) :
    Advances deps task ⟨some task.1, .txEapToSupplicant eap⟩ rest [] result w' := by
  obtain ⟨answer, rfl⟩ := performed.outcome.sends_eap rfl
  have sent : Relayed deps.secret w'.log none := by
    rw [performed.log, serving]
    exact relayed.passedOn task.1 eap answer
  refine ⟨?_, fun _ _ => sent⟩
  rintro follow rfl
  cases follow with
  | some event =>
      obtain ⟨_, _, _, _, known, -⟩ := performed.outcome.followed rfl
      cases known
  | none =>
      refine ⟨none, sent, .asking (asksThenArms_of_quiet quiet) ?_⟩
      rintro ⟨next, member, asks⟩
      rw [quiet next member] at asks
      cases asks

/-- **The step lemma**, stage by stage. -/
theorem Relaying.advances [LawfulRadiusProto] {result : Except AuthdError (Option Event)}
    (relaying : Relaying deps task (de :: rest) queue w)
    (ran : dispatch deps de w = (result, w')) : Advances deps task de rest queue result w' := by
  obtain ⟨-, serving, aimed, owed, relayed, stage⟩ := relaying
  obtain ⟨calls, performed⟩ := dispatch_performed deps de w
  rw [ran] at performed
  have same : w'.pae = w.pae := performed.pae
  rw [← same] at stage
  cases stage with
  | asking order waits =>
      cases asked : de.asks with
      | none =>
          refine advances_quiet performed relayed asked order.2 ?_
          rintro ⟨next, member, asks⟩
          exact waits ⟨next, List.mem_cons_of_mem _ member, asks⟩
      | some mac =>
          have asks := DirectedEffect.isRequest_of_asks asked
          obtain ⟨rfl, directed⟩ := aimed de List.mem_cons_self mac asked
          obtain ⟨waiting, own⟩ := waits ⟨de, List.mem_cons_self, asks⟩
          exact advances_request ran serving relayed asked directed waiting own (order.1 asks)
  | awaiting event isReply own waiting arms =>
      refine advances_timer performed relayed (Or.inl (arms de List.mem_cons_self)) ?_
      exact .awaiting event isReply own waiting fun later member =>
        arms later (List.mem_cons_of_mem _ member)
  | passing eap passes =>
      rcases passes with ⟨rfl, quiet⟩ | ⟨⟨kind, rfl⟩, later⟩
      · exact advances_send performed serving relayed quiet
      · exact advances_timer performed relayed (Or.inr ⟨kind, rfl⟩) (.passing eap later)

theorem Relaying.act [LawfulRadiusProto] {result : Except AuthdError (Option Event)}
    (relaying : Relaying deps task (de :: rest) queue w)
    (ran : dispatch deps de w = (result, w')) :
    (∀ follow, result = .ok follow → Relaying deps task rest
      (queue ++ (follow.map fun event => (de.mac.getD task.1, event)).toList) w') ∧
      ∀ e, result = .error e → Settled deps w' := by
  obtain ⟨done, failed⟩ := relaying.advances ran
  obtain ⟨port, serving, aimed, -⟩ := relaying
  obtain ⟨calls, performed⟩ := dispatch_performed deps de w
  rw [ran] at performed
  have same : w'.pae = w.pae := performed.pae
  rw [← same] at port
  exact ⟨fun follow ok => ⟨port, performed.serving.trans serving,
    fun later member => aimed later (List.mem_cons_of_mem de member), done follow ok⟩,
    fun e error => ⟨port, failed e error⟩⟩

theorem keeps_relaying [LawfulRadiusProto] (deps : Deps ω) :
    (eventQueue deps).Keeps (fun _ _ _ => True) (Between.Relaying deps) (Relaying deps)
      (Settled deps) := by
  refine eventQueue_keeps (fun _ _ _ between => .enter between) ?_ ?_ ?_
  · intro task de rest queue w follow relaying done
    exact (relaying.act (Prod.ext done rfl)).1 follow rfl
  · intro task de rest queue w e relaying failed _
    exact (relaying.act (Prod.ext failed rfl)).2 e rfl
  · intro task queue w relaying
    obtain ⟨port, -, -, owed, relayed, stage⟩ := relaying
    refine ⟨port, owed, relayed, ?_⟩
    cases stage with
    | asking => exact .nil
    | awaiting event isReply own waiting arms => exact .reply _ event waiting
    | passing eap passes => cases passes

theorem queueWeight_falls (task : MacAddr × Event) (rest queue : List (MacAddr × Event))
    (w : World ω) (relaying : Relaying deps task [] queue w) :
    queueWeight queue < queueWeight (task :: rest) := by
  have here := taskWeight_bounds task
  have most := queueWeight_cons task rest
  obtain ⟨-, -, -, owed, -, stage⟩ := relaying
  cases stage with
  | asking =>
      have none : queueWeight [] = 0 := rfl
      omega
  | awaiting event isReply own waiting arms =>
      have follow := (taskWeight_bounds (task.1, event)).2.2.mp isReply
      have one := queueWeight_singleton (task.1, event)
      have two : taskWeight task ≠ 1 := fun same => own (here.2.2.mpr same)
      omega
  | passing eap passes => cases passes

/-- The log of every run is one in which every reply is passed on. -/
theorem relayed_serve [LawfulRadiusProto] (deps : Deps ω) (port : String)
    (ctxTemplate : RequestContext) (cfg : PaeConfig) (env : ω)
    {inputs : List (MacAddr × Event)} (fed : ∀ input ∈ inputs, DaemonEvent input.2) :
    Relayed deps.secret (serve deps (.start port ctxTemplate cfg env) inputs).log none := by
  have enough : ∀ mac event, queueWeight [(mac, event)] ≤ 64 := by
    intro mac event
    have here := taskWeight_bounds (mac, event)
    have one := queueWeight_singleton (mac, event)
    omega
  have enters : ∀ mac event (w : World ω), DaemonEvent event → Settled deps w →
      Between.Relaying deps [(mac, event)] w := by
    rintro mac event w daemon ⟨port, relayed⟩
    have own : event.serverEap = none := by
      cases event <;> first | rfl | cases daemon
    exact ⟨port, none, relayed, .fresh mac event own⟩
  have settles : ∀ w : World ω, Between.Relaying deps [] w → Settled deps w := by
    rintro w ⟨port, owed, relayed, awaits⟩
    cases awaits
    exact ⟨port, relayed⟩
  have start : Settled deps (.start port ctxTemplate cfg env) := ⟨⟨_, .new cfg⟩, .nil⟩
  exact (serve_settled_invariant (keeps_relaying deps) queueWeight_pos queueWeight_falls enough enters
    settles (fun _ held => held) start fed
    (servesWithin_of_forall deps (fun _ _ _ => trivial) _ _)).2

end Invariant

/-! ## The main result -/

section Main

variable {ω : Type}

/-- The frame that is read back as this packet is what the socket is given for it; a packet
too long for a frame is not sent. -/
def FramedAs (deps : Deps ω) (send : Bytes → Prog AuthdError ω Unit) (src mac : MacAddr)
    (eap : Bytes) : Prop :=
  (eap.length ≤ 65535 → ∃ frame, (∀ env, deps.sendEap mac eap env = send frame env) ∧
    decodeFrame frame = .ok ⟨⟨mac, src, ethertypeEapol⟩, EapolPdu.new .eap eap⟩) ∧
  (65535 < eap.length → ∀ env, deps.sendEap mac eap env = (.error .frame, env))

/-- What the log holds behind a reply that brings `eap`: the supplicant whose request it
answers is sent that packet, framed, and until then nothing is sent and nothing is asked. -/
def PassedOn (deps : Deps ω) (send : Bytes → Prog AuthdError ω Unit) (src : MacAddr)
    (serving : Option MacAddr) (eap : Bytes) (after : List Entry) : Prop :=
  ∃ mac quiet answer rest, serving = some mac ∧
    after = quiet ++ ⟨some mac, .sendEap mac eap answer⟩ :: rest ∧
    (∀ entry ∈ quiet, entry.call.silent = true) ∧ FramedAs deps send src mac eap

variable {deps : Deps ω} {send : Bytes → Prog AuthdError ω Unit} {src : MacAddr}

theorem framedAs (framed : deps.sendEap = eapolSupplicant send src) (mac : MacAddr) (eap : Bytes) :
    FramedAs deps send src mac eap := by
  rw [FramedAs, framed]
  exact ⟨eapolSupplicant_sends send src mac eap, eapolSupplicant_refuses send src mac eap⟩

/-- Dispatching a frame with an EAP packet makes no request but one that carries its body. -/
theorem carried_frame [RadiusProto] [LawfulRadiusProto] [OrderedRadiusProto] (deps : Deps ω) {bytes : Bytes}
    {frame : EapolFrame} {eap : EapPacket} (decoded : decodeFrame bytes = .ok frame)
    (isEap : frame.pdu.packetType = .eap) (wellFormed : EapPacket.decode frame.pdu.body = .ok eap)
    (w : World ω) : CarriesSince frame.pdu.body w.log (dispatchFrame deps bytes w).2.log := by
  rw [dispatchFrame, frameEvent_eap decoded isEap wellFormed]
  exact carried_event deps w frame.ethernet.src ⟨eap.code, eap.identifier, eap.eapType, frame.pdu.body⟩

/-- **EAP is relayed byte for byte.**  Every Access-Request made while a frame with an EAP
packet is dispatched carries the EAPOL body of that frame, in attributes of 1 to 253 octets.
In every run, every reply that is taken and brings EAP is followed by the packet it brings,
sent to the supplicant whose request it answers in a frame that is read back as that packet. -/
theorem relayed_verbatim [RadiusProto] [LawfulRadiusProto] [OrderedRadiusProto] (deps : Deps ω)
    (send : Bytes → Prog AuthdError ω Unit) (src : MacAddr)
    (framed : deps.sendEap = eapolSupplicant send src) :
    (∀ bytes frame eap (w : World ω), decodeFrame bytes = .ok frame →
      frame.pdu.packetType = .eap → EapPacket.decode frame.pdu.body = .ok eap →
      CarriesSince frame.pdu.body w.log (dispatchFrame deps bytes w).2.log) ∧
    ∀ port ctxTemplate cfg env inputs, (∀ input ∈ inputs, DaemonEvent input.2) →
      ∀ before serving request reply after,
        (serve deps (.start port ctxTemplate cfg env) inputs).log =
          before ++ ⟨serving, .accessRequest request (.ok reply)⟩ :: after →
        Taken deps.secret request reply → reassemble reply ≠ [] →
        PassedOn deps send src serving (reassemble reply) after := by
  refine ⟨fun bytes frame eap w decoded isEap wellFormed =>
    carried_frame deps decoded isEap wellFormed w, ?_⟩
  intro port ctxTemplate cfg env inputs fed before serving request reply after split taken brings
  have relayed := relayed_serve deps port ctxTemplate cfg env fed
  obtain ⟨mac, serves, ⟨owed, -⟩ | ⟨quiet, answer, rest, sent, silent⟩⟩ :=
    relayed.answered_of_taken split taken brings
  · cases owed
  · exact ⟨mac, quiet, answer, rest, serves, sent, silent, framedAs framed mac _⟩

end Main

section Witness

/-- The Message-Authenticator of the request that carries `identityResponse`. -/
def identityDigest : Auth16 :=
  #v[131, 30, 59, 62, 189, 81, 131, 197, 63, 202, 248, 174, 45, 64, 216, 122]

/-- The Message-Authenticator of `challenge`. -/
def challengeDigest : Auth16 :=
  #v[161, 162, 190, 94, 235, 150, 102, 229, 239, 37, 61, 146, 41, 54, 208, 222]

/-- The Response Authenticator of `challenge`. -/
def challengeAuthenticator : Auth16 :=
  #v[34, 163, 231, 253, 84, 14, 165, 92, 145, 127, 80, 152, 153, 195, 180, 175]

/-- The digests of the request and of its challenge. -/
def exchangeDigests : Digests where
  digest _ := challengeAuthenticator
  keyed _ octets :=
    match octets with
    | 1 :: _ => identityDigest
    | _ => challengeDigest

@[reducible] def exchangeProto : RadiusProto := codec exchangeDigests

attribute [local instance] exchangeProto

/-- EAP-Response/Identity of `alice`. -/
def identityResponse : Bytes := [2, 1, 0, 10, 1, 0x61, 0x6c, 0x69, 0x63, 0x65]

/-- The same in a frame, padded to 60 octets. -/
def identityFrame : Bytes :=
  [0x01, 0x80, 0xc2, 0x00, 0x00, 0x03] ++ Site.station.toList ++ [0x88, 0x8e, 3, 0, 0, 10] ++
    identityResponse ++ List.replicate 32 0

/-- A challenge that brings an EAP-Request of six octets in two attributes. -/
def challenge : Packet where
  code := .accessChallenge
  identifier := 0
  authenticator := challengeAuthenticator
  attributes := [⟨AttributeType.eapMessage, [1, 2, 0, 6]⟩, ⟨AttributeType.eapMessage, [13, 0x20]⟩,
    ⟨AttributeType.state, [0x73, 0x31]⟩,
    ⟨AttributeType.messageAuthenticator, challengeDigest.toList⟩]

/-- The site, with its supplicants behind a socket. -/
def socketDeps : Deps Site.Script :=
  { Site.deps with sendEap := eapolSupplicant (fun _ => pure ()) Site.context.calledStation }

/-- The event of `identityFrame`. -/
def identityInput : MacAddr × Event :=
  (Site.station, .eapFromSupplicant ⟨.response, 1, some .identity, identityResponse⟩)

def exchangeStart : World Site.Script := Site.start ⟨[.ok challenge], []⟩

/-- The request that carries `identityResponse`. -/
def identityRequest : Packet where
  code := .accessRequest
  identifier := 0
  authenticator := (Site.deps.generateRequestAuthenticator ⟨[], []⟩).1
  attributes := [⟨AttributeType.userName, utf8 "alice"⟩, ⟨AttributeType.serviceType, [0, 0, 0, 2]⟩,
    ⟨AttributeType.nasIdentifier, utf8 "leaf1"⟩, ⟨AttributeType.nasPortId, utf8 "Ethernet4"⟩,
    ⟨AttributeType.nasPortType, [0, 0, 0, 15]⟩,
    ⟨AttributeType.callingStationId, utf8 "00-1A-2B-3C-4D-5E"⟩,
    ⟨AttributeType.calledStationId, utf8 "02-00-00-00-00-01"⟩,
    ⟨AttributeType.eapMessage, identityResponse⟩,
    ⟨AttributeType.messageAuthenticator, identityDigest.toList⟩]

/-- The frame of `alice` is carried to the server, and the challenge back to `alice`. -/
theorem relayed_verbatim_exchange :
    ⟨some Site.station, .accessRequest identityRequest (.ok challenge)⟩ ∈
      (dispatchFrame socketDeps identityFrame exchangeStart).2.log ∧
    CarriesSince identityResponse [] (dispatchFrame socketDeps identityFrame exchangeStart).2.log ∧
    PassedOn socketDeps (fun _ => pure ()) Site.context.calledStation (some Site.station)
      [1, 2, 0, 6, 13, 0x20] ((serve socketDeps exchangeStart [identityInput]).log.drop 6) := by
  have lawful : LawfulRadiusProto := codec_lawful exchangeDigests
  have ordered : OrderedRadiusProto := codec_ordered exchangeDigests
  obtain ⟨inbound, outbound⟩ := relayed_verbatim socketDeps (fun _ => pure ())
    Site.context.calledStation rfl
  refine ⟨by decide +kernel, ?_, ?_⟩
  · exact inbound identityFrame
      ⟨⟨#v[0x01, 0x80, 0xc2, 0x00, 0x00, 0x03], Site.station, ethertypeEapol⟩,
        ⟨3, .eap, identityResponse⟩⟩
      ⟨.response, 1, some .identity, utf8 "alice"⟩ exchangeStart (by decide +kernel) rfl
      (by decide +kernel)
  · exact outbound "Ethernet4" Site.context Site.config ⟨[.ok challenge], []⟩ [identityInput]
      (by simp [identityInput, DaemonEvent])
      ((serve socketDeps exchangeStart [identityInput]).log.take 5) _ identityRequest challenge _
      (by decide +kernel)
      ⟨rfl, by decide +kernel, .accessChallenge [1, 2, 0, 6, 13, 0x20], by decide +kernel⟩
      (by decide +kernel)

end Witness

end Authenticator.Authd
