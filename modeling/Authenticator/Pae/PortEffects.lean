/-
# Pae.PortEffects -- what one call to the port asks for and grants

At most one effect of a call bears a request, a reply never leads to another request,
no command follows a request in the list, and nothing but an Access-Accept or a CoA
grants.  The facts are proved of a session step, by cases on `Transition`, and carried
to `PortPae.handle`.
-/
import Authenticator.Pae.SessionPosture
import Authenticator.Pae.Port

namespace Authenticator.Pae

set_option autoImplicit false

open Authenticator.Pacp

/-- The authorization an effect grants. -/
def Effect.grant : Effect → Option Authorization
  | .setAuthorization (.authorized a) => some a
  | _ => none

/-- The effects that perform a RADIUS round-trip. -/
def Effect.isRequest : Effect → Bool
  | .toAuthServer _ | .startMab _ => true
  | _ => false

/-- A request is no grant, and no command. -/
theorem Effect.quiet_of_isRequest {effect : Effect} (asks : effect.isRequest = true) :
    effect.grant = none ∧ effect.isSetAuthorization = false := by
  cases effect <;> first | exact ⟨rfl, rfl⟩ | cases asks

/-- A grant is a command. -/
theorem Effect.isSetAuthorization_of_grant {effect : Effect} {a : Authorization}
    (granted : effect.grant = some a) : effect.isSetAuthorization = true := by
  cases effect <;> first | rfl | cases granted

/-- No command stands behind a request. -/
def RequestsLast : List Effect → Prop
  | [] => True
  | effect :: rest =>
      (effect.isRequest = true → ∀ later ∈ rest, later.isSetAuthorization = false) ∧
        RequestsLast rest

/-- What the effects of one event are, for the session of `mac`. -/
structure Outputs (mac : MacAddr) (event : Event) (fx : List Effect) : Prop where
  grants : fx.filterMap Effect.grant = [] ∨
    ∃ a, fx.filterMap Effect.grant = [a] ∧
      ((∃ eap, event = .accessAccept a eap) ∨ event = .coaAuthorize a)
  requests : fx.filter Effect.isRequest = [] ∨
    ∃ request, fx.filter Effect.isRequest = [request] ∧ ¬ event.IsReply
  own : ∀ other, .startMab other ∈ fx → other = mac
  last : RequestsLast fx

theorem requestsLast_append {first second : List Effect}
    (quiet : first.filter Effect.isRequest = []) (later : RequestsLast second) :
    RequestsLast (first ++ second) := by
  induction first with
  | nil => exact later
  | cons effect rest ih =>
      have calm := List.filter_eq_nil_iff.mp quiet
      refine ⟨fun asks => absurd asks (calm effect List.mem_cons_self), ih ?_⟩
      rw [List.filter_eq_nil_iff]
      exact fun later member => calm later (List.mem_cons_of_mem _ member)

theorem requestsLast_of_quiet {fx : List Effect} (quiet : fx.filter Effect.isRequest = []) :
    RequestsLast fx := by
  have done : RequestsLast [] := trivial
  simpa using requestsLast_append quiet done

theorem startMab_of_mem {fx : List Effect} (quiet : fx.filter Effect.isRequest = [])
    (mac : MacAddr) : .startMab mac ∉ fx := by
  intro member
  exact List.filter_eq_nil_iff.mp quiet _ member rfl

/-- Effects that neither grant nor ask. -/
theorem Outputs.quiet {mac : MacAddr} {event : Event} {fx : List Effect}
    (grants : fx.filterMap Effect.grant = []) (requests : fx.filter Effect.isRequest = []) :
    Outputs mac event fx := by
  refine ⟨Or.inl grants, Or.inl requests, ?_, ?_⟩
  · intro other member
    exact absurd member (startMab_of_mem requests other)
  · exact requestsLast_of_quiet requests

@[simp] theorem filterMap_grant_relay (eap : Option Bytes) :
    (relay eap).filterMap Effect.grant = [] := by cases eap <;> rfl

@[simp] theorem filter_isRequest_relay (eap : Option Bytes) :
    (relay eap).filter Effect.isRequest = [] := by cases eap <;> rfl

theorem teardown_quiet (s : PortSession) (cause : TerminateCause) :
    (s.teardown cause).2.filterMap Effect.grant = [] ∧
      (s.teardown cause).2.filter Effect.isRequest = [] := by
  by_cases fresh : s.state = .new
  · simp [PortSession.teardown, fresh]
  · rw [(s.teardown_live cause fresh).2]
    cases s.accountingOpen <;> simp [Effect.grant, Effect.isRequest]

/-- A grant asks nothing. -/
theorem authorize_quiet (s : PortSession) (a : Authorization) (eap : Option Bytes)
    (cfg : PaeConfig) : (s.authorize a eap cfg).2.filter Effect.isRequest = [] := by
  have quiet := filter_isRequest_relay eap
  unfold relay at quiet
  simp only [PortSession.authorize, List.filter_append, quiet]
  split <;> split <;> split <;> rfl

/-- The request an event can lead to: the packet of a supplicant is relayed as it is, and
an expired prompt is bypassed. -/
inductive Event.Asks (mac : MacAddr) : Event → Effect → Prop
  | relay (eap : InboundEap) : Asks mac (.eapFromSupplicant eap) (.toAuthServer eap.packet)
  | bypass : Asks mac (.timer .txPeriod) (.startMab mac)

theorem Event.Asks.isRequest {mac : MacAddr} {event : Event} {request : Effect}
    (asks : event.Asks mac request) : request.isRequest = true := by
  cases asks <;> rfl

/-- What a transition asks the server: it ignores the event, or asks nothing and does not
end up waiting, or asks once and waits. -/
theorem Transition.asks {cfg : PaeConfig} {s s' : PortSession} {event : Event} {fx : List Effect}
    (moved : Transition cfg s event s' fx) :
    (s' = s ∧ fx = []) ∨ (fx.filter Effect.isRequest = [] ∧ s'.state ≠ .authServer) ∨
      ∃ kind request, event.Asks s.mac request ∧ s.state ≠ .authServer ∧ s'.state = .authServer ∧
        fx = [.cancelTimer kind, request, .armTimer .serverTimeout] := by
  cases moved with
  | ignored => exact Or.inl ⟨rfl, rfl⟩
  | enabled => exact Or.inr (Or.inl ⟨rfl, by simp [PortSession.enable, PortSession.after,
      PortSession.sendIdentity]⟩)
  | solicited _ count cancel idle free cancels silent =>
      refine Or.inr (Or.inl ⟨?_, by simp⟩)
      rcases cancels with rfl | ⟨kind, -, rfl⟩ <;> rfl
  | relayed eap kind auth waiting soliciting =>
      refine Or.inr (Or.inr ⟨kind, .toAuthServer eap.packet, .relay eap, ?_, rfl, rfl⟩)
      rcases soliciting with state | state <;> simp [state]
  | bypassed soliciting closed =>
      exact Or.inr (Or.inr ⟨.txPeriod, .startMab s.mac, .bypass, by simp [soliciting], rfl, rfl⟩)
  | challenged => exact Or.inr (Or.inl ⟨rfl, by simp⟩)
  | authorized a eap asked =>
      exact Or.inr (Or.inl ⟨authorize_quiet s a eap cfg, by simp [PortSession.authorize]⟩)
  | survived _ asked opened silent =>
      refine Or.inr (Or.inl ⟨?_, by simp⟩)
      cases cfg.reauthEnabled <;> rfl
  | fellBack _ reason vlan eap live closed configured silent =>
      refine Or.inr (Or.inl ⟨?_, by simp⟩)
      simp only [List.filter_append, filter_isRequest_relay]
      split <;> rfl
  | held _ eap live closed silent =>
      refine Or.inr (Or.inl ⟨?_, by simp⟩)
      simp only [List.filter_append, filter_isRequest_relay]
      rfl
  | coaAuthorized a running => exact Or.inr (Or.inl ⟨rfl, by simp [running]⟩)
  | tornDown _ cause eap live silent =>
      refine Or.inr (Or.inl ⟨?_, by simp [(s.teardown_live cause live).1]⟩)
      simp [(teardown_quiet s cause).2]
  | expired running =>
      refine Or.inr (Or.inl ⟨?_, by simp⟩)
      simp [(teardown_quiet s .sessionTimeout).2, Effect.isRequest]

/-- A transition that does not end up waiting asks nothing. -/
theorem Transition.quiet_of_idle {cfg : PaeConfig} {s s' : PortSession} {event : Event}
    {fx : List Effect} (moved : Transition cfg s event s' fx) (idle : s'.state ≠ .authServer) :
    fx.filter Effect.isRequest = [] := by
  rcases moved.asks with ⟨-, rfl⟩ | ⟨quiet, -⟩ | ⟨_, _, _, -, waiting, -⟩
  · rfl
  · exact quiet
  · exact absurd waiting idle

/-- A transition grants what its event brings, once at most, and only to a session that it
leaves authenticated. -/
theorem Transition.granted {cfg : PaeConfig} {s s' : PortSession} {event : Event} {fx : List Effect}
    (moved : Transition cfg s event s' fx) :
    fx.filterMap Effect.grant = [] ∨
      ∃ a, fx.filterMap Effect.grant = [a] ∧ s'.state = .authenticated ∧
        ((∃ eap, event = .accessAccept a eap) ∨ event = .coaAuthorize a) := by
  cases moved with
  | ignored | enabled | relayed | bypassed | challenged => exact Or.inl rfl
  | solicited _ count cancel idle free cancels silent =>
      rcases cancels with rfl | ⟨kind, -, rfl⟩ <;> exact Or.inl rfl
  | authorized a eap asked =>
      have quiet := filterMap_grant_relay eap
      unfold relay at quiet
      refine Or.inr ⟨a, ?_, rfl, Or.inl ⟨eap, rfl⟩⟩
      simp only [PortSession.authorize, List.filterMap_append, quiet]
      split <;> split <;> split <;> rfl
  | survived _ asked opened silent =>
      refine Or.inl ?_
      cases cfg.reauthEnabled <;> rfl
  | fellBack _ reason vlan eap live closed configured silent =>
      refine Or.inl ?_
      simp only [List.filterMap_append, filterMap_grant_relay]
      split <;> rfl
  | held _ eap live closed silent =>
      refine Or.inl ?_
      simp only [List.filterMap_append, filterMap_grant_relay]
      rfl
  | coaAuthorized a running => exact Or.inr ⟨a, rfl, running, Or.inr rfl⟩
  | tornDown _ cause eap live silent =>
      refine Or.inl ?_
      simp [(teardown_quiet s cause).1]
  | expired running =>
      refine Or.inl ?_
      simp [(teardown_quiet s .sessionTimeout).1, Effect.grant]

theorem Transition.grants {cfg : PaeConfig} {s s' : PortSession} {event : Event} {fx : List Effect}
    (moved : Transition cfg s event s' fx) :
    fx.filterMap Effect.grant = [] ∨
      ∃ a, fx.filterMap Effect.grant = [a] ∧
        ((∃ eap, event = .accessAccept a eap) ∨ event = .coaAuthorize a) := by
  rcases moved.granted with none | ⟨a, once, -, source⟩
  · exact Or.inl none
  · exact Or.inr ⟨a, once, source⟩

/-- A step that grants leaves its session authenticated. -/
theorem PortSession.step_granted (cfg : PaeConfig) (s : PortSession) (event : Event)
    {effect : Effect} {a : Authorization} (member : effect ∈ (s.step event cfg).2)
    (grants : effect.grant = some a) : (s.step event cfg).1.state = .authenticated := by
  rcases (step_transition cfg s event).granted with none | ⟨_, -, running, -⟩
  · have given : a ∈ (s.step event cfg).2.filterMap Effect.grant :=
      List.mem_filterMap.mpr ⟨effect, member, grants⟩
    rw [none] at given
    cases given
  · exact running

/-- A request on its own, between its two timers. -/
theorem Event.Asks.outputs {mac : MacAddr} {event : Event} {request : Effect} {kind : TimerKind}
    (asks : event.Asks mac request) :
    Outputs mac event [.cancelTimer kind, request, .armTimer .serverTimeout] := by
  cases asks with
  | relay eap =>
      refine ⟨Or.inl rfl, Or.inr ⟨_, rfl, not_false⟩, by simp, ?_⟩
      simp [RequestsLast, Effect.isRequest, Effect.isSetAuthorization]
  | bypass =>
      refine ⟨Or.inl rfl, Or.inr ⟨_, rfl, not_false⟩, by simp, ?_⟩
      simp [RequestsLast, Effect.isRequest, Effect.isSetAuthorization]

/-- **What a session step emits.** -/
theorem PortSession.step_outputs (cfg : PaeConfig) (s : PortSession) (event : Event) :
    Outputs s.mac event (s.step event cfg).2 := by
  have moved := step_transition cfg s event
  rcases moved.asks with ⟨-, none⟩ | ⟨requests, -⟩ | ⟨kind, request, asks, -, -, effects⟩
  · rw [none]
    exact .quiet rfl rfl
  · refine ⟨moved.grants, Or.inl requests, ?_, requestsLast_of_quiet requests⟩
    intro other member
    exact absurd member (startMab_of_mem requests other)
  · rw [effects]
    exact asks.outputs

/-- What an admission emits. -/
theorem admitted_outputs (cfg : PaeConfig) (mac : MacAddr) (event : Event) :
    Outputs mac event (admitted cfg mac event).2 := by
  unfold admitted
  split
  · exact .quiet rfl rfl
  · have stepped := PortSession.step_outputs cfg ((PortSession.new mac).step .enable cfg).1 event
    have own : ((PortSession.new mac).step .enable cfg).1.mac = mac := by simp [PortSession.new]
    rw [own] at stepped
    have opening : ∀ fx : List Effect, (((PortSession.new mac).step .enable cfg).2 ++ fx).filterMap
        Effect.grant = fx.filterMap Effect.grant := fun _ => rfl
    have asking : ∀ fx : List Effect, (((PortSession.new mac).step .enable cfg).2 ++ fx).filter
        Effect.isRequest = fx.filter Effect.isRequest := fun _ => rfl
    refine ⟨?_, ?_, ?_, ?_⟩
    · rw [opening]
      exact stepped.grants
    · rw [asking]
      exact stepped.requests
    · intro other member
      rcases List.mem_append.mp member with first | second
      · exact absurd first (startMab_of_mem rfl other)
      · exact stepped.own other second
    · exact requestsLast_append rfl stepped.last

/-- **What a call to the port emits**, directed at its MAC or at the whole port. -/
theorem PortPae.handle_outputs (p : PortPae) (mac : MacAddr) (event : Event) :
    Outputs mac event ((p.handle mac event).2.map DirectedEffect.effect) := by
  have bare : ∀ fx, (decorate p.cfg.hostMode mac fx).map DirectedEffect.effect = fx := by
    intro fx
    simp [decorate, Function.comp_def]
  obtain ⟨before, s, later, -, rfl, same⟩ | ⟨-, -, same⟩ | ⟨-, -, same⟩ := p.handle_cases mac event
  · rw [same, bare]
    exact s.step_outputs p.cfg event
  · rw [same, bare]
    exact admitted_outputs p.cfg mac event
  · rw [same]
    exact .quiet rfl rfl

/-- A request of a session step is the one its event leads to. -/
theorem PortSession.step_request (cfg : PaeConfig) (s : PortSession) (event : Event)
    {request : Effect} (member : request ∈ (s.step event cfg).2)
    (isRequest : request.isRequest = true) : event.Asks s.mac request := by
  rcases (step_transition cfg s event).asks with
    ⟨-, none⟩ | ⟨quiet, -⟩ | ⟨kind, asked, asks, -, -, effects⟩
  · rw [none] at member
    cases member
  · exact absurd isRequest (List.filter_eq_nil_iff.mp quiet request member)
  · rw [effects] at member
    simp only [List.mem_cons, List.not_mem_nil, or_false] at member
    rcases member with rfl | rfl | rfl
    · cases isRequest
    · exact asks
    · cases isRequest

/-- **A request of a call is the one its event leads to.** -/
theorem PortPae.handle_request (p : PortPae) (mac : MacAddr) (event : Event) {de : DirectedEffect}
    (member : de ∈ (p.handle mac event).2) (isRequest : de.effect.isRequest = true) :
    event.Asks mac de.effect := by
  obtain ⟨before, s, later, -, rfl, same⟩ | ⟨-, -, same⟩ | ⟨-, -, same⟩ := p.handle_cases mac event
  · rw [same] at member
    obtain ⟨effect, inside, rfl⟩ := List.mem_map.mp member
    exact s.step_request p.cfg event inside isRequest
  · rw [same] at member
    obtain ⟨effect, inside, rfl⟩ := List.mem_map.mp member
    unfold admitted at inside
    have opening : effect ∉ ((PortSession.new mac).step .enable p.cfg).2 := by
      intro opened
      have quiet : ((PortSession.new mac).step .enable p.cfg).2.filter Effect.isRequest = [] := rfl
      exact List.filter_eq_nil_iff.mp quiet effect opened isRequest
    split at inside
    · exact absurd inside opening
    · rcases List.mem_append.mp inside with first | second
      · exact absurd first opening
      · have asks := PortSession.step_request p.cfg _ event second isRequest
        rwa [PortSession.step_mac] at asks
  · rw [same] at member
    cases member

/-- **A reply leads to no request.** -/
theorem PortPae.handle_unasked (p : PortPae) (mac : MacAddr) (event : Event) {de : DirectedEffect}
    (member : de ∈ (p.handle mac event).2) (isRequest : de.effect.isRequest = true) :
    ¬ event.IsReply := by
  rcases (p.handle_outputs mac event).requests with none | ⟨request, -, silent⟩
  · exact absurd isRequest (List.filter_eq_nil_iff.mp none _ (List.mem_map_of_mem member))
  · exact silent

/-- **A call asks once at most**, and a reply does not ask. -/
theorem PortPae.handle_asks_once (p : PortPae) (mac : MacAddr) (event : Event) :
    (p.handle mac event).2.countP (fun de => de.effect.isRequest) ≤ 1 ∧
      (event.IsReply → (p.handle mac event).2.countP (fun de => de.effect.isRequest) = 0) := by
  have counted : (p.handle mac event).2.countP (fun de => de.effect.isRequest) =
      (((p.handle mac event).2.map DirectedEffect.effect).filter Effect.isRequest).length := by
    rw [← List.countP_eq_length_filter, List.countP_map]
    rfl
  rw [counted]
  rcases (p.handle_outputs mac event).requests with none | ⟨request, one, own⟩
  · rw [none]
    exact ⟨Nat.zero_le 1, fun _ => rfl⟩
  · rw [one]
    exact ⟨Nat.le_refl 1, fun isReply => absurd isReply own⟩

/-- The MAC a request-bearing effect asks the server about. -/
def DirectedEffect.asks : DirectedEffect → Option MacAddr
  | ⟨some mac, .toAuthServer _⟩ => some mac
  | ⟨_, .startMab mac⟩ => some mac
  | _ => none

theorem DirectedEffect.isRequest_of_asks {de : DirectedEffect} {mac : MacAddr}
    (asked : de.asks = some mac) : de.effect.isRequest = true := by
  unfold DirectedEffect.asks at asked
  split at asked <;> first | rfl | cases asked

/-- A request of a call is about its MAC, and directed at it. -/
theorem PortPae.handle_asks (p : PortPae) (mac : MacAddr) (event : Event) {de : DirectedEffect}
    (member : de ∈ (p.handle mac event).2) {other : MacAddr} (asked : de.asks = some other) :
    other = mac ∧ de.mac = some mac := by
  have directed : de.mac = some mac := by
    rcases p.handle_directed mac event de member with own | ⟨-, a, command⟩
    · exact own
    · have asking := DirectedEffect.isRequest_of_asks asked
      rw [command] at asking
      cases asking
  refine ⟨?_, directed⟩
  unfold DirectedEffect.asks at asked
  split at asked
  · cases asked
    cases directed
    rfl
  · cases asked
    exact (p.handle_outputs mac event).own _ (List.mem_map_of_mem member)
  · cases asked

/-- A request that a packet leads to relays the packet, for its MAC. -/
theorem PortPae.handle_relayed (p : PortPae) (mac : MacAddr) (eap : InboundEap) {de : DirectedEffect}
    (member : de ∈ (p.handle mac (.eapFromSupplicant eap)).2)
    (isRequest : de.effect.isRequest = true) : de = ⟨some mac, .toAuthServer eap.packet⟩ := by
  have asks := p.handle_request mac (.eapFromSupplicant eap) member isRequest
  obtain ⟨target, effect⟩ := de
  dsimp only at asks
  cases asks
  rcases p.handle_directed mac (.eapFromSupplicant eap) _ member with own | ⟨-, a, command⟩
  · obtain rfl : target = some mac := own
    rfl
  · cases command

end Authenticator.Pae
