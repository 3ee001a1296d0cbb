/-
# Authd.Bounded -- what the orchestrator remembers fits a request

A request is built from the port, the NAS names and what is remembered of a session: its
identity, the State and Class of its replies, and its accounting id.  `Bounded` says that all
but the identity fit an attribute; replies keep it so, since what they bring came in attributes.

An effect that asks nothing leaves the RADIUS state of every session alone, but for the
accounting Identifier (`Noted`).
-/
import Authenticator.Radius.Sizes
import Authenticator.Authd.Run

namespace Authenticator.Authd

set_option autoImplicit false

open Authenticator.Pacp Authenticator.Pae Authenticator.Radius Authenticator.Theory

/-- What is remembered of a session fits. -/
structure SessionState.Sized (s : SessionState) : Prop where
  state : ∀ value ∈ s.radius.lastState, value.length ≤ maxAttrValue
  class_ : ∀ value ∈ s.radius.class_, value.length ≤ maxAttrValue
  acctId : ∀ id ∈ s.acctId, (utf8 id).length ≤ maxAttrValue

namespace Orchestrator

/-- The port is named like an interface, and everything that is remembered fits. -/
structure Bounded (o : Orchestrator) : Prop where
  port : (utf8 o.port).length < 16
  context : o.ctxTemplate.Sized
  sessions : ∀ mac, (o.session mac).Sized

/-- An accounting session id. -/
def acctName (port : String) (mac : MacAddr) (n : UInt64) : String :=
  port ++ "-" ++ formatMac mac ++ "-" ++ toString n.toNat

/-- What an effect that asks nothing leaves of the orchestrator. -/
structure Noted (o o' : Orchestrator) : Prop where
  port : o'.port = o.port
  context : o'.ctxTemplate = o.ctxTemplate
  radius : ∀ mac, ∃ n, (o'.session mac).radius = { (o.session mac).radius with nextAcctId := n }
  acctId : ∀ mac, (o'.session mac).acctId = (o.session mac).acctId ∨
    ∃ n, (o'.session mac).acctId = some (acctName o.port mac n)

variable {o : Orchestrator} {mac : MacAddr} {s : SessionState}

theorem session_setSession (o : Orchestrator) (mac : MacAddr) (s : SessionState) (other : MacAddr) :
    (o.setSession mac s).session other = if other = mac then s else o.session other := by
  by_cases same : other = mac
  · subst same
    simp [session, setSession]
  · simp [session, setSession, same]

theorem Bounded.setSession (bounded : o.Bounded) (sized : s.Sized) : (o.setSession mac s).Bounded := by
  refine ⟨bounded.port, bounded.context, ?_⟩
  intro other
  rw [session_setSession]
  split
  · exact sized
  · exact bounded.sessions other

theorem Noted.refl (o : Orchestrator) : Noted o o :=
  ⟨rfl, rfl, fun _ => ⟨_, rfl⟩, fun _ => Or.inl rfl⟩

theorem Noted.setSession
    (radius : ∃ n, s.radius = { (o.session mac).radius with nextAcctId := n })
    (acctId : s.acctId = (o.session mac).acctId ∨ ∃ n, s.acctId = some (acctName o.port mac n)) :
    Noted o (o.setSession mac s) := by
  refine ⟨rfl, rfl, ?_, ?_⟩
  · intro other
    rw [session_setSession]
    split
    · rename_i same
      subst same
      exact radius
    · exact ⟨_, rfl⟩
  · intro other
    rw [session_setSession]
    split
    · rename_i same
      subst same
      exact acctId
    · exact Or.inl rfl

theorem Noted.trans {o₁ o₂ o₃ : Orchestrator} (first : Noted o₁ o₂) (second : Noted o₂ o₃) :
    Noted o₁ o₃ := by
  refine ⟨second.port.trans first.port, second.context.trans first.context, ?_, ?_⟩
  · intro mac
    obtain ⟨n, here⟩ := first.radius mac
    obtain ⟨m, there⟩ := second.radius mac
    exact ⟨m, by rw [there, here]⟩
  · intro mac
    rcases second.acctId mac with kept | ⟨n, named⟩
    · rw [kept]
      exact first.acctId mac
    · rw [first.port] at named
      exact Or.inr ⟨n, named⟩

theorem length_acctName {port : String} (short : (utf8 port).length < 16) (mac : MacAddr)
    (n : UInt64) : (utf8 (acctName port mac n)).length ≤ maxAttrValue := by
  have append : ∀ a b : String, utf8 (a ++ b) = utf8 a ++ utf8 b := by
    intro a b
    simp [utf8]
  have address := length_utf8_le (formatMac mac)
  rw [length_formatMac] at address
  have number := length_utf8_le (toString n.toNat)
  have digits : (toString n.toNat).toList.length ≤ 20 := by
    rw [String.length_toList]
    refine (Nat.length_repr_le_iff (by decide)).mpr ?_
    have := n.toNat_lt
    omega
  have dash : (utf8 "-").length = 1 := by decide
  simp only [acctName, append, List.length_append, dash, maxAttrValue]
  omega

theorem Noted.bounded {o' : Orchestrator} (noted : Noted o o') (bounded : o.Bounded) : o'.Bounded := by
  refine ⟨by rw [noted.port]; exact bounded.port, by rw [noted.context]; exact bounded.context, ?_⟩
  intro mac
  obtain ⟨n, radius⟩ := noted.radius mac
  have sized := bounded.sessions mac
  refine ⟨by rw [radius]; exact sized.state, by rw [radius]; exact sized.class_, ?_⟩
  rcases noted.acctId mac with kept | ⟨n, named⟩
  · rw [kept]
    exact sized.acctId
  · rw [named]
    rintro id ⟨⟩
    exact length_acctName bounded.port mac n

theorem acctId_session (o : Orchestrator) (mac : MacAddr) :
    (o.session mac).acctId = (o.sessions mac).bind SessionState.acctId := by
  unfold session
  cases o.sessions mac <;> rfl

/-- The id of a MAC is the one it has, or a fresh one. -/
theorem acctIdFor_fst (o : Orchestrator) (mac : MacAddr) :
    (o.acctIdFor mac).1 = (o.session mac).acctId.getD (acctName o.port mac (o.acctCounter + 1)) := by
  rw [acctId_session, acctIdFor]
  split
  · rename_i existing known
    rw [known]
    rfl
  · rename_i unknown
    rw [unknown]
    rfl

/-- Naming the accounting session of a MAC. -/
theorem noted_acctIdFor (o : Orchestrator) (mac : MacAddr) :
    Noted o (o.acctIdFor mac).2 ∧
      (((o.acctIdFor mac).2.session mac).acctId = some (o.acctIdFor mac).1) := by
  unfold Orchestrator.acctIdFor
  split
  · rename_i existing known
    refine ⟨.refl o, ?_⟩
    obtain ⟨s, found, named⟩ := Option.bind_eq_some_iff.mp known
    simp [session, found, named]
  · dsimp only
    have noted : Noted o ({ o with acctCounter := o.acctCounter + 1 } : Orchestrator) :=
      ⟨rfl, rfl, fun _ => ⟨_, rfl⟩, fun _ => Or.inl rfl⟩
    refine ⟨noted.trans (.setSession ⟨_, rfl⟩ (Or.inr ⟨o.acctCounter + 1, rfl⟩)), ?_⟩
    rw [session_setSession, if_pos rfl]

end Orchestrator

open Orchestrator (Bounded Noted)

/-! ## Effects that ask nothing -/

section Quiet

variable {ω : Type} {w : World ω}

theorem noted_counted (mac : MacAddr) (w : World ω) : Noted w.orch (w.counted mac).orch :=
  (w.orch.noted_acctIdFor mac).1.trans (.setSession ⟨_, rfl⟩ (Or.inl rfl))

/-- The orchestrator after an effect that asks nothing: a grant notes its Session-Timeout, and
accounting names and numbers its request. -/
def quietly (de : DirectedEffect) (w : World ω) : Orchestrator :=
  match de with
  | ⟨some mac, .setAuthorization (.authorized a)⟩ =>
      w.orch.setSession mac { w.orch.session mac with sessionTimeout := a.sessionTimeout }
  | ⟨some mac, .accounting _⟩ => (w.counted mac).orch
  | _ => w.orch

variable [RadiusProto]

/-- **What an effect that asks nothing leaves of the orchestrator.** -/
theorem dispatch_quietly (deps : Deps ω) {de : DirectedEffect} (quiet : de.asks = none)
    (w : World ω) : (dispatch deps de w).2.orch = quietly de w := by
  obtain ⟨target, effect⟩ := de
  cases effect with
  | setAuthorization auth =>
      have noted : noteSessionTimeout target auth w =
          (.ok (), { w with orch := quietly ⟨target, .setAuthorization auth⟩ w }) := by
        cases target <;> cases auth <;> rfl
      rw [dispatch_setAuthorization deps noted]
      rfl
  | startMab mac => cases target <;> cases quiet
  | toAuthServer eap =>
      cases target with
      | none => rfl
      | some mac => cases quiet
  | txEapToSupplicant eap =>
      cases target with
      | none => rfl
      | some mac =>
          have same : dispatch deps ⟨some mac, .txEapToSupplicant eap⟩ w = _ :=
            boundary_run (deps.sendEap mac eap) (.sendEap mac eap) w
          rw [same]
          rfl
  | armTimer kind =>
      cases target with
      | none => rfl
      | some mac =>
          rw [dispatch_armTimer]
          cases w.orch.timerDuration mac kind deps.timers <;> rfl
  | cancelTimer kind => cases target <;> rfl
  | cancelAllTimers => cases target <;> rfl
  | accounting trigger =>
      cases target with
      | none => rfl
      | some mac =>
          rw [dispatch_accounting]
          cases builtAccounting deps mac trigger w <;> rfl

/-- **An effect that asks nothing leaves the RADIUS state alone.** -/
theorem noted_dispatch (deps : Deps ω) {de : DirectedEffect} (quiet : de.asks = none)
    (w : World ω) : Noted w.orch (dispatch deps de w).2.orch := by
  rw [dispatch_quietly deps quiet]
  unfold quietly
  split
  · exact .setSession ⟨_, rfl⟩ (Or.inl rfl)
  · exact noted_counted _ w
  · exact .refl _

/-- An effect that asks nothing is not followed up. -/
theorem dispatch_quiet_follow (deps : Deps ω) {de : DirectedEffect} (quiet : de.asks = none)
    {w : World ω} {follow : Option Event} (done : (dispatch deps de w).1 = .ok follow) :
    follow = none := by
  cases follow with
  | none => rfl
  | some event =>
      obtain ⟨calls, performed⟩ := dispatch_performed deps de w
      obtain ⟨_, _, _, _, asked, -⟩ := performed.outcome.followed done
      rw [quiet] at asked
      cases asked

/-- The Accounting-Request of a trigger, by what is remembered of its session. -/
theorem builtAccounting_eq (deps : Deps ω) (mac : MacAddr) (trigger : AcctTrigger) (w : World ω) :
    builtAccounting deps mac trigger w =
      (accountingRequest (w.orch.ctxFor mac) (w.orch.session mac).radius.nextAcctId trigger
        (w.orch.acctIdFor mac).1 (w.orch.session mac).radius.class_ deps.secret).mapError .radius := by
  have radius : ((w.orch.acctIdFor mac).2.session mac).radius = (w.orch.session mac).radius := by
    unfold Orchestrator.acctIdFor
    split
    · rfl
    · rw [Orchestrator.session_setSession, if_pos rfl]
      rfl
  obtain ⟨n, counted⟩ := (noted_counted mac w).radius mac
  have context : (w.counted mac).orch.ctxFor mac = w.orch.ctxFor mac := by
    rw [Orchestrator.ctxFor, (noted_counted mac w).context]
    rfl
  rw [builtAccounting, counted, radius, context]
  rfl

/-- The Accounting-Request of a bounded orchestrator is built. -/
theorem builtAccounting_ok [LawfulRadiusProto] [SizedRadiusProto] (deps : Deps ω) (mac : MacAddr)
    (trigger : AcctTrigger) {w : World ω} (bounded : w.orch.Bounded) :
    ∃ request, builtAccounting deps mac trigger w = .ok request := by
  obtain ⟨noted, named⟩ := w.orch.noted_acctIdFor mac
  have id := ((noted.bounded bounded).sessions mac).acctId _ named
  have context : (w.orch.ctxFor mac).Sized :=
    ⟨bounded.context.nasIdentifier, bounded.context.nasPortId⟩
  obtain ⟨request, built⟩ := accountingRequest_ok context id (bounded.sessions mac).class_
  rw [builtAccounting_eq]
  exact ⟨request, mapError_eq_ok.mpr built⟩

end Quiet

/-! ## Requests and replies -/

section Asking

variable {ω : Type} [RadiusProto]

/-- **What a round-trip leaves of the orchestrator**: it replaces the RADIUS state of its
session, by what the builder leaves or by what the reply makes of that. -/
theorem roundTrip_sessions (deps : Deps ω) (mac : MacAddr)
    (build : RequestContext → Auth16 → Prog AuthdError RadiusSession Packet) (w : World ω) :
    let made := build (w.orch.ctxFor mac) (deps.generateRequestAuthenticator w.env).1
      (w.orch.session mac).radius
    let after := (roundTrip deps mac build w).2.orch
    ∃ radius, after.port = w.orch.port ∧ after.ctxTemplate = w.orch.ctxTemplate ∧
      (∀ other, after.session other =
        if other = mac then { w.orch.session mac with radius := radius } else w.orch.session other) ∧
      (radius = made.2 ∨ ∃ request reply env, made.1 = .ok request ∧
        deps.accessRequest request (deps.generateRequestAuthenticator w.env).2 = (.ok reply, env) ∧
        radius = (RadiusSession.handleReply reply deps.secret made.2).2) := by
  intro made after
  have replaced : ∀ (radius : RadiusSession) (other : MacAddr),
      (w.orch.setSession mac { w.orch.session mac with radius := radius }).session other =
        if other = mac then { w.orch.session mac with radius := radius } else w.orch.session other :=
    fun radius other => w.orch.session_setSession mac _ other
  have twice : ∀ (first radius : RadiusSession) (other : MacAddr),
      ((w.orch.setSession mac { w.orch.session mac with radius := first }).setSession mac
        { (w.orch.setSession mac { w.orch.session mac with radius := first }).session mac with
          radius := radius }).session other =
        if other = mac then { w.orch.session mac with radius := radius } else w.orch.session other := by
    intro first radius other
    rw [Orchestrator.session_setSession, replaced, if_pos rfl, replaced]
    split <;> rfl
  have ran : after = (roundTrip deps mac build w).2.orch := rfl
  clear_value after
  rw [roundTrip_eq] at ran
  dsimp only at ran
  have built : made = build (w.orch.ctxFor mac) (deps.generateRequestAuthenticator w.env).1
      (w.orch.session mac).radius := rfl
  clear_value made
  rw [← built] at ran
  obtain ⟨outcome, radius⟩ := made
  cases outcome with
  | error e =>
      subst ran
      exact ⟨radius, rfl, rfl, replaced radius, Or.inl rfl⟩
  | ok request =>
      dsimp only at ran
      cases called : deps.accessRequest request (deps.generateRequestAuthenticator w.env).2 with
      | mk answer env =>
          rw [called] at ran
          cases answer with
          | error e =>
              subst ran
              exact ⟨radius, rfl, rfl, replaced radius, Or.inl rfl⟩
          | ok reply =>
              subst ran
              exact ⟨_, rfl, rfl, twice radius _, Or.inr ⟨request, reply, env, rfl, called, rfl⟩⟩

/-- What a builder keeps of the session, and what it leaves outstanding. -/
structure Builds (secret : Bytes)
    (build : RequestContext → Auth16 → Prog AuthdError RadiusSession Packet) : Prop where
  lastState : ∀ ctx authenticator s, (build ctx authenticator s).2.lastState = s.lastState
  class_ : ∀ ctx authenticator s, (build ctx authenticator s).2.class_ = s.class_
  pending : ∀ ctx authenticator s request s',
    build ctx authenticator s = (.ok request, s') → ∃ pending, s'.pending = some pending ∧
      RadiusSession.Requests secret ctx.callingStation pending request

/-- **An effect that asks about a MAC is a round-trip for it.** -/
theorem dispatch_asks (deps : Deps ω) {de : DirectedEffect} {mac : MacAddr}
    (asked : de.asks = some mac) :
    ∃ build, dispatch deps de = roundTrip deps mac build ∧ Builds deps.secret build := by
  obtain ⟨target, effect⟩ := de
  cases effect with
  | toAuthServer eap =>
      cases target with
      | none => cases asked
      | some station =>
          cases asked
          refine ⟨_, dispatch_toAuthServer deps mac eap, ?_, ?_, ?_⟩
          · intro ctx authenticator s
            cases eapIdentity eap <;> rfl
          · intro ctx authenticator s
            cases eapIdentity eap <;> rfl
          · exact fun _ _ _ _ _ => RadiusSession.buildEapRequest_eq_ok
  | startMab station =>
      have same : station = mac := by cases target <;> cases asked <;> rfl
      subst same
      exact ⟨_, dispatch_startMab deps target station, fun _ _ _ => rfl, fun _ _ _ => rfl,
        fun _ _ _ _ _ => RadiusSession.buildMabRequest_eq_ok⟩
  | _ => cases target <;> cases asked

variable [LawfulRadiusProto]

/-- The server answers in packets whose attributes came off the wire. -/
def SizedReplies (deps : Deps ω) : Prop :=
  ∀ request env reply env', deps.accessRequest request env = (.ok reply, env') →
    ∀ a ∈ reply.attributes, a.value.length ≤ maxAttrValue

/-- What a reply is remembered for came in one of its attributes. -/
theorem sized_handleReply {reply : Packet} (secret : Bytes) {radius : RadiusSession}
    (sized : ∀ a ∈ reply.attributes, a.value.length ≤ maxAttrValue)
    (state : ∀ value ∈ radius.lastState, value.length ≤ maxAttrValue)
    (class_ : ∀ value ∈ radius.class_, value.length ≤ maxAttrValue) :
    (∀ value ∈ (RadiusSession.handleReply reply secret radius).2.lastState,
      value.length ≤ maxAttrValue) ∧
      ∀ value ∈ (RadiusSession.handleReply reply secret radius).2.class_,
        value.length ≤ maxAttrValue := by
  have brought : ∀ t, ∀ value ∈ (RadiusProto.findAttribute reply t).map Attribute.value,
      value.length ≤ maxAttrValue := by
    intro t value known
    obtain ⟨a, found, rfl⟩ := Option.map_eq_some_iff.mp known
    rw [LawfulRadiusProto.findAttribute_eq] at found
    exact sized a (List.mem_of_find?_eq_some found)
  have handling := RadiusSession.handleReply_handling radius reply secret
  generalize (RadiusSession.handleReply reply secret radius).1 = outcome,
    (RadiusSession.handleReply reply secret radius).2 = later at handling ⊢
  cases handling with
  | idle | refused => exact ⟨state, class_⟩
  | unparsed | answered => exact ⟨brought _, class_⟩
  | granted _ _ _ _ a eap parsed =>
      refine ⟨brought _, ?_⟩
      obtain ⟨-, known⟩ := parseReply_accept parsed
      obtain ⟨vlan, -, done⟩ := except_bind_eq_ok.mp known
      cases done
      exact brought AttributeType.class_

/-- **A round-trip keeps what is remembered within bounds.** -/
theorem bounded_roundTrip {deps : Deps ω} (replies : SizedReplies deps) {mac : MacAddr}
    {build : RequestContext → Auth16 → Prog AuthdError RadiusSession Packet}
    (builds : Builds deps.secret build) {w : World ω} (bounded : w.orch.Bounded) :
    (roundTrip deps mac build w).2.orch.Bounded := by
  have sized := bounded.sessions mac
  have lastState := builds.lastState (w.orch.ctxFor mac)
    (deps.generateRequestAuthenticator w.env).1 (w.orch.session mac).radius
  have lastClass := builds.class_ (w.orch.ctxFor mac)
    (deps.generateRequestAuthenticator w.env).1 (w.orch.session mac).radius
  obtain ⟨radius, port, context, sessions, learned⟩ := roundTrip_sessions deps mac build w
  generalize build (w.orch.ctxFor mac) (deps.generateRequestAuthenticator w.env).1
    (w.orch.session mac).radius = made at lastState lastClass learned
  have remembered : (∀ value ∈ radius.lastState, value.length ≤ maxAttrValue) ∧
      ∀ value ∈ radius.class_, value.length ≤ maxAttrValue := by
    have state : ∀ value ∈ made.2.lastState, value.length ≤ maxAttrValue := by
      rw [lastState]
      exact sized.state
    have class_ : ∀ value ∈ made.2.class_, value.length ≤ maxAttrValue := by
      rw [lastClass]
      exact sized.class_
    rcases learned with same | ⟨request, reply, env, -, called, same⟩
    · rw [same]
      exact ⟨state, class_⟩
    · rw [same]
      exact sized_handleReply deps.secret (replies _ _ _ _ called) state class_
  refine ⟨by rw [port]; exact bounded.port, by rw [context]; exact bounded.context, ?_⟩
  intro other
  rw [sessions]
  split
  · exact ⟨remembered.1, remembered.2, sized.acctId⟩
  · exact bounded.sessions other

/-- **Performing an effect keeps what is remembered within bounds.** -/
theorem bounded_dispatch {deps : Deps ω} (replies : SizedReplies deps) (de : DirectedEffect)
    {w : World ω} (bounded : w.orch.Bounded) : (dispatch deps de w).2.orch.Bounded := by
  cases asked : de.asks with
  | none => exact (noted_dispatch deps asked w).bounded bounded
  | some mac =>
      obtain ⟨build, same, builds⟩ := dispatch_asks deps asked
      rw [same]
      exact bounded_roundTrip replies builds bounded

end Asking

end Authenticator.Authd
