/-
# Authd.UserName -- whose name a request carries

The RADIUS state of a MAC remembers the last identity that was relayed for it, and is kept
when its PAE session goes.  A request carries the identity of its own packet, or else the
remembered one.  So it names the current session in all but one case: the session has relayed
no identity, an earlier one has, and its name is sent again (`user_name_current_iff`).
-/
import Authenticator.Radius.Carried
import Authenticator.Authd.FrameSafety
import Authenticator.Authd.Trace

namespace Authenticator.Authd

set_option autoImplicit false

open Authenticator.Pacp Authenticator.Pae Authenticator.Radius Authenticator.Theory

/-! ## Identities of a history -/

/-- The packet that an effect relays for `mac`. -/
def relayedFor (mac : MacAddr) : DirectedEffect → Option Bytes
  | ⟨some station, .toAuthServer eap⟩ => if station = mac then some eap else none
  | _ => none

theorem relayedFor_quiet (mac : MacAddr) {de : DirectedEffect} (quiet : de.asks = none) :
    relayedFor mac de = none := by
  obtain ⟨target, effect⟩ := de
  cases effect with
  | toAuthServer eap =>
      cases target with
      | none => rfl
      | some station => cases quiet
  | _ => cases target <;> rfl

theorem asks_of_relayedFor {mac : MacAddr} {de : DirectedEffect} {eap : Bytes}
    (relays : relayedFor mac de = some eap) : de.asks = some mac := by
  obtain ⟨target, effect⟩ := de
  cases effect with
  | toAuthServer packet =>
      cases target with
      | none => cases relays
      | some station =>
          obtain ⟨own, -⟩ := Option.ite_none_right_eq_some.mp relays
          rw [own]
          rfl
  | _ => cases target <;> cases relays

section Histories

variable {ω : Type}

/-- The packet that is relayed for `mac` at a moment. -/
def relayedAt (mac : MacAddr) : Moment ω → Option Bytes
  | .expand _ _ => none
  | .act _ de _ => relayedFor mac de

/-- The identities relayed for `mac`, oldest first. -/
def identities (mac : MacAddr) (history : List (Moment ω)) : List Bytes :=
  history.filterMap fun x => (relayedAt mac x).bind eapIdentity

/-- At this moment an event of `mac` finds no session; if one is there afterwards, it is new. -/
def meets (mac : MacAddr) : Moment ω → Bool
  | .expand (station, _) w => station = mac && (w.pae.session mac).isNone
  | .act _ _ _ => false

/-- The moments since the session of `mac` was created. -/
def sinceCreated (mac : MacAddr) (history : List (Moment ω)) : List (Moment ω) :=
  history.foldl (fun since x => if meets mac x then [x] else since ++ [x]) []

variable (mac : MacAddr) (history : List (Moment ω)) (x : Moment ω)

theorem identities_concat :
    identities mac (history ++ [x]) =
      identities mac history ++ ((relayedAt mac x).bind eapIdentity).toList := by
  rw [identities, List.filterMap_append]
  congr 1

theorem sinceCreated_concat :
    sinceCreated mac (history ++ [x]) =
      if meets mac x then [x] else sinceCreated mac history ++ [x] := by
  simp [sinceCreated]

/-- The identities of the current session are the last ones. -/
theorem identities_sinceCreated_suffix :
    identities mac (sinceCreated mac history) <:+ identities mac history := by
  induction history using List.reverseRecOn with
  | nil => exact List.suffix_refl _
  | append_singleton history x ih =>
      obtain ⟨earlier, same⟩ := ih
      rw [sinceCreated_concat]
      split
      · rw [identities_concat, show identities mac [x] = identities mac ([] ++ [x]) from rfl,
          identities_concat]
        exact ⟨identities mac history, rfl⟩
      · rw [identities_concat, identities_concat, ← same]
        exact ⟨earlier, (List.append_assoc _ _ _).symm⟩

end Histories

/-! ## The remembered identity -/

section Remembered

variable {ω : Type} [RadiusProto] (deps : Deps ω)

theorem userName_handleReply (reply : Packet) (secret : Bytes) (radius : RadiusSession) :
    (RadiusSession.handleReply reply secret radius).2.userName = radius.userName := by
  have handling := RadiusSession.handleReply_handling radius reply secret
  generalize (RadiusSession.handleReply reply secret radius).1 = outcome,
    (RadiusSession.handleReply reply secret radius).2 = later at handling ⊢
  cases handling <;> rfl

/-- A round-trip remembers what its builder remembers. -/
theorem userName_roundTrip (mac : MacAddr)
    (build : RequestContext → Auth16 → Prog AuthdError RadiusSession Packet) (w : World ω)
    (other : MacAddr) :
    ((roundTrip deps mac build w).2.orch.session other).radius.userName =
      if other = mac then (build (w.orch.ctxFor mac) (deps.generateRequestAuthenticator w.env).1
        (w.orch.session mac).radius).2.userName
      else (w.orch.session other).radius.userName := by
  obtain ⟨radius, -, -, sessions, learned⟩ := roundTrip_sessions deps mac build w
  rw [sessions]
  split
  · rcases learned with same | ⟨request, reply, env, -, -, same⟩
    · rw [same]
    · rw [same]
      exact userName_handleReply reply deps.secret _
  · rfl

/-- **An effect remembers the identity it relays**, and no other changes the name. -/
theorem userName_dispatch (de : DirectedEffect) (w : World ω) (mac : MacAddr) :
    ((dispatch deps de w).2.orch.session mac).radius.userName =
      ((relayedFor mac de).bind eapIdentity).or (w.orch.session mac).radius.userName := by
  cases asked : de.asks with
  | none =>
      obtain ⟨n, radius⟩ := (noted_dispatch deps asked w).radius mac
      rw [relayedFor_quiet mac asked, radius]
      rfl
  | some station =>
      obtain ⟨aim, effect⟩ := de
      cases effect with
      | toAuthServer eap =>
          cases aim with
          | none => cases asked
          | some target =>
              rw [dispatch_toAuthServer, userName_roundTrip]
              by_cases own : mac = target
              · subst own
                simp only [relayedFor, if_true, Option.bind_some]
                cases eapIdentity eap <;> rfl
              · simp only [relayedFor, if_neg own, if_neg (Ne.symm own)]
                rfl
      | startMab target =>
          rw [dispatch_startMab, userName_roundTrip]
          have unrelayed : relayedFor mac ⟨aim, .startMab target⟩ = none := by cases aim <;> rfl
          rw [unrelayed]
          split
          · rename_i own
            rw [own]
            rfl
          · rfl
      | _ => cases aim <;> cases asked

/-- **The remembered identity is the last one relayed**, at every moment of every run. -/
theorem userName_history {port : String} {ctxTemplate : RequestContext} {cfg : PaeConfig} {env : ω}
    {inputs : List (MacAddr × Event)} {before : List (Moment ω)} {x : Moment ω}
    (within : before ++ [x] <+: history deps (.start port ctxTemplate cfg env) inputs)
    (mac : MacAddr) :
    (x.state.orch.session mac).radius.userName = (identities mac before).getLast? := by
  have remembers : ∀ mac, (x.state.orch.session mac).radius.userName =
      (identities mac before).getLast? := by
    refine history_moment (I := fun before w => ∀ mac,
      (w.orch.session mac).radius.userName = (identities mac before).getLast?) ?_ ?_ ?_ within
    · intro station event before w held mac
      rw [identities_concat]
      show (w.orch.session mac).radius.userName = (identities mac before ++ []).getLast?
      rw [List.append_nil]
      exact held mac
    · intro task de before w held mac
      rw [identities_concat, userName_dispatch, held mac]
      show ((relayedFor mac de).bind eapIdentity).or _ =
        (identities mac before ++ ((relayedFor mac de).bind eapIdentity).toList).getLast?
      cases (relayedFor mac de).bind eapIdentity <;> simp
    · intro mac
      rfl
  exact remembers mac

end Remembered

/-! ## The main result -/

section Main

variable {ω : Type} [RadiusProto]

/-- The `User-Name` of a request. -/
def userNameOf (request : Packet) : Option Bytes :=
  (RadiusProto.findAttribute request AttributeType.userName).map Attribute.value

/-- The name of a request is an identity its session has relayed, and there is none if the
session has relayed none. -/
structure NamesCurrent (mac : MacAddr) (history : List (Moment ω)) (request : Packet) : Prop where
  relayed : ∀ name ∈ userNameOf request, name ∈ identities mac (sinceCreated mac history)
  nameless : identities mac (sinceCreated mac history) = [] → userNameOf request = none

/-- The packet is an identity, the session has relayed one, or no session of `mac` ever has. -/
def Introduced (mac : MacAddr) (before : List (Moment ω)) (eap : Bytes) : Prop :=
  eapIdentity eap ≠ none ∨ identities mac (sinceCreated mac before) ≠ [] ∨ identities mac before = []

theorem namesCurrent_iff {mac : MacAddr} {history : List (Moment ω)} {request : Packet} :
    NamesCurrent mac history request ↔
      ∀ name ∈ userNameOf request, name ∈ identities mac (sinceCreated mac history) := by
  refine ⟨NamesCurrent.relayed, fun relayed => ⟨relayed, fun none => ?_⟩⟩
  rw [none] at relayed
  exact Option.eq_none_iff_forall_not_mem.mpr fun name named => absurd (relayed name named) (by simp)

/-- **A request names its own session exactly when the session, or nobody, has introduced
itself.**  In every run, at every EAP Access-Request made for `mac`: its User-Name is an identity
relayed since the current session was created, and absent if there is none, if and only if the
packet is an identity, the session has relayed one before, or no session of `mac` ever has. -/
theorem user_name_current_iff [LawfulRadiusProto] (deps : Deps ω) (port : String)
    (ctxTemplate : RequestContext) (cfg : PaeConfig) (env : ω) (inputs : List (MacAddr × Event))
    (before : List (Moment ω)) (x : Moment ω)
    (within : before ++ [x] <+: history deps (.start port ctxTemplate cfg env) inputs)
    (mac : MacAddr) (eap : Bytes) (relays : relayedAt mac x = some eap) (request : Packet)
    (built : (builtRequest deps mac eap x.state).1 = .ok request) :
    NamesCurrent mac (before ++ [x]) request ↔ Introduced mac before eap := by
  have remembered := userName_history deps within mac
  have named : userNameOf request = (eapIdentity eap).or (identities mac before).getLast? := by
    rw [builtRequest_eq] at built
    rw [userNameOf, accessRequestEap_userName (mapError_eq_ok.mp built), nameInForce,
      remembered]
  have quiet : meets mac x = false := by
    cases x with
    | expand => cases relays
    | act => rfl
  have since : identities mac (sinceCreated mac (before ++ [x])) =
      identities mac (sinceCreated mac before) ++ (eapIdentity eap).toList := by
    rw [sinceCreated_concat, quiet, if_neg (by simp), identities_concat, relays]
    rfl
  obtain ⟨earlier, split⟩ := identities_sinceCreated_suffix mac before
  rw [namesCurrent_iff, named, since, Introduced]
  cases eapIdentity eap with
  | some id => simp
  | none =>
      simp only [Option.none_or, Option.toList_none, List.append_nil, ne_eq, not_true_eq_false,
        false_or]
      constructor
      · intro relayed
        by_contra neither
        push Not at neither
        obtain ⟨empty, some_⟩ := neither
        have last := relayed _ (List.getLast?_eq_some_getLast some_)
        rw [empty] at last
        cases last
      · rintro (introduced | never) name last
        · rw [← split, List.getLast?_append_of_ne_nil _ introduced] at last
          exact List.mem_of_getLast? last
        · rw [never] at last
          cases last

end Main

section Witness

attribute [local instance] exchangeProto

/-- EAP-Response/Nak. -/
def nakResponse : Bytes := [2, 2, 0, 6, 3, 0x0d]

/-- `alice` gives her identity and logs off; then somebody answers from the same MAC with a
Nak, and no identity. -/
def relogin : List (MacAddr × Event) :=
  [identityInput, (Site.station, .eapolLogoff),
    (Site.station, .eapFromSupplicant ⟨.response, 2, some .nak, nakResponse⟩)]

def reloginHistory : List (Moment Site.Script) := history socketDeps exchangeStart relogin

/-- The moment of the identity, and the moment of the Nak. -/
def identityPlace : Fin reloginHistory.length := ⟨5, by decide +kernel⟩

def nakPlace : Fin reloginHistory.length := ⟨19, by decide +kernel⟩

/-- The request for the identity of `alice` names `alice`, who is the current session. -/
theorem user_name_current_alice :
    ∃ before x, before ++ [x] <+: reloginHistory ∧
      relayedAt Site.station x = some identityResponse ∧
      NamesCurrent Site.station (before ++ [x]) identityRequest := by
  have lawful : LawfulRadiusProto := codec_lawful exchangeDigests
  have within := prefix_at reloginHistory identityPlace
  have relays : relayedAt Site.station (reloginHistory.get identityPlace) = some identityResponse := by
    decide +kernel
  refine ⟨_, _, within, relays, ?_⟩
  refine (user_name_current_iff socketDeps "Ethernet4" Site.context Site.config
    ⟨[.ok challenge], []⟩ relogin _ _ within Site.station identityResponse relays identityRequest
    (by decide +kernel)).mpr (Or.inl ?_)
  decide +kernel

/-- The request for the Nak names `alice`, who has logged off. -/
theorem logged_off_name_sent :
    ¬ ∀ (deps : Deps Site.Script) (port : String) (ctxTemplate : RequestContext) (cfg : PaeConfig)
      (env : Site.Script) (inputs : List (MacAddr × Event)) (before : List (Moment Site.Script))
      (x : Moment Site.Script),
      before ++ [x] <+: history deps (.start port ctxTemplate cfg env) inputs →
      ∀ (mac : MacAddr) (eap : Bytes), relayedAt mac x = some eap → ∀ request : Packet,
        (builtRequest deps mac eap x.state).1 = .ok request →
          NamesCurrent mac (before ++ [x]) request := by
  intro claim
  have within := prefix_at reloginHistory nakPlace
  have relays : relayedAt Site.station (reloginHistory.get nakPlace) = some nakResponse := by decide +kernel
  have sent : ((builtRequest socketDeps Site.station nakResponse
      (reloginHistory.get nakPlace).state).1.toOption.bind userNameOf) = some (utf8 "alice") := by
    decide +kernel
  have unnamed : identities Site.station (sinceCreated Site.station
      (reloginHistory.take nakPlace ++ [reloginHistory.get nakPlace])) = [] := by
    decide +kernel
  cases built : (builtRequest socketDeps Site.station nakResponse
      (reloginHistory.get nakPlace).state).1 with
  | error e =>
      rw [built] at sent
      cases sent
  | ok request =>
      have current := claim socketDeps "Ethernet4" Site.context Site.config
        ⟨[.ok challenge], []⟩ relogin _ _ within Site.station nakResponse relays request built
      rw [built] at sent
      exact absurd ((current.nameless unnamed).symm.trans sent) (by simp)

end Witness

end Authenticator.Authd
