/-
# Authd.Conversation -- which State a request echoes

The RADIUS state of a MAC keeps the `State` of its last verified reply, and nothing that
happens to the PAE session clears it.  A Response to a challenge therefore echoes the State
of that challenge, since no other reply came in between.  The first Response of a new
conversation should echo none, but echoes that of whatever reply came last, be it of a
conversation given up or of a session gone (`state_own_iff`).

`heard` reads the last verified reply of a MAC off the log, and `challengeOf` the challenge
that put its session into `Authenticating` off the history.  `Conversing` is the invariant
of a run with its history; `Exchanging` is what holds besides inside the effects of one event.
-/
import Authenticator.Pae.Exchange
import Authenticator.Authd.UserName

namespace Authenticator.Authd

set_option autoImplicit false

open Authenticator.Pacp Authenticator.Pae Authenticator.Radius Authenticator.Theory
open Worklist (entered entered_expand entered_act)

/-! ## The port -/

/-- The state in which an event finds the session of `mac`; a session that is not there is
created in `Connecting`. -/
def foundIn (p : PortPae) (mac : MacAddr) : State :=
  ((p.session mac).map PortSession.state).getD .connecting

/-- A session comes to wait for its supplicant by a challenge that it waited for. -/
theorem Transition.challenged_of {cfg : PaeConfig} {s s' : PortSession} {event : Event}
    {fx : List Effect} (moved : Transition cfg s event s' fx) (waits : s'.state = .authenticating) :
    s.state = .authenticating ∨ (s.state = .authServer ∧ ∃ eap, event = .accessChallenge eap) := by
  cases moved with
  | ignored => exact Or.inl waits
  | challenged eap asked => exact Or.inr ⟨asked, eap, rfl⟩
  | coaAuthorized a running => exact Or.inl waits
  | tornDown _ cause eap live silent =>
      rw [(s.teardown_live cause live).1] at waits
      cases waits
  | _ => cases waits

theorem handle_challenged {p : PortPae} {P : Postures} (inv : PortInv p P) {mac : MacAddr}
    {event : Event} (waits : foundIn (p.handle mac event).1 mac = .authenticating) :
    foundIn p mac = .authenticating ∨
      (foundIn p mac = .authServer ∧ ∃ eap, event = .accessChallenge eap) := by
  rcases PortPae.handle_lane inv mac event with ⟨-, -, same⟩ | ⟨-, sessions, -⟩
  · rw [same] at waits
    exact Or.inl waits
  · have settled : ∀ r : PortSession,
        ((if r.state = .new then none else some r).map PortSession.state).getD .connecting =
          .authenticating → r.state = .authenticating := by
      intro r state
      split at state
      · cases state
      · exact state
    unfold foundIn at waits ⊢
    rw [sessions, Function.update_self] at waits
    cases found : p.session mac with
    | some s =>
        rw [found] at waits
        exact Transition.challenged_of (PortSession.step_transition p.cfg s event) (settled _ waits)
    | none =>
        rw [found] at waits
        have state : (admitted p.cfg mac event).1.state = .authenticating := settled _ waits
        unfold admitted at state
        dsimp only at state
        split at state
        · cases state
        · rcases Transition.challenged_of (PortSession.step_transition p.cfg _ event) state with
            connecting | ⟨connecting, -⟩ <;> cases connecting

/-- A call leaves the sessions of other MACs where they are. -/
theorem foundIn_handle_of_ne {p : PortPae} {P : Postures} (inv : PortInv p P) {mac other : MacAddr}
    (event : Event) (foreign : other ≠ mac) :
    foundIn (p.handle mac event).1 other = foundIn p other := by
  unfold foundIn
  rcases PortPae.handle_lane inv mac event with ⟨-, -, same⟩ | ⟨-, sessions, -⟩
  · rw [same]
  · rw [sessions, Function.update_of_ne foreign]

/-! ## The last verified reply -/

theorem World.radius_withRadius {ω : Type} (w : World ω) (mac : MacAddr) (radius : RadiusSession)
    (other : MacAddr) : ((w.withRadius mac radius).orch.session other).radius =
      if other = mac then radius else (w.orch.session other).radius := by
  show ((Orchestrator.setSession _ _ _).session other).radius = _
  rw [Orchestrator.session_setSession]
  split <;> rfl

section Heard

variable [RadiusProto]

/-- The reply verifies against the request. -/
def Verified (secret : Bytes) (request reply : Packet) : Prop :=
  reply.identifier = request.identifier ∧ verifyReply reply request.authenticator secret = true

instance (secret : Bytes) (request reply : Packet) : Decidable (Verified secret request reply) :=
  inferInstanceAs (Decidable (_ ∧ _))

def Entry.hear (secret : Bytes) (mac : MacAddr) (last : Option Packet) : Entry → Option Packet
  | ⟨serving, .accessRequest request (.ok reply)⟩ =>
      if serving = some mac ∧ Verified secret request reply then some reply else last
  | _ => last

/-- The last verified reply to a request for `mac`. -/
def heard (secret : Bytes) (mac : MacAddr) (log : List Entry) : Option Packet :=
  log.foldl (Entry.hear secret mac) none

theorem heard_append (secret : Bytes) (mac : MacAddr) (log more : List Entry) :
    heard secret mac (log ++ more) = more.foldl (Entry.hear secret mac) (heard secret mac log) :=
  List.foldl_append

variable {ω : Type}

/-- What is echoed for every MAC is the State of its last verified reply. -/
def Echoes (secret : Bytes) (w : World ω) : Prop :=
  ∀ mac, (w.orch.session mac).radius.lastState = (heard secret mac w.log).bind extractState

variable (deps : Deps ω) {de : DirectedEffect}

/-- An effect that asks nothing brings no reply. -/
theorem heard_quiet (quiet : de.asks = none) (w : World ω) (mac : MacAddr) :
    heard deps.secret mac (dispatch deps de w).2.log = heard deps.secret mac w.log := by
  obtain ⟨calls, performed⟩ := dispatch_performed deps de w
  rw [performed.log, heard_append]
  have outcome := performed.outcome
  generalize (dispatch deps de w).1 = result, (dispatch deps de w).2.env = env at outcome
  cases outcome with
  | unanswered de mac asked _ _ _ | discarded de mac asked _ _ _ _
  | answered de mac asked _ _ _ _ _ =>
      rw [asked] at quiet
      cases quiet
  | _ => rfl

theorem echoes_quiet (quiet : de.asks = none) {w : World ω} (echoes : Echoes deps.secret w) :
    Echoes deps.secret (dispatch deps de w).2 := by
  intro mac
  obtain ⟨n, radius⟩ := (noted_dispatch deps quiet w).radius mac
  rw [heard_quiet deps quiet, radius]
  exact echoes mac

/-- What a round-trip for `mac` does: nothing is heard and the State stays, or a verified reply
is heard and its State kept; the event that follows is read off that reply. -/
structure Listens (secret : Bytes) (mac : MacAddr) (w : World ω)
    (r : Except AuthdError (Option Event) × World ω) : Prop where
  others : ∀ other, other ≠ mac → heard secret other r.2.log = heard secret other w.log ∧
    (r.2.orch.session other).radius.lastState = (w.orch.session other).radius.lastState
  own : (heard secret mac r.2.log = heard secret mac w.log ∧
      (r.2.orch.session mac).radius.lastState = (w.orch.session mac).radius.lastState) ∨
    ∃ reply, heard secret mac r.2.log = some reply ∧
      (r.2.orch.session mac).radius.lastState = extractState reply
  follows : ∀ event, r.1 = .ok (some event) →
    ∃ reply, heard secret mac r.2.log = some reply ∧ parseReply reply = .ok event

/-- Nothing is heard. -/
theorem Listens.silent {secret : Bytes} {mac : MacAddr} {w : World ω}
    {r : Except AuthdError (Option Event) × World ω}
    (log : ∀ other, heard secret other r.2.log = heard secret other w.log)
    (state : ∀ other, (r.2.orch.session other).radius.lastState =
      (w.orch.session other).radius.lastState)
    (last : ∀ event, r.1 ≠ .ok (some event)) : Listens secret mac w r :=
  ⟨fun other _ => ⟨log other, state other⟩, Or.inl ⟨log mac, state mac⟩,
    fun event done => absurd done (last event)⟩

/-- A reply that is logged for `mac` is heard there if it verifies. -/
theorem heard_reply (secret : Bytes) (mac : MacAddr) (log : List Entry) (request reply : Packet)
    (other : MacAddr) :
    heard secret other (log ++ [⟨some mac, .accessRequest request (.ok reply)⟩]) =
      if other = mac ∧ Verified secret request reply then some reply else heard secret other log := by
  rw [heard_append]
  show (if some mac = some other ∧ _ then _ else _) = _
  simp only [Option.some.injEq, eq_comm]

/-- A reply comes for the outstanding request, and the session handles it. -/
theorem Listens.reply {secret : Bytes} {mac : MacAddr} {w v : World ω} {request reply : Packet}
    {radius later : RadiusSession} {outcome : Except AuthdError Event}
    (grown : v.log = w.log ++ [⟨some mac, .accessRequest request (.ok reply)⟩])
    (replaced : ∀ other, (v.orch.session other).radius =
      if other = mac then later else (w.orch.session other).radius)
    (kept : radius.lastState = (w.orch.session mac).radius.lastState)
    (outstanding : radius.pending = some ⟨request.identifier, request.authenticator⟩)
    (handling : RadiusSession.Handling radius reply secret outcome later) :
    Listens secret mac w (outcome.map some, v) := by
  have log : ∀ other, heard secret other v.log =
      if other = mac ∧ Verified secret request reply then some reply
      else heard secret other w.log := by
    intro other
    rw [grown, heard_reply]
  have others : ∀ other, other ≠ mac → heard secret other v.log = heard secret other w.log ∧
      (v.orch.session other).radius.lastState = (w.orch.session other).radius.lastState := by
    intro other foreign
    rw [log, replaced, if_neg foreign, if_neg fun own => foreign own.1]
    exact ⟨rfl, rfl⟩
  have state : (v.orch.session mac).radius.lastState = later.lastState := by
    rw [replaced, if_pos rfl]
  have taken : Verified secret request reply → later.lastState = extractState reply →
      (∀ event, outcome = .ok event → parseReply reply = .ok event) →
      Listens secret mac w (outcome.map some, v) := by
    intro verified echoed parsed
    have here : heard secret mac v.log = some reply := by
      rw [log, if_pos ⟨rfl, verified⟩]
    refine ⟨others, Or.inr ⟨reply, here, state.trans echoed⟩, fun event done => ⟨reply, here, ?_⟩⟩
    cases outcome with
    | error e => cases done
    | ok event =>
        cases done
        exact parsed _ rfl
  cases handling with
  | idle empty =>
      rw [empty] at outstanding
      cases outstanding
  | refused pending known unbound =>
      cases known.symm.trans outstanding
      have here : heard secret mac v.log = heard secret mac w.log := by
        rw [log, if_neg fun both => unbound both.2]
      exact ⟨others, Or.inl ⟨here, state.trans kept⟩, by simp [Except.map]⟩
  | unparsed pending known identified verified e parsed =>
      cases known.symm.trans outstanding
      exact taken ⟨identified, verified⟩ rfl (by simp)
  | granted pending known identified verified a eap parsed =>
      cases known.symm.trans outstanding
      refine taken ⟨identified, verified⟩ rfl ?_
      rintro event ⟨⟩
      exact parsed
  | answered pending known identified verified event parsed other =>
      cases known.symm.trans outstanding
      refine taken ⟨identified, verified⟩ rfl ?_
      rintro event ⟨⟩
      exact parsed

/-- **A round-trip listens to its reply.** -/
theorem listens_roundTrip [LawfulRadiusProto] {mac : MacAddr}
    {build : RequestContext → Auth16 → Prog AuthdError RadiusSession Packet}
    (builds : Builds deps.secret build) {w : World ω} (serving : w.serving = some mac) :
    Listens deps.secret mac w (roundTrip deps mac build w) := by
  have kept := builds.lastState (w.orch.ctxFor mac)
    (deps.generateRequestAuthenticator w.env).1 (w.orch.session mac).radius
  rw [roundTrip_eq]
  dsimp only
  cases made : build (w.orch.ctxFor mac) (deps.generateRequestAuthenticator w.env).1
      (w.orch.session mac).radius with
  | mk outcome radius =>
  rw [made] at kept
  have same : ∀ (v : World ω), v.orch = w.orch → ∀ other,
      ((v.withRadius mac radius).orch.session other).radius.lastState =
        (w.orch.session other).radius.lastState := by
    intro v orch other
    rw [World.radius_withRadius, orch]
    split
    · rename_i own
      rw [kept, own]
    · rfl
  cases outcome with
  | error e => exact .silent (fun _ => rfl) (same _ rfl) (by simp)
  | ok request =>
      obtain ⟨pending, outstanding, requests⟩ := builds.pending _ _ _ _ _ made
      obtain ⟨identifier, authenticator, -⟩ := requests.builtFor
      dsimp only
      cases deps.accessRequest request (deps.generateRequestAuthenticator w.env).2 with
      | mk answer env =>
      cases answer with
      | error e =>
          refine .silent (fun other => ?_) (same _ rfl) (by simp)
          show heard deps.secret other (w.log ++ [⟨w.serving, _⟩]) = _
          rw [heard_append]
          rfl
      | ok reply =>
          have handling := RadiusSession.handleReply_handling radius reply deps.secret
          refine .reply (by rw [← serving]; rfl) ?_ kept
            (by rw [outstanding, identifier, authenticator]) handling
          intro other
          rw [World.radius_withRadius]
          split
          · rfl
          · rename_i foreign
            show ((World.withRadius _ mac radius).orch.session other).radius = _
            rw [World.radius_withRadius, if_neg foreign]

/-- **What an effect that asks about a MAC makes of the replies heard.** -/
theorem listens_dispatch [LawfulRadiusProto] {mac : MacAddr} (asked : de.asks = some mac)
    {w : World ω} (serving : w.serving = some mac) :
    Listens deps.secret mac w (dispatch deps de w) := by
  obtain ⟨build, same, builds⟩ := dispatch_asks deps asked
  rw [same]
  exact listens_roundTrip deps builds serving

theorem Listens.echoes {secret : Bytes} {mac : MacAddr} {w : World ω}
    {r : Except AuthdError (Option Event) × World ω} (listens : Listens secret mac w r)
    (echoes : Echoes secret w) : Echoes secret r.2 := by
  intro other
  by_cases own : other = mac
  · subst own
    rcases listens.own with ⟨log, state⟩ | ⟨reply, log, state⟩
    · rw [log, state]
      exact echoes other
    · rw [log, state]
      rfl
  · obtain ⟨log, state⟩ := listens.others other own
    rw [log, state]
    exact echoes other

end Heard

/-! ## The challenge that is answered -/

section Conversations

variable {ω : Type} [RadiusProto]

/-- A challenge that finds the session of `mac` waiting puts it into `Authenticating`. -/
def Moment.challenge (secret : Bytes) (mac : MacAddr) (last : Option Packet) :
    Moment ω → Option Packet
  | .expand (station, .accessChallenge _) w =>
      if station = mac ∧ foundIn w.pae mac = .authServer then heard secret mac w.log else last
  | _ => last

/-- The Access-Challenge that put the session of `mac` into `Authenticating`. -/
def challengeOf (secret : Bytes) (mac : MacAddr) (history : List (Moment ω)) : Option Packet :=
  history.foldl (Moment.challenge secret mac) none

theorem challengeOf_concat (secret : Bytes) (mac : MacAddr) (history : List (Moment ω))
    (x : Moment ω) :
    challengeOf secret mac (history ++ [x]) = x.challenge secret mac (challengeOf secret mac history) := by
  simp [challengeOf]

/-- An event of a session that is not waiting is no challenge to it. -/
theorem Moment.challenge_unasked (secret : Bytes) {mac : MacAddr} (last : Option Packet)
    (task : MacAddr × Event) (w : World ω)
    (unasked : task.1 ≠ mac ∨ foundIn w.pae mac ≠ .authServer) :
    Moment.challenge secret mac last (.expand task w) = last := by
  obtain ⟨station, event⟩ := task
  cases event with
  | accessChallenge eap =>
      refine if_neg ?_
      rintro ⟨own, waits⟩
      rcases unasked with foreign | calm
      · exact foreign own
      · exact calm waits
  | _ => rfl

/-- The last reply heard is the challenge that is being answered. -/
def ChallengedBy (secret : Bytes) (mac : MacAddr) (history : List (Moment ω)) (log : List Entry) :
    Prop :=
  ∃ reply, challengeOf secret mac history = some reply ∧ reply.code = .accessChallenge ∧
    heard secret mac log = some reply

/-- The event was read off the last reply heard. -/
def Announced (secret : Bytes) (w : World ω) (task : MacAddr × Event) : Prop :=
  ∃ reply, heard secret task.1 w.log = some reply ∧ parseReply reply = .ok task.2

/-- The invariant of a run with its history. -/
structure Conversing (cfg : PaeConfig) (secret : Bytes) (history : List (Moment ω)) (w : World ω) :
    Prop where
  port : Orderly cfg w.pae
  echoes : Echoes secret w
  challenged : ∀ mac, foundIn w.pae mac = .authenticating → ChallengedBy secret mac history w.log

/-- What holds besides inside the effects of one event.  A request is asked while the session
waits and nothing is queued, and since the event came nothing was heard. -/
structure Exchanging (secret : Bytes) (task : MacAddr × Event) (rest : List DirectedEffect)
    (queue : List (MacAddr × Event)) (history : List (Moment ω)) (w : World ω) : Prop where
  serving : w.serving = some task.1
  order : AsksThenArms rest
  aimed : ∀ de ∈ rest, ∀ other, de.asks = some other → other = task.1 ∧ de.mac = some task.1
  queued : queue.length ≤ 1 ∧ ∀ next ∈ queue, next.2.IsReply → Announced secret w next
  asking : (∃ de ∈ rest, de.effect.isRequest = true) → w.pae.Waiting task.1 ∧ queue = [] ∧
    ∃ w₀, entered history = some (task, w₀) ∧
      heard secret task.1 w.log = heard secret task.1 w₀.log ∧
      (foundIn w₀.pae task.1 = .authenticating → ChallengedBy secret task.1 history w₀.log)

variable {cfg : PaeConfig} {secret : Bytes} {history : List (Moment ω)} {w : World ω}
variable {task : MacAddr × Event}

theorem heard_feedPae (mac station : MacAddr) (event : Event) (w : World ω) :
    heard secret mac (feedPae station event w).2.log = heard secret mac w.log := by
  show heard secret mac (w.log ++ [⟨some station, _⟩]) = _
  rw [heard_append]
  rfl

/-- An event that was announced is fed to the PAE. -/
theorem Conversing.feed (conversing : Conversing cfg secret history w)
    (announced : task.2.IsReply → Announced secret w task) :
    Conversing cfg secret (history ++ [.expand task w]) (feedPae task.1 task.2 w).2 := by
  obtain ⟨port, echoes, challenged⟩ := conversing
  obtain ⟨-, P, inv⟩ := id port
  refine ⟨orderly_step cfg w.pae (.handle task.1 task.2) port, ?_, ?_⟩
  · intro mac
    rw [heard_feedPae]
    exact echoes mac
  · intro mac waits
    have same : task.1 ≠ mac ∨ foundIn w.pae mac ≠ .authServer →
        ChallengedBy secret mac history w.log →
        ChallengedBy secret mac (history ++ [.expand task w]) (feedPae task.1 task.2 w).2.log := by
      intro unasked held
      unfold ChallengedBy
      rwa [challengeOf_concat, Moment.challenge_unasked secret _ task w unasked, heard_feedPae]
    by_cases own : mac = task.1
    · subst own
      rcases handle_challenged inv waits with already | ⟨asked, eap, challenge⟩
      · exact same (Or.inr (by simp [already])) (challenged _ already)
      · obtain ⟨station, event⟩ := task
        cases challenge
        obtain ⟨reply, last, parsed⟩ := announced trivial
        refine ⟨reply, ?_, parseReply_challenge parsed, by rw [heard_feedPae, last]⟩
        rw [challengeOf_concat, ← last]
        exact if_pos ⟨rfl, asked⟩
    · refine same (Or.inl (Ne.symm own)) (challenged mac ?_)
      rwa [← foundIn_handle_of_ne inv task.2 own]

variable (deps : Deps ω) {de : DirectedEffect}

theorem challengedBy_act (mac : MacAddr) (log : List Entry) :
    ChallengedBy secret mac (history ++ [.act task de w]) log ↔ ChallengedBy secret mac history log := by
  unfold ChallengedBy
  rw [challengeOf_concat]
  rfl

/-- An effect is performed; if it asks, the session waits. -/
theorem Conversing.dispatch [LawfulRadiusProto]
    (conversing : Conversing cfg deps.secret history w) (serving : w.serving = some task.1)
    (aimed : ∀ other, de.asks = some other → other = task.1 ∧ w.pae.Waiting task.1) :
    Conversing cfg deps.secret (history ++ [.act task de w]) (dispatch deps de w).2 := by
  obtain ⟨port, echoes, challenged⟩ := conversing
  obtain ⟨calls, performed⟩ := dispatch_performed deps de w
  have pae : (Authd.dispatch deps de w).2.pae = w.pae := performed.pae
  cases asked : de.asks with
  | none =>
      refine ⟨by rwa [pae], echoes_quiet deps asked echoes, ?_⟩
      intro mac waits
      rw [pae] at waits
      rw [challengedBy_act, ChallengedBy, heard_quiet deps asked]
      exact challenged mac waits
  | some other =>
      obtain ⟨rfl, s, found, waiting⟩ := aimed other asked
      have listens := listens_dispatch deps asked serving
      refine ⟨by rwa [pae], listens.echoes echoes, ?_⟩
      intro mac waits
      rw [pae] at waits
      by_cases own : mac = task.1
      · subst own
        rw [foundIn, found, Option.map_some, Option.getD_some, waiting] at waits
        cases waits
      · rw [challengedBy_act, ChallengedBy, (listens.others mac own).1]
        exact challenged mac waits

variable {rest : List DirectedEffect} {queue : List (MacAddr × Event)}

/-- An event is fed while nothing else is queued. -/
theorem Exchanging.enter (conversing : Conversing cfg secret history w) :
    Exchanging secret task (feedPae task.1 task.2 w).1 [] (history ++ [.expand task w])
      (feedPae task.1 task.2 w).2 := by
  obtain ⟨-, P, inv⟩ := conversing.port
  have waits := PortPae.handle_waits inv task.1 task.2
  refine ⟨rfl, w.pae.handle_order task.1 task.2,
    fun de member other => w.pae.handle_asks task.1 task.2 member, ⟨by simp, by simp⟩,
    fun asks => ⟨waits asks, rfl, w, entered_expand .., heard_feedPae .., ?_⟩⟩
  intro found
  have held := conversing.challenged task.1 found
  unfold ChallengedBy
  rwa [challengeOf_concat, Moment.challenge_unasked secret _ task w (Or.inr (by simp [found]))]

/-- What is left to do after an effect. -/
theorem Exchanging.act [LawfulRadiusProto]
    (exchanging : Exchanging deps.secret task (de :: rest) queue history w) {follow : Option Event}
    (done : (dispatch deps de w).1 = .ok follow) :
    Exchanging deps.secret task rest
      (queue ++ (follow.map fun event => (de.mac.getD task.1, event)).toList)
      (history ++ [.act task de w]) (dispatch deps de w).2 := by
  obtain ⟨serving, order, aimed, ⟨short, queued⟩, asking⟩ := exchanging
  obtain ⟨calls, performed⟩ := dispatch_performed deps de w
  have still : (dispatch deps de w).2.serving = some task.1 := by rw [performed.serving, serving]
  have pae : (dispatch deps de w).2.pae = w.pae := performed.pae
  have behind : ∀ next ∈ rest, ∀ other, next.asks = some other →
      other = task.1 ∧ next.mac = some task.1 :=
    fun next member => aimed next (List.mem_cons_of_mem _ member)
  cases asked : de.asks with
  | none =>
      obtain rfl := dispatch_quiet_follow deps asked done
      rw [Option.map_none, Option.toList_none, List.append_nil]
      refine ⟨still, order.2, behind, ⟨short, ?_⟩, ?_⟩
      · intro next member isReply
        unfold Announced
        rw [heard_quiet deps asked]
        exact queued next member isReply
      · rintro ⟨next, member, asks⟩
        obtain ⟨waiting, empty, w₀, begun, same, challenged⟩ :=
          asking ⟨next, List.mem_cons_of_mem _ member, asks⟩
        refine ⟨by rwa [pae], empty, w₀, by rwa [entered_act], by rwa [heard_quiet deps asked], ?_⟩
        rwa [challengedBy_act]
  | some other =>
      have asks := DirectedEffect.isRequest_of_asks asked
      obtain ⟨rfl, directed⟩ := aimed de List.mem_cons_self other asked
      obtain ⟨-, rfl, -⟩ := asking ⟨de, List.mem_cons_self, asks⟩
      have listens := listens_dispatch deps asked serving
      refine ⟨still, order.2, behind, ?_, fun more => absurd more (order.last asks)⟩
      rw [directed, Option.getD_some, List.nil_append]
      cases follow with
      | none => exact ⟨by simp, by simp⟩
      | some event =>
          refine ⟨by simp, ?_⟩
          intro next member _
          rw [List.mem_singleton.mp member]
          exact listens.follows event done

/-- **Every event and every effect keeps the conversations apart.** -/
theorem keeps_conversing [LawfulRadiusProto] (cfg : PaeConfig) :
    (eventQueue deps).traced.Keeps (fun _ _ _ => True)
      (fun queue s => Conversing cfg deps.secret s.2 s.1 ∧ queue.length ≤ 1 ∧
        ∀ next ∈ queue, next.2.IsReply → Announced deps.secret s.1 next)
      (fun task rest queue s => Conversing cfg deps.secret s.2 s.1 ∧
        Exchanging deps.secret task rest queue s.2 s.1)
      (fun s => Conversing cfg deps.secret s.2 s.1) := by
  have performs : ∀ {task : MacAddr × Event} {de : DirectedEffect} {rest : List DirectedEffect}
      {queue : List (MacAddr × Event)} {w : World ω} {history : List (Moment ω)},
      Conversing cfg deps.secret history w → Exchanging deps.secret task (de :: rest) queue history w →
      Conversing cfg deps.secret (history ++ [.act task de w]) (dispatch deps de w).2 := by
    intro task de rest queue w history conversing exchanging
    refine conversing.dispatch deps exchanging.serving fun other asked => ?_
    obtain ⟨own, -⟩ := exchanging.aimed de List.mem_cons_self other asked
    exact ⟨own, (exchanging.asking ⟨de, List.mem_cons_self, DirectedEffect.isRequest_of_asks asked⟩).1⟩
  refine traced_keeps ?_ ?_ ?_ ?_
  · rintro task queue w history ⟨conversing, short, announced⟩
    obtain rfl : queue = [] := by simpa using short
    exact ⟨conversing.feed (announced task List.mem_cons_self), .enter conversing⟩
  · rintro task de rest queue w history follow ⟨conversing, exchanging⟩ done
    exact ⟨performs conversing exchanging, exchanging.act deps done⟩
  · rintro task de rest queue w history e ⟨conversing, exchanging⟩ -
    exact performs conversing exchanging
  · rintro task queue s ⟨conversing, exchanging⟩
    exact ⟨conversing, exchanging.queued⟩

/-- A request for `mac` echoes the last reply heard before its event came; if the event found
the session in `Authenticating`, that is the challenge that is being answered. -/
def Sources (secret : Bytes) (mac : MacAddr) (before : List (Moment ω)) (w : World ω) : Prop :=
  ∃ task w₀, entered before = some (task, w₀) ∧
    (w.orch.session mac).radius.lastState = (heard secret mac w₀.log).bind extractState ∧
    (foundIn w₀.pae mac = .authenticating → ChallengedBy secret mac before w₀.log)

/-- **Every request of every run has such a source.** -/
theorem history_sources [LawfulRadiusProto] {port : String} {ctxTemplate : RequestContext}
    {cfg : PaeConfig} {env : ω} {inputs : List (MacAddr × Event)}
    (produced : ∀ input ∈ inputs, ¬ input.2.IsReply) {before : List (Moment ω)} {x : Moment ω}
    (within : before ++ [x] <+: Authd.history deps (.start port ctxTemplate cfg env) inputs)
    {mac : MacAddr} {eap : Bytes} (relays : relayedAt mac x = some eap) :
    Sources deps.secret mac before x.state := by
  let unsourced : List (Moment ω) → Moment ω → Prop := fun before x =>
    ∃ mac eap, relayedAt mac x = some eap ∧ ¬ Sources deps.secret mac before x.state
  have keeps := (keeps_conversing deps cfg).never (Q := unsourced) ?_ ?_
  · let kept : World ω × List (Moment ω) → Prop := fun s =>
      Conversing cfg deps.secret s.2 s.1 ∧ Never unsourced s.2
    have start : kept (World.start port ctxTemplate cfg env, []) :=
      ⟨⟨orderly_new cfg, fun _ => rfl, fun _ waits => nomatch waits⟩, never_nil⟩
    have enters : ∀ (mac : MacAddr) (event : Event) (s : World ω × List (Moment ω)),
        ¬ event.IsReply → kept s → (Conversing cfg deps.secret s.2 s.1 ∧ [(mac, event)].length ≤ 1 ∧
          ∀ next ∈ [(mac, event)], next.2.IsReply → Announced deps.secret s.1 next) ∧
          Never unsourced s.2 := by
      rintro mac event s unannounced ⟨conversing, calm⟩
      refine ⟨⟨conversing, by simp, ?_⟩, calm⟩
      intro next member isReply
      rw [List.mem_singleton.mp member] at isReply
      exact absurd isReply unannounced
    have sourced : kept (serveTraced deps (.start port ctxTemplate cfg env, []) inputs) :=
      serveTraced_invariant keeps enters (fun queue s held => ⟨held.1.1, held.2⟩)
        (fun _ held => held) start produced
    by_contra missing
    exact sourced.2 before x within ⟨mac, eap, relays, missing⟩
  · rintro task queue s - ⟨mac, eap, relays, -⟩
    cases relays
  · rintro task de rest queue s ⟨conversing, exchanging⟩ ⟨mac, eap, relays, missing⟩
    have asked : de.asks = some mac := asks_of_relayedFor relays
    obtain ⟨rfl, -⟩ := exchanging.aimed de List.mem_cons_self mac asked
    obtain ⟨-, -, w₀, begun, same, challenged⟩ :=
      exchanging.asking ⟨de, List.mem_cons_self, DirectedEffect.isRequest_of_asks asked⟩
    refine missing ⟨task, w₀, begun, ?_, challenged⟩
    rw [← same]
    exact conversing.echoes task.1

end Conversations

/-! ## The main result -/

section Main

variable {ω : Type} [RadiusProto]

/-- The request carries no State if its event found the session in `Connecting`, and the State
of the challenge that put it there if the event found it in `Authenticating`. -/
structure OwnState (secret : Bytes) (mac : MacAddr) (before : List (Moment ω)) (w₀ : World ω)
    (request : Packet) : Prop where
  fresh : foundIn w₀.pae mac = .connecting → extractState request = none
  echoed : foundIn w₀.pae mac = .authenticating →
    ∃ reply, challengeOf secret mac before = some reply ∧ reply.code = .accessChallenge ∧
      extractState request = extractState reply

/-- **A request keeps to its own conversation exactly when the last one left no State.**  In
every run on events that are no replies, at every EAP Access-Request made for `mac`, with `w₀`
the world in which its event was received: the request carries no State if the event found the
session in `Connecting`, and that of the challenge if it found it in `Authenticating`, if and
only if it was not found in `Connecting` or the last verified reply for `mac` had no State. -/
theorem state_own_iff [LawfulRadiusProto] (deps : Deps ω) (port : String)
    (ctxTemplate : RequestContext) (cfg : PaeConfig) (env : ω) (inputs : List (MacAddr × Event))
    (produced : ∀ input ∈ inputs, ¬ input.2.IsReply) (before : List (Moment ω)) (x : Moment ω)
    (within : before ++ [x] <+: history deps (.start port ctxTemplate cfg env) inputs)
    (mac : MacAddr) (eap : Bytes) (relays : relayedAt mac x = some eap) (request : Packet)
    (built : (builtRequest deps mac eap x.state).1 = .ok request) (task : MacAddr × Event)
    (w₀ : World ω) (begun : entered before = some (task, w₀)) :
    OwnState deps.secret mac before w₀ request ↔
      (foundIn w₀.pae mac = .connecting → (heard deps.secret mac w₀.log).bind extractState = none) := by
  obtain ⟨task', w₀', begun', kept, challenged⟩ := history_sources deps produced within relays
  cases begun.symm.trans begun'
  have carried : extractState request = (heard deps.secret mac w₀.log).bind extractState := by
    rw [builtRequest_eq] at built
    rw [accessRequestEap_state (mapError_eq_ok.mp built), kept]
  refine ⟨fun own found => ?_, fun clear => ⟨fun found => ?_, fun found => ?_⟩⟩
  · rw [← carried]
    exact own.fresh found
  · rw [carried]
    exact clear found
  · obtain ⟨reply, known, code, last⟩ := challenged found
    refine ⟨reply, known, code, ?_⟩
    rw [carried, last]
    rfl

end Main

section Witness

attribute [local instance] exchangeProto

/-- A server that challenges twice. -/
def twoChallenges : Site.Script := ⟨[.ok challenge, .ok { challenge with identifier := 1 }], []⟩

/-- `alice` gives her identity, and answers the challenge with a Nak. -/
def answering : List (MacAddr × Event) :=
  [identityInput, (Site.station, .eapFromSupplicant ⟨.response, 2, some .nak, nakResponse⟩)]

def answeringHistory : List (Moment Site.Script) :=
  history socketDeps (Site.start twoChallenges) answering

def answerPlace : Fin answeringHistory.length := ⟨13, by decide +kernel⟩

/-- The request for the Nak of `alice` echoes the State of the challenge. -/
theorem state_own_nak :
    ∃ before x task w₀ request, before ++ [x] <+: answeringHistory ∧
      relayedAt Site.station x = some nakResponse ∧ entered before = some (task, w₀) ∧
      foundIn w₀.pae Site.station = .authenticating ∧
      extractState request = some [0x73, 0x31] ∧
      OwnState socketDeps.secret Site.station before w₀ request := by
  have lawful : LawfulRadiusProto := codec_lawful exchangeDigests
  have within := prefix_at answeringHistory answerPlace
  have relays : relayedAt Site.station (answeringHistory.get answerPlace) = some nakResponse := by
    decide +kernel
  have found : (entered (answeringHistory.take answerPlace)).map
      (fun begun => foundIn begun.2.pae Site.station) = some .authenticating := by
    decide +kernel
  have sent : (builtRequest socketDeps Site.station nakResponse
      (answeringHistory.get answerPlace).state).1.toOption.map extractState =
        some (some [0x73, 0x31]) := by
    decide +kernel
  obtain ⟨⟨task, w₀⟩, begun, waits⟩ := Option.map_eq_some_iff.mp found
  cases built : (builtRequest socketDeps Site.station nakResponse
      (answeringHistory.get answerPlace).state).1 with
  | error e =>
      rw [built] at sent
      cases sent
  | ok request =>
      rw [built] at sent
      have produced : ∀ input ∈ answering, ¬ input.2.IsReply := by
        simp [answering, identityInput, Event.IsReply]
      refine ⟨_, _, task, w₀, request, within, relays, begun, waits, Option.some.inj sent, ?_⟩
      refine (state_own_iff socketDeps "Ethernet4" Site.context Site.config twoChallenges answering
        produced _ _ within Site.station nakResponse relays request built task w₀ begun).mpr ?_
      intro fresh
      rw [fresh] at waits
      cases waits

def twiceHistory : List (Moment Site.Script) :=
  history socketDeps (Site.start twoChallenges) relogin

def twicePlace : Fin twiceHistory.length := ⟨19, by decide +kernel⟩

/-- `alice` logs off before she answers.  The first request of the next session echoes the
State of the challenge to `alice`, with every call made for them succeeding. -/
theorem logged_off_state_sent :
    ¬ ∀ (deps : Deps Site.Script) (port : String) (ctxTemplate : RequestContext) (cfg : PaeConfig)
      (env : Site.Script) (inputs : List (MacAddr × Event)),
      (∀ input ∈ inputs, ¬ input.2.IsReply) →
      Unfailing deps.secret [] (serve deps (.start port ctxTemplate cfg env) inputs).log →
      ∀ (before : List (Moment Site.Script)) (x : Moment Site.Script),
        before ++ [x] <+: history deps (.start port ctxTemplate cfg env) inputs →
        ∀ (mac : MacAddr) (eap : Bytes), relayedAt mac x = some eap → ∀ request : Packet,
          (builtRequest deps mac eap x.state).1 = .ok request → ∀ task w₀,
            entered before = some (task, w₀) → OwnState deps.secret mac before w₀ request := by
  intro claim
  have within := prefix_at twiceHistory twicePlace
  have relays : relayedAt Site.station (twiceHistory.get twicePlace) = some nakResponse := by
    decide +kernel
  have found : (entered (twiceHistory.take twicePlace)).map
      (fun begun => foundIn begun.2.pae Site.station) = some .connecting := by
    decide +kernel
  have sent : (builtRequest socketDeps Site.station nakResponse
      (twiceHistory.get twicePlace).state).1.toOption.map extractState =
        some (some [0x73, 0x31]) := by
    decide +kernel
  obtain ⟨⟨task, w₀⟩, begun, waits⟩ := Option.map_eq_some_iff.mp found
  cases built : (builtRequest socketDeps Site.station nakResponse
      (twiceHistory.get twicePlace).state).1 with
  | error e =>
      rw [built] at sent
      cases sent
  | ok request =>
      rw [built] at sent
      have produced : ∀ input ∈ relogin, ¬ input.2.IsReply := by
        simp [relogin, identityInput, Event.IsReply]
      have unfailing : Unfailing socketDeps.secret []
          (serve socketDeps (Site.start twoChallenges) relogin).log :=
        ⟨_, (List.nil_append _).symm, by decide +kernel⟩
      have own := claim socketDeps "Ethernet4" Site.context Site.config twoChallenges relogin
        produced unfailing _ _ within Site.station nakResponse relays request built task w₀ begun
      exact absurd ((own.fresh waits).symm.trans (Option.some.inj sent)) (by simp)

end Witness

end Authenticator.Authd
