/-
# Authd.RadSecServer -- the port on its RadSec connection

`RadSecServer` puts every request of a port, Access-Request or Accounting-Request of whatever
session, on one connection, one at a time.  `overRadSec` binds the orchestrator to it.

The connection cannot tell whose answer it reads, and the Identifiers of different sessions
collide.  What keeps the replies apart is that a port ends with the first call that fails: it
never reads on a connection on which an answer is late (`port_replies_own`).
-/
import Authenticator.Radsec.Connection
import Authenticator.Authd.PortLoop

namespace Authenticator.Authd

set_option autoImplicit false

open Authenticator.Pacp Authenticator.Pae Authenticator.Radius Authenticator.Theory
open Authenticator.Radsec Authenticator.Radsec.RadSecConnection
open Authenticator.Theory.Timers (Background)

section Code

variable {ω σ : Type}

/-- A call that does not concern the connection. -/
def offConnection {ε α : Type} (m : Prog ε ω α) : Prog ε (ω × σ) α :=
  m.zoom Prod.fst fun env t => (env, t.2)

/-- A call of the connection. -/
def onConnection {ε α : Type} (m : Prog ε σ α) : Prog ε (ω × σ) α :=
  m.zoom Prod.snd fun s t => (t.1, s)

def Opening.beside (opening : Opening ω) : Opening (ω × σ) where
  ensureEapolTrap port := offConnection (opening.ensureEapolTrap port)
  openSocket port := offConnection (opening.openSocket port)

variable [RadiusProto] [PacketDecode] (conn : RadSecConnection σ)

/-- `RadSecServer::access_request`. -/
def radSecAccessRequest (request : Packet) : Prog AuthdError σ Packet :=
  (conn.request request).mapError fun _ => .radSec

/-- `RadSecServer::accounting`: the response is read and discarded. -/
def radSecAccounting (request : Packet) : Prog AuthdError σ Unit := do
  let _ ← (conn.request request).mapError fun _ => AuthdError.radSec
  return ()

/-- The boundaries of `base`, with the connection in place of its server. -/
def overRadSec (base : Deps ω) : Deps (ω × σ) where
  sendEap mac eap := offConnection (base.sendEap mac eap)
  accessRequest request := onConnection (radSecAccessRequest conn request)
  accounting request := onConnection (radSecAccounting conn request)
  apply port target auth := offConnection (base.apply port target auth)
  arm mac kind secs t := (base.arm mac kind secs t.1, t.2)
  cancel mac kind t := (base.cancel mac kind t.1, t.2)
  cancelAll mac t := (base.cancelAll mac t.1, t.2)
  generateRequestAuthenticator t :=
    ((base.generateRequestAuthenticator t.1).1, ((base.generateRequestAuthenticator t.1).2, t.2))
  timers := base.timers
  secret := base.secret

end Code

/-- **The connection keeps the contract that the orchestrator relies on**, as soon as the codec
decodes no attribute that is longer than its length octet can say. -/
theorem overRadSec_contract {ω σ : Type} [RadiusProto] [PacketDecode] (base : Deps ω)
    (conn : RadSecConnection σ)
    (sized : ∀ (octets : Bytes) (p : Packet), PacketDecode.decode octets = .ok p →
      ∀ a ∈ p.attributes, a.value.length ≤ maxAttrValue) :
    OverRadSec (overRadSec conn base) := by
  have answered : ∀ request (t : ω × σ) reply t',
      (overRadSec conn base).accessRequest request t = (.ok reply, t') →
        conn.request request t.2 = (.ok reply, t'.2) := by
    intro request t reply t' done
    have call : (radSecAccessRequest conn request t.2).1 = .ok reply := congrArg Prod.fst done
    have left : (radSecAccessRequest conn request t.2).2 = t'.2 := congrArg (fun r => r.2.2) done
    exact Prog.mapError_eq_ok_iff.mp (Prod.ext call left)
  refine ⟨fun request t reply t' done => ?_, fun request t reply t' done => ?_⟩
  · exact (request_ok (answered request t reply t' done)).1
  · obtain ⟨-, octets, decoded⟩ := request_ok (answered request t reply t' done)
    exact sized octets reply decoded

/-- **What stops a port whose server is a RadSec connection.**  At every state of every run of the
orchestrator over the connection, for every frame the socket receives: if every call made for
it succeeds, it is served if and only if it is not relayed or its name conforms. -/
theorem frame_served_overRadSec_iff {ω σ : Type} [RadiusProto] [LawfulRadiusProto]
    [SizedRadiusProto] [PacketDecode] (base : Deps ω) (conn : RadSecConnection σ)
    (codec : ∀ (octets : Bytes) (p : Packet), PacketDecode.decode octets = .ok p →
      ∀ a ∈ p.attributes, a.value.length ≤ maxAttrValue)
    (port : String) (interface : (utf8 port).length < ifNameSize) (ctxTemplate : RequestContext)
    (sized : ctxTemplate.Sized) (cfg : PaeConfig) (env : ω × σ) (inputs : List (MacAddr × Event))
    (bytes : Bytes) (received : bytes.length ≤ frameCap) :
    let deps := overRadSec conn base
    let w := serve deps (.start port ctxTemplate cfg env) inputs
    Unfailing deps.secret w.log (dispatchFrame deps bytes w).2.log →
      ((dispatchFrame deps bytes w).1 = .ok () ↔ FrameConforms w bytes) := by
  intro deps w unfailing
  have contract : OverRadSec deps := overRadSec_contract base conn codec
  have serving : Serving w := serving_serve contract.sized interface sized cfg env inputs
  exact dispatchFrame_ok_iff contract serving received unfailing

/-! ## What the log says was asked -/

/-- The request of a call. -/
def Call.request : Call → Option Packet
  | .accessRequest request _ | .accounting request _ => some request
  | _ => none

/-- The requests that were put on the connection, in order. -/
def requestsOf (log : List Entry) : List Packet := log.filterMap fun entry => entry.call.request

/-- A reply that is not the server's answer to the request it was returned for. -/
def Misattributed [RadiusProto] (answer : List Bytes → Packet) (before : List Entry) (entry : Entry) :
    Prop :=
  ∃ request reply, entry.call = .accessRequest request (.ok reply) ∧
    ¬ (reply = answer ((requestsOf before ++ [request]).map wire) ∧
      reply.identifier = request.identifier)

/-! ## A port in step -/

section Attached

variable {ρ σ : Type} [RadiusProto] [PacketDecode]

/-- The requests of an environment go over the connection, and nothing else touches it. -/
structure Attached (deps : Deps ρ) (view : ρ → σ) (conn : RadSecConnection σ) : Prop where
  sendEap : ∀ mac eap env, view (deps.sendEap mac eap env).2 = view env
  apply : ∀ port target auth env, view (deps.apply port target auth env).2 = view env
  arm : ∀ mac kind secs env, view (deps.arm mac kind secs env) = view env
  cancel : ∀ mac kind env, view (deps.cancel mac kind env) = view env
  cancelAll : ∀ mac env, view (deps.cancelAll mac env) = view env
  generate : ∀ env, view (deps.generateRequestAuthenticator env).2 = view env
  accessRequest : ∀ request env reply env', deps.accessRequest request env = (.ok reply, env') →
    conn.request request (view env) = (.ok reply, view env')
  accounting : ∀ request env env', deps.accounting request env = (.ok (), env') →
    ∃ reply, conn.request request (view env) = (.ok reply, view env')

theorem attached_overRadSec {ω : Type} (base : Deps ω) (conn : RadSecConnection σ) :
    Attached (onTokio (overRadSec conn base)) (fun r => r.env.2) conn := by
  have kept : ∀ r : Runtime (ω × σ), r.interlude.env = r.env := by
    intro r
    rw [Runtime.interlude_env]
  have same : ∀ r : Runtime (ω × σ), r.interlude.env.2 = r.env.2 := fun r =>
    congrArg Prod.snd (kept r)
  have answered : ∀ (request : Packet) (s s' : σ) (reply : Packet),
      radSecAccessRequest conn request s = (.ok reply, s') →
        conn.request request s = (.ok reply, s') := fun request s s' reply done =>
    Prog.mapError_eq_ok_iff.mp done
  refine ⟨?_, ?_, ?_, ?_, ?_, ?_, ?_, ?_⟩
  · intro mac eap env
    exact same env
  · intro port target auth env
    exact same env
  · intro mac kind secs env
    exact same env
  · intro mac kind env
    exact same env
  · intro mac env
    exact same env
  · intro env
    exact same env
  · intro request env reply env' done
    have call : (radSecAccessRequest conn request env.interlude.env.2).1 = .ok reply :=
      congrArg Prod.fst done
    have left : (radSecAccessRequest conn request env.interlude.env.2).2 = env'.env.2 :=
      congrArg (fun r => r.2.env.2) done
    rw [kept] at call left
    exact answered request _ _ reply (Prod.ext call left)
  · intro request env env' done
    have call : (radSecAccounting conn request env.interlude.env.2).1 = .ok () :=
      congrArg Prod.fst done
    have left : (radSecAccounting conn request env.interlude.env.2).2 = env'.env.2 :=
      congrArg (fun r => r.2.env.2) done
    rw [kept] at call left
    obtain ⟨reply, s', taken, last⟩ := Prog.bind_eq_ok_iff.mp (Prod.ext call left)
    obtain rfl : s' = env'.env.2 := congrArg Prod.snd last
    exact ⟨reply, answered request _ _ reply taken⟩

variable {deps : Deps ρ} {view : ρ → σ} {conn : RadSecConnection σ}
variable {answer : List Bytes → Packet} {w : World ρ}

/-- The connection is in step with the log, and every reply was its own. -/
structure OnTrack (view : ρ → σ) (peer : Peer conn answer) (w : World ρ) : Prop where
  asked : peer.asked (view w.env) = (requestsOf w.log).map wire
  owed : peer.owed (view w.env) = []
  own : Never (Misattributed answer) w.log

omit [PacketDecode] in
/-- An entry that is no reply is added. -/
theorem own_unanswered {log : List Entry} (own : Never (Misattributed answer) log) {entry : Entry}
    (unanswered : ∀ request reply, entry.call ≠ .accessRequest request (.ok reply)) :
    Never (Misattributed answer) (log ++ [entry]) := by
  refine never_concat.mpr ⟨own, ?_⟩
  rintro ⟨request, reply, same, -⟩
  exact unanswered request reply same

omit [RadiusProto] [PacketDecode] in
theorem requestsOf_concat (log : List Entry) (entry : Entry) :
    requestsOf (log ++ [entry]) = requestsOf log ++ entry.call.request.toList := by
  unfold requestsOf
  rw [List.filterMap_append]
  cases known : entry.call.request <;> simp [known]

omit [PacketDecode] in
/-- An entry that asks nothing, and does not touch the connection. -/
theorem OnTrack.quiet {peer : Peer conn answer} (track : OnTrack view peer w) {env : ρ}
    (kept : view env = view w.env) {entry : Entry} (asksNothing : entry.call.request = none)
    {w' : World ρ} (left : w'.env = env) (log : w'.log = w.log ++ [entry]) :
    OnTrack view peer w' := by
  obtain ⟨asked, owed, own⟩ := track
  have unanswered : ∀ request reply, entry.call ≠ .accessRequest request (.ok reply) := by
    intro request reply same
    rw [same] at asksNothing
    cases asksNothing
  refine ⟨?_, ?_, ?_⟩
  · rw [left, kept, log, requestsOf_concat, asksNothing, Option.toList_none, List.append_nil]
    exact asked
  · rw [left, kept]
    exact owed
  · rw [log]
    exact own_unanswered own unanswered

/-- A request that is answered: the reply is its own. -/
theorem OnTrack.request {peer : Peer conn answer} (framed : ∀ asked, Framed (answer asked))
    (track : OnTrack view peer w) {env env' : ρ} (kept : view env = view w.env)
    {request reply : Packet}
    (done : conn.request request (view env) = (.ok reply, view env')) {entry : Entry}
    (asks : entry.call.request = some request)
    (answers : ∀ request' reply', entry.call = .accessRequest request' (.ok reply') →
      request' = request ∧ reply' = reply)
    {w' : World ρ} (left : w'.env = env') (log : w'.log = w.log ++ [entry]) :
    OnTrack view peer w' := by
  obtain ⟨asked, owed, own⟩ := track
  rw [kept] at done
  obtain ⟨mine, agrees, asked', owed'⟩ := request_own peer framed owed done
  have history : peer.asked (view w.env) ++ [wire request] =
      (requestsOf w.log ++ [request]).map wire := by
    rw [asked, List.map_append]
    rfl
  rw [history] at mine asked'
  refine ⟨?_, ?_, ?_⟩
  · rw [left, log, requestsOf_concat, asks]
    exact asked'
  · rw [left]
    exact owed'
  · rw [log]
    refine never_concat.mpr ⟨own, ?_⟩
    rintro ⟨request', reply', same, other⟩
    obtain ⟨rfl, rfl⟩ := answers request' reply' same
    exact other ⟨mine, agrees⟩

/-- What performing an effect leaves: a port on track, unless it failed, and replies that are
their own. -/
theorem Dispatched.onTrack (attached : Attached deps view conn) {peer : Peer conn answer}
    (framed : ∀ asked, Framed (answer asked)) (track : OnTrack view peer w) {port : String}
    {env' : ρ} {de : DirectedEffect} {calls : List Call}
    {result : Except AuthdError (Option Event)}
    (outcome : Dispatched deps port w.env de calls env' result) {w' : World ρ} (left : w'.env = env')
    (log : w'.log = w.log ++ calls.map fun call => ⟨w.serving, call⟩) :
    ((∃ follow, result = .ok follow) → OnTrack view peer w') ∧ Never (Misattributed answer) w'.log := by
  have both : OnTrack view peer w' → ((∃ follow, result = .ok follow) → OnTrack view peer w') ∧
      Never (Misattributed answer) w'.log := fun later => ⟨fun _ => later, later.own⟩
  have idle : ∀ env, view env = view w.env → w'.env = env → w'.log = w.log →
      OnTrack view peer w' := by
    intro env kept left log
    obtain ⟨asked, owed, own⟩ := track
    refine ⟨?_, ?_, ?_⟩
    · rw [left, kept, log]
      exact asked
    · rw [left, kept]
      exact owed
    · rw [log]
      exact own
  cases outcome with
  | idle => exact both (idle _ rfl left (by simpa using log))
  | unarmed => exact both (idle _ rfl left (by simpa using log))
  | unaccounted => exact both (idle _ rfl left (by simpa using log))
  | refused => exact both (idle _ (attached.generate _) left (by simpa using log))
  | sent mac eap => exact both (track.quiet (attached.sendEap mac eap _) rfl left log)
  | applied mac auth => exact both (track.quiet (attached.apply _ _ auth _) rfl left log)
  | armed mac kind secs => exact both (track.quiet (attached.arm mac kind secs _) rfl left log)
  | cancelled mac kind => exact both (track.quiet (attached.cancel mac kind _) rfl left log)
  | cancelledAll mac => exact both (track.quiet (attached.cancelAll mac _) rfl left log)
  | unanswered _ mac asked request e _ called =>
      refine ⟨fun ⟨follow, contrary⟩ => (by cases contrary), ?_⟩
      rw [log]
      exact own_unanswered track.own (by simp)
  | discarded _ mac asked request reply e _ called =>
      have done := attached.accessRequest request _ reply _ called
      exact both (track.request framed (attached.generate _) done rfl (by simp +contextual) left log)
  | answered _ mac asked request reply pending event _ called =>
      have done := attached.accessRequest request _ reply _ called
      exact both (track.request framed (attached.generate _) done rfl (by simp +contextual) left log)
  | accounted mac trigger request =>
      cases called : deps.accounting request w.env with
      | mk answer env =>
      rw [called] at left log
      cases answer with
      | ok u =>
          obtain ⟨reply, done⟩ := attached.accounting request _ _ called
          have later := track.request framed rfl done rfl (by simp) left log
          exact ⟨fun _ => later, later.own⟩
      | error e =>
          refine ⟨fun ⟨follow, contrary⟩ => (by cases contrary), ?_⟩
          have unanswered : ∀ sent reply, (⟨w.serving, .accounting request (.error e)⟩ : Entry).call ≠
              .accessRequest sent (.ok reply) := by simp
          rw [log]
          exact own_unanswered track.own unanswered

/-- An effect that succeeds keeps the port on track, and none returns a stranger's reply. -/
theorem ends_dispatch_onTrack (attached : Attached deps view conn) (peer : Peer conn answer)
    (framed : ∀ asked, Framed (answer asked)) (de : DirectedEffect)
    (track : OnTrack view peer w) :
    Prog.Ends (fun _ w' => OnTrack view peer w') (fun w' => Never (Misattributed answer) w'.log)
      (dispatch deps de w) := by
  obtain ⟨calls, performed⟩ := dispatch_performed deps de w
  obtain ⟨later, own⟩ := performed.outcome.onTrack attached framed track rfl performed.log
  cases ran : dispatch deps de w with
  | mk result w' =>
  rw [ran] at later own
  cases result with
  | ok follow => exact later ⟨follow, rfl⟩
  | error e => exact own

end Attached

/-! ## Whole runs -/

/-- **Every reply a port takes is the answer to its own request.**  Whatever the sessions of the
port ask and in whatever order, whatever the other boundaries answer and whenever the timers
fire: in every run of `run_port` on a fresh connection to a server that answers in order, late
or not, each Access-Request that is answered got the server's answer to itself, with its
Identifier. -/
theorem port_replies_own {ω σ : Type} [RadiusProto] [PacketDecode] (base : Deps ω)
    {conn : RadSecConnection σ} {answer : List Bytes → Packet} (peer : Peer conn answer)
    (framed : ∀ asked, Framed (answer asked)) (opening : Opening ω) (port : String)
    (ctxTemplate : RequestContext) (cfg : PaeConfig) (schedule : List (List (Background TimerKey)))
    (env : ω) (s : σ) (fresh : peer.asked s = [] ∧ peer.owed s = []) (picks : List Pick) :
    let run := runPortUntilError (overRadSec conn base) opening.beside port cfg picks
      (.start port ctxTemplate cfg ⟨.new, schedule, (env, s)⟩)
    ∀ before entry after, run.2.log = before ++ entry :: after → ∀ request reply,
      entry.call = .accessRequest request (.ok reply) →
        reply = answer ((requestsOf before ++ [request]).map wire) ∧
          reply.identifier = request.identifier := by
  intro run
  have attached := attached_overRadSec base conn
  have acts : ∀ (de : DirectedEffect) (w : World (Runtime (ω × σ))),
      OnTrack (fun r => r.env.2) peer w →
      Prog.Ends (fun _ w' => OnTrack (fun r => r.env.2) peer w')
        (fun w' => Never (Misattributed answer) w'.log) (dispatch (onTokio (overRadSec conn base)) de w) :=
    fun de _ track => ends_dispatch_onTrack attached peer framed de track
  have unseen : ∀ (w : World (Runtime (ω × σ))) (runtime : Runtime (ω × σ)),
      runtime.env.2 = w.env.env.2 → OnTrack (fun r => r.env.2) peer w →
        OnTrack (fun r => r.env.2) peer { w with env := runtime } := by
    rintro w runtime same ⟨asked, owed, own⟩
    exact ⟨(congrArg peer.asked same).trans asked, (congrArg peer.owed same).trans owed, own⟩
  have events : KeepsEvents (onTokio (overRadSec conn base))
      (fun _ _ => OnTrack (fun r => r.env.2) peer) (OnTrack (fun r => r.env.2) peer)
      fun w => Never (Misattributed answer) w.log := by
    refine keepsEvents_of_dispatch (fun mac event w track => ?_) acts
    exact track.quiet rfl rfl rfl rfl
  have ended : Prog.Ends (fun _ w => OnTrack (fun r => r.env.2) peer w)
      (fun w => Never (Misattributed answer) w.log) run := by
    refine ends_runPort events (Unmoved.rounds fun w _ _ => unseen w _ rfl) (fun _ track => track.own)
      ⟨fun w => unseen w _ rfl, fun w => unseen w _ rfl⟩ cfg picks
      (fun w track => ends_applyEffects (fun de _ => acts de) track) ?_
    exact ⟨fresh.1, fresh.2, never_nil⟩
  have own : Never (Misattributed answer) run.2.log := by
    cases outcome : run with
    | mk result w =>
    rw [outcome] at ended
    cases result with
    | ok u => exact ended.own
    | error e => exact ended
  intro before entry after split request reply same
  by_contra other
  refine own before entry ?_ ⟨request, reply, same, other⟩
  rw [split]
  exact ⟨after, by simp⟩

section Witness

attribute [local instance] Site.proto

local instance siteDecode : PacketDecode := ⟨parse⟩

/-- A server that grants everybody access. -/
def granting (_ : List Bytes) : Packet := Site.accept

theorem framed_granting (asked : List Bytes) : Framed (granting asked) := by
  have size : Site.accept.length = 36 := rfl
  refine framed_of_regular _ ⟨rfl, ?_, ?_⟩
  · unfold granting
    decide
  · show Site.accept.length ≤ maxPacketSize
    rw [size]
    decide

/-- The boundaries of the site, on a connection to that server. -/
def granted : Except AuthdError Unit × World (Runtime (Site.Script × Line)) :=
  runPortUntilError (overRadSec (Line.connection granting) Site.deps) Site.opening.beside "Ethernet4"
    Site.config Site.silence
    (.start "Ethernet4" Site.context Site.config ⟨.new, expiry, (⟨[], []⟩, ⟨[], [], false, []⟩)⟩)

/-- The reply of a call. -/
def Call.reply : Call → Option Packet
  | .accessRequest _ (.ok reply) => some reply
  | _ => none

/-- A silent station is let in by its address: the eighth call got the answer to its request. -/
theorem port_replies_own_bypass :
    ∃ entry request, granted.2.log[7]? = some entry ∧
      entry.call = .accessRequest request (.ok Site.accept) ∧
      Site.accept.identifier = request.identifier := by
  have replied : (granted.2.log[7]?).bind (fun entry => entry.call.reply) = some Site.accept := by
    decide +kernel
  obtain ⟨entry, found, reply⟩ := Option.bind_eq_some_iff.mp replied
  obtain ⟨request, same⟩ : ∃ request, entry.call = .accessRequest request (.ok Site.accept) := by
    unfold Call.reply at reply
    split at reply
    · rename_i request answer known
      cases reply
      exact ⟨request, known⟩
    · cases reply
  obtain ⟨inside, here⟩ := List.getElem?_eq_some_iff.mp found
  have split : granted.2.log = granted.2.log.take 7 ++ entry :: granted.2.log.drop 8 := by
    rw [← here, ← List.drop_eq_getElem_cons inside, List.take_append_drop]
  have own := port_replies_own Site.deps (Line.peer granting) framed_granting Site.opening
    "Ethernet4" Site.context Site.config expiry ⟨[], []⟩ ⟨[], [], false, []⟩ ⟨rfl, rfl⟩ Site.silence
  unfold granted at split
  exact ⟨entry, request, found, same, (own _ entry _ split request Site.accept same).2⟩

end Witness

end Authenticator.Authd
