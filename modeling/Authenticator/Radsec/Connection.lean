/-
# Radsec.Connection -- one request, one reply, on a connection that may be late

`request` writes a packet and reads the next one, under a deadline.  The connection has no
memory of what it asked: whatever packet comes next is the reply, as long as it carries the
Identifier of the request.

The server is a parameter, `Peer`: it answers every frame with one packet, in order, and what
it sends arrives in order, sooner or later.  A call that is given up leaves its answer on the
way; one that is given up within a frame loses what it had read, and the stream with it.
`requests_lag` says what follows for every run without such a loss: after so many timeouts, a
request reads the answer to the one that many requests earlier, and takes it exactly if the
Identifiers agree.
-/
import Authenticator.Theory.Lag
import Authenticator.Radsec.Framing

namespace Authenticator.Radsec

set_option autoImplicit false

open Authenticator.Pacp Authenticator.Radius Authenticator.Theory

/-- The errors of a connection: those of the framer, and two of its own. -/
inductive ConnectionError where
  | framing (error : RadSecError)
  | timeout
  | unexpectedReply (expected got : UInt8)
  deriving DecidableEq, Repr

/-- The stream of a connection.  What is unread is what a read gets before `io_timeout`; a read
that comes up short was cut off by it, or by the end of the stream. -/
structure RadSecConnection (σ : Type) where
  reader : Source IoError σ UInt8
  writer : Sink IoError σ UInt8
  elapsed : σ → Bool

namespace RadSecConnection

section Code

variable {σ : Type} (conn : RadSecConnection σ)

/-- `tokio::time::timeout`: a read that is still waiting when the time is up is dropped, with
what it has read. -/
def timeout {α : Type} (m : Prog RadSecError σ α) : Prog ConnectionError σ α := fun s =>
  match m s with
  | (.ok a, s') => (.ok a, s')
  | (.error (.io e), s') =>
      (.error (if conn.elapsed s' then .timeout else .framing (.io e)), s')
  | (.error e, s') => (.error (.framing e), s')

/-- Read one packet. -/
def recv [PacketDecode] : Prog ConnectionError σ Packet := conn.timeout (readPacket conn.reader)

/-- Send a packet without awaiting a reply. -/
def send [RadiusProto] (packet : Packet) : Prog ConnectionError σ Unit :=
  (writePacket conn.writer packet).mapError .framing

/-- Send a request and read exactly one reply. -/
def request [RadiusProto] [PacketDecode] (request : Packet) : Prog ConnectionError σ Packet := do
  conn.send request
  let reply ← conn.recv
  if reply.identifier ≠ request.identifier then
    Prog.fail (.unexpectedReply request.identifier reply.identifier)
  else return reply

/-- Requests one after the other, whatever each returns. -/
def requests [RadiusProto] [PacketDecode] :
    List Packet → σ → List (Except ConnectionError Packet) × σ
  | [], s => ([], s)
  | p :: rest, s =>
      ((conn.request p s).1 :: (requests rest (conn.request p s).2).1,
        (requests rest (conn.request p s).2).2)

end Code

/-! ## The peer -/

/-- A server that answers every frame it gets with one packet, in order, over a connection that
loses and reorders nothing.  `owed` are the octets of its answers that were not read, arrived or
not; a read that fails has lost what it had read, and that was less than it wanted. -/
structure Peer {σ : Type} [RadiusProto] (conn : RadSecConnection σ)
    (answer : List Bytes → Packet) where
  asked : σ → List Bytes
  owed : σ → Bytes
  arrived : ∀ s, conn.reader.unread s <+: owed s
  read : ∀ {n s block s'}, conn.reader.readExact n s = (.ok block, s') →
    asked s' = asked s ∧ owed s = block.toList ++ owed s'
  lost : ∀ {n s e s'}, conn.reader.readExact n s = (.error e, s') →
    asked s' = asked s ∧ ∃ front, owed s = front ++ owed s' ∧ front.length < n
  sent : ∀ {p s s'}, conn.send p s = (.ok (), s') → asked s' = asked s ++ [wire p] ∧
    owed s' = owed s ++ wire (answer (asked s ++ [wire p]))

/-! ## One call -/

section Step

variable {σ : Type} {conn : RadSecConnection σ} [RadiusProto] [PacketDecode]
variable {answer : List Bytes → Packet} {s s' : σ}

/-- A packet that is read is a frame off what is owed. -/
theorem Peer.readPacket_ok (peer : Peer conn answer) {p : Packet}
    (read : readPacket conn.reader s = (.ok p, s')) :
    peer.asked s' = peer.asked s ∧ ∃ frame, peer.owed s = frame ++ peer.owed s' ∧
      conn.reader.unread s = frame ++ conn.reader.unread s' := by
  obtain ⟨header, t, first, later⟩ := Prog.bind_eq_ok_iff.mp read
  have first := Prog.mapError_eq_ok_iff.mp first
  obtain ⟨asked, owed⟩ := peer.read first
  by_cases inside : InRange (declaredLength header)
  · rw [readPacket_of_inRange first inside] at read
    obtain ⟨body, t', second, decoded⟩ := Prog.bind_eq_ok_iff.mp read
    have second := Prog.mapError_eq_ok_iff.mp second
    obtain rfl : t' = s' := congrArg Prod.snd decoded
    obtain ⟨asked', owed'⟩ := peer.read second
    refine ⟨asked'.trans asked, header.toList ++ body.toList, ?_, ?_⟩
    · rw [owed, owed', List.append_assoc]
    · rw [conn.reader.taken first, conn.reader.taken second, List.append_assoc]
  · rw [readPacket_of_outside first inside] at read
    cases read

/-- The front of what is owed declares the length of its frame. -/
theorem Peer.frameLength_unread (peer : Peer conn answer) {a : Packet} (framed : Framed a)
    {rest : Bytes} (owed : peer.owed s = wire a ++ rest)
    (long : headerLen ≤ (conn.reader.unread s).length) :
    frameLength (conn.reader.unread s) = (wire a).length := by
  obtain ⟨-, inside, declared, -⟩ := framed.wire
  have whole : headerLen ≤ (wire a).length := le_trans (by decide) inside.1
  obtain ⟨more, same⟩ := peer.arrived s
  rw [← frameLength_append long more, same, owed, frameLength_append whole, declared]

/-- A frame that has not arrived whole is not read, and less than it is lost. -/
theorem Peer.readPacket_short (peer : Peer conn answer) {a : Packet} (framed : Framed a)
    {rest : Bytes} (owed : peer.owed s = wire a ++ rest)
    (short : (conn.reader.unread s).length < (wire a).length) :
    ∃ e s', readPacket conn.reader s = (.error (.io e), s') ∧ peer.asked s' = peer.asked s ∧
      ∃ front, peer.owed s = front ++ peer.owed s' ∧ front.length < (wire a).length := by
  obtain ⟨-, inside, -, -⟩ := framed.wire
  have whole : headerLen ≤ (wire a).length := le_trans (by decide) inside.1
  by_cases cut : (conn.reader.unread s).length < headerLen
  · obtain ⟨e, s', ended⟩ := conn.reader.read_short cut
    obtain ⟨asked, front, lost, less⟩ := peer.lost ended
    refine ⟨e, s', ?_, asked, front, lost, by omega⟩
    rw [readPacket, Prog.bind_error (Prog.mapError_error RadSecError.io ended)]
  · have long := not_lt.mp cut
    obtain ⟨header, t, first⟩ := conn.reader.enough long
    have length := frameLength_of_read first
    rw [peer.frameLength_unread framed owed long] at length
    rw [length] at inside
    have taken := congrArg List.length (conn.reader.taken first)
    rw [List.length_append, header.length_toList] at taken
    obtain ⟨e, s', ended⟩ := conn.reader.read_short
      (show (conn.reader.unread t).length < declaredLength header - headerLen by omega)
    obtain ⟨asked, owed'⟩ := peer.read first
    obtain ⟨asked', front, lost, less⟩ := peer.lost ended
    refine ⟨e, s', ?_, asked'.trans asked, header.toList ++ front, ?_, ?_⟩
    · rw [readPacket_of_inRange first inside,
        Prog.bind_error (Prog.mapError_error RadSecError.io ended)]
    · rw [owed', lost, List.append_assoc]
    · rw [List.length_append, header.length_toList]
      omega

/-- What reading the next packet comes to: the next answer is taken, or it has not arrived. -/
inductive Receives (peer : Peer conn answer) (s : σ) (a : Packet) (rest : Bytes) :
    Except ConnectionError Packet × σ → Prop
  | taken (s' : σ) (asked : peer.asked s' = peer.asked s) (owed : peer.owed s' = rest) :
      Receives peer s a rest (.ok a, s')
  | late (s' : σ) (e : ConnectionError) (asked : peer.asked s' = peer.asked s)
      (waited : e = .timeout ∨ ∃ io, e = .framing (.io io)) (front : Bytes)
      (lost : peer.owed s = front ++ peer.owed s') (less : front.length < (wire a).length) :
      Receives peer s a rest (.error e, s')

/-- **Reading the next packet.** -/
theorem Peer.recv_receives (peer : Peer conn answer) {a : Packet} (framed : Framed a) {rest : Bytes}
    (owed : peer.owed s = wire a ++ rest) : Receives peer s a rest (conn.recv s) := by
  by_cases short : (conn.reader.unread s).length < (wire a).length
  · obtain ⟨e, s', ended, asked, front, lost, less⟩ := peer.readPacket_short framed owed short
    unfold recv timeout
    rw [ended]
    refine .late s' _ asked ?_ front lost less
    split
    · exact Or.inl rfl
    · exact Or.inr ⟨e, rfl⟩
  · obtain ⟨suffix, front⟩ : ∃ suffix, conn.reader.unread s = wire a ++ suffix := by
      have both := peer.arrived s
      rw [owed] at both
      exact (List.prefix_of_prefix_length_le (List.prefix_append _ _) both (not_lt.mp short)).imp
        fun _ same => same.symm
    obtain ⟨s', read, left⟩ := readPacket_wire framed s suffix front
    obtain ⟨asked, frame, owed', taken⟩ := peer.readPacket_ok read
    obtain rfl : frame = wire a := by
      rw [left, front] at taken
      exact (List.append_cancel_right taken).symm
    unfold recv timeout
    rw [read]
    refine .taken s' asked ?_
    rw [owed] at owed'
    exact (List.append_cancel_left owed').symm

/-- A reply is a packet that was decoded, and carries the Identifier of its request. -/
theorem request_ok {p reply : Packet} (done : conn.request p s = (.ok reply, s')) :
    reply.identifier = p.identifier ∧
      ∃ octets : Bytes, PacketDecode.decode octets = .ok reply := by
  obtain ⟨_, t, -, rest⟩ := Prog.bind_eq_ok_iff.mp done
  obtain ⟨read, t', received, last⟩ := Prog.bind_eq_ok_iff.mp rest
  split at last
  · cases last
  · rename_i agreed
    obtain rfl : read = reply := Except.ok.inj (congrArg Prod.fst last)
    refine ⟨not_not.mp agreed, ?_⟩
    have framed : ∃ t', readPacket conn.reader t = (.ok read, t') := by
      unfold recv timeout at received
      split at received
      · rename_i p' t'' known
        cases received
        exact ⟨_, known⟩
      · cases received
      · cases received
    obtain ⟨t', known⟩ := framed
    have call : Reads conn.reader t (readPacket conn.reader t) := readPacket_reads
    rw [known] at call
    generalize outcome : (Except.ok read, t') = result at call
    cases call with
    | framed r' inside whole left =>
        obtain ⟨decoded, -⟩ := Prod.mk.inj outcome
        cases taken : PacketDecode.decode
            ((conn.reader.unread t).take (frameLength (conn.reader.unread t))) with
        | ok p' =>
            rw [taken] at decoded
            obtain rfl := Except.ok.inj decoded
            exact ⟨_, taken⟩
        | error e =>
            rw [taken] at decoded
            cases decoded
    | _ => cases outcome

/-- What a request makes of the packet it reads. -/
def verdict (p reply : Packet) : Except ConnectionError Packet :=
  if reply.identifier ≠ p.identifier then
    .error (.unexpectedReply p.identifier reply.identifier)
  else .ok reply

/-- So many answers were read, and these are on the way. -/
structure InStep (peer : Peer conn answer) (read : Nat) (late : List Packet) (s : σ) : Prop where
  behind : Behind answer (peer.asked s) read late
  owed : peer.owed s = late.flatMap wire

/-- What a request comes to: it is not sent, it reads the answer that is due, or that has not
arrived. -/
inductive Requests (peer : Peer conn answer) (read : Nat) (late : List Packet) (s : σ)
    (p : Packet) : Except ConnectionError Packet × σ → Prop
  | unsent (s' : σ) (e : RadSecError) : Requests peer read late s p (.error (.framing e), s')
  | answered (s' : σ) (due : Packet) (left : List Packet)
      (first : due = answer ((peer.asked s ++ [wire p]).take (read + 1)))
      (asked : peer.asked s' = peer.asked s ++ [wire p])
      (inStep : InStep peer (read + 1) left s') (size : left.length = late.length) :
      Requests peer read late s p (verdict p due, s')
  | late (s' : σ) (e : ConnectionError) (waited : e = .timeout ∨ ∃ io, e = .framing (.io io))
      (t : σ) (sent : conn.send p s = (.ok (), t)) (received : conn.recv t = (.error e, s'))
      (behind : Behind answer (peer.asked s ++ [wire p]) read
        (late ++ [answer (peer.asked s ++ [wire p])]))
      (asked : peer.asked s' = peer.asked s ++ [wire p])
      (owed : peer.owed t = (late ++ [answer (peer.asked s ++ [wire p])]).flatMap wire) :
      Requests peer read late s p (.error e, s')

/-- **One request.** -/
theorem Peer.request_requests (peer : Peer conn answer) (framed : ∀ asked, Framed (answer asked))
    {read : Nat} {late : List Packet} (inStep : InStep peer read late s) (p : Packet) :
    Requests peer read late s p (conn.request p s) := by
  obtain ⟨behind, owed⟩ := inStep
  cases ran : conn.send p s with
  | mk outcome t =>
  cases outcome with
  | error e =>
      have refused : conn.request p s = (.error e, t) := Prog.bind_error ran _
      obtain ⟨framing, rfl⟩ : ∃ framing, e = .framing framing := by
        have mapped := congrArg Prod.fst ran
        simp only [send, Prog.mapError] at mapped
        cases inner : (writePacket conn.writer p s).1 with
        | ok u =>
            rw [inner] at mapped
            cases mapped
        | error framing =>
            rw [inner] at mapped
            exact ⟨framing, (Except.error.inj mapped).symm⟩
      rw [refused]
      exact .unsent t framing
  | ok u =>
      obtain ⟨asked, grown⟩ := peer.sent ran
      have later := behind.ask (wire p)
      have total : peer.owed t = (late ++ [answer (peer.asked s ++ [wire p])]).flatMap wire := by
        rw [grown, owed, List.flatMap_append, List.flatMap_singleton]
      obtain ⟨due, left, same⟩ : ∃ due left,
          late ++ [answer (peer.asked s ++ [wire p])] = due :: left := by
        cases late with
        | nil => exact ⟨_, _, rfl⟩
        | cons due rest => exact ⟨due, _, rfl⟩
      have size : left.length = late.length := by
        have lengths := congrArg List.length same
        rw [List.length_append, List.length_singleton, List.length_cons] at lengths
        exact (Nat.succ.inj lengths).symm
      have next := later
      rw [same] at next
      obtain ⟨first, rest⟩ := next.read_next
      have front : peer.owed t = wire due ++ left.flatMap wire := by
        rw [total, same, List.flatMap_cons]
      have received := peer.recv_receives (by rw [first]; exact framed _) front
      have code : conn.request p s = (do
          let reply ← conn.recv
          if reply.identifier ≠ p.identifier then
            Prog.fail (.unexpectedReply p.identifier reply.identifier)
          else return reply : Prog ConnectionError σ Packet) t := Prog.bind_ok ran _
      rw [code]
      generalize outcome : conn.recv t = result at received
      cases received with
      | taken s' asked' left' =>
          rw [Prog.bind_ok outcome]
          have decided : (if due.identifier ≠ p.identifier then
              Prog.fail (.unexpectedReply p.identifier due.identifier)
            else return due : Prog ConnectionError σ Packet) s' = (verdict p due, s') := by
            unfold verdict
            split <;> rfl
          rw [decided]
          refine .answered s' due left first (asked'.trans asked) ⟨?_, left'⟩ size
          rw [asked', asked]
          exact rest
      | late s' e asked' waited =>
          rw [Prog.bind_error outcome]
          exact .late s' e waited t ran outcome later (asked'.trans asked) total

end Step

/-! ## Whole runs -/

section Runs

variable {σ : Type} {conn : RadSecConnection σ} [RadiusProto] [PacketDecode]
variable {answer : List Bytes → Packet} {s s' : σ}

/-- The call was given up. -/
def timedOut : Except ConnectionError Packet → Bool
  | .error .timeout => true
  | _ => false

omit [RadiusProto] [PacketDecode] in
theorem timedOut_verdict (p reply : Packet) : timedOut (verdict p reply) = false := by
  unfold verdict
  split <;> rfl

/-- If the request is given up, what had come in by then is still there: the time was up between
two frames, not within one. -/
def Peer.Spares (peer : Peer conn answer) (p : Packet) (s : σ) : Prop :=
  ∀ t t', conn.send p s = (.ok (), t) → conn.recv t = (.error .timeout, t') →
    peer.owed t' = peer.owed t

/-- No request of the run that is given up loses an octet of the stream. -/
def Peer.SparesAll (peer : Peer conn answer) : List Packet → σ → Prop
  | [], _ => True
  | p :: rest, s => peer.Spares p s ∧ peer.SparesAll rest (conn.request p s).2

/-- A request on a connection that stays usable: it reads the answer that is due, or is given
up and leaves its own on the way. -/
theorem Requests.usable {peer : Peer conn answer}
    {read : Nat} {late : List Packet} {p : Packet} {result : Except ConnectionError Packet × σ}
    (outcome : Requests peer read late s p result) (whole : peer.Spares p s)
    (steady : ∀ e, result.1 ≠ .error (.framing e)) :
    ∃ read' late', InStep peer read' late' result.2 ∧
      peer.asked result.2 = peer.asked s ++ [wire p] ∧
      ((result.1 = .error .timeout ∧ read' = read) ∨
        (result.1 = verdict p (answer ((peer.asked s ++ [wire p]).take (read + 1))) ∧
          read' = read + 1)) := by
  cases outcome with
  | unsent s' e => exact absurd rfl (steady e)
  | answered s' due left first asked inStep size =>
      subst first
      exact ⟨read + 1, left, inStep, asked, Or.inr ⟨rfl, rfl⟩⟩
  | late s' e waited t sent received behind asked owed =>
      rcases waited with rfl | ⟨io, rfl⟩
      · refine ⟨read, late ++ [answer (peer.asked s ++ [wire p])], ⟨?_, ?_⟩, asked,
          Or.inl ⟨rfl, rfl⟩⟩
        · rw [asked]
          exact behind
        · rw [whole t s' sent received, owed]
      · exact absurd rfl (steady (.io io))

/-- The requests of a run from a state that is in step. -/
theorem requests_inStep (peer : Peer conn answer) (framed : ∀ asked, Framed (answer asked))
    {read : Nat} {late : List Packet} (inStep : InStep peer read late s) (ps : List Packet)
    (whole : peer.SparesAll ps s)
    (steady : ∀ r ∈ (conn.requests ps s).1, ∀ e, r ≠ .error (.framing e)) :
    ∀ (i : Nat) (p : Packet) (r : Except ConnectionError Packet), ps[i]? = some p →
      (conn.requests ps s).1[i]? = some r → r = .error .timeout ∨
        r = verdict p (answer ((peer.asked s ++ ps.map wire).take
          (read + (i - ((conn.requests ps s).1.take i).countP timedOut) + 1))) := by
  induction ps generalizing s read late with
  | nil =>
      intro i p r found
      cases found
  | cons first rest ih =>
      have results : (conn.requests (first :: rest) s).1 =
          (conn.request first s).1 :: (conn.requests rest (conn.request first s).2).1 := rfl
      rw [results] at steady ⊢
      obtain ⟨read', late', inStep', asked, advanced⟩ :=
        (peer.request_requests framed inStep first).usable whole.1 (steady _ List.mem_cons_self)
      have history : peer.asked (conn.request first s).2 ++ rest.map wire =
          peer.asked s ++ (first :: rest).map wire := by
        rw [asked, List.append_assoc]
        rfl
      intro i p r found outcome
      cases i with
      | zero =>
          obtain rfl : first = p := Option.some.inj found
          obtain rfl : (conn.request first s).1 = r := Option.some.inj outcome
          rcases advanced with ⟨gaveUp, -⟩ | ⟨decided, -⟩
          · exact Or.inl gaveUp
          · refine Or.inr ?_
            rw [List.take_zero, List.countP_nil, Nat.sub_zero, Nat.add_zero]
            have room := inStep.behind.total
            have fits : read + 1 ≤ (peer.asked s ++ [wire first]).length := by
              rw [List.length_append, List.length_singleton]
              omega
            rw [decided, ← history, asked, List.take_append_of_le_length fits]
      | succ i =>
          have later := ih inStep' whole.2
            (fun r member => steady r (List.mem_cons_of_mem _ member)) i p r found outcome
          rw [history] at later
          refine later.imp_right fun same => ?_
          have bound := List.countP_le_length (p := timedOut)
            (l := (conn.requests rest (conn.request first s).2).1.take i)
          rw [List.length_take] at bound
          rw [same, List.take_succ_cons, List.countP_cons]
          rcases advanced with ⟨gaveUp, rfl⟩ | ⟨decided, rfl⟩
          · rw [gaveUp]
            congr 3
            simp only [timedOut, if_true]
            omega
          · rw [decided, timedOut_verdict]
            congr 3
            simp only [Bool.false_eq_true, if_false]
            omega

/-- **A connection that is kept after a timeout stays behind.**  In every run of requests on a
fresh connection that stays usable (no call of the run that is given up loses an octet of the
stream, and nothing else goes wrong), a request that is not given up itself reads the answer to
the request that was sent as many requests earlier as there were timeouts before it.  It
returns that packet exactly if the two Identifiers agree, and refuses it as unexpected
otherwise. -/
theorem requests_lag (peer : Peer conn answer) (framed : ∀ asked, Framed (answer asked))
    (fresh : peer.asked s = [] ∧ peer.owed s = []) (ps : List Packet) (whole : peer.SparesAll ps s)
    (steady : ∀ r ∈ (conn.requests ps s).1, ∀ e, r ≠ .error (.framing e)) (i : Nat) (p : Packet)
    (r : Except ConnectionError Packet) (sent : ps[i]? = some p)
    (outcome : (conn.requests ps s).1[i]? = some r) :
    let late := ((conn.requests ps s).1.take i).countP timedOut
    r = .error .timeout ∨
      r = verdict p (answer ((ps.take (i - late + 1)).map wire)) := by
  have start : InStep peer 0 [] s := by
    refine ⟨?_, fresh.2⟩
    rw [fresh.1]
    exact .nil answer
  have run := requests_inStep peer framed start ps whole steady i p r sent outcome
  rw [fresh.1, List.nil_append, Nat.zero_add, ← List.map_take] at run
  exact run

/-- **On a connection that is in step, a reply is the answer to its own request**, and leaves the
connection in step. -/
theorem request_own (peer : Peer conn answer) (framed : ∀ asked, Framed (answer asked))
    (nothing : peer.owed s = []) {p reply : Packet} (done : conn.request p s = (.ok reply, s')) :
    reply = answer (peer.asked s ++ [wire p]) ∧ reply.identifier = p.identifier ∧
      peer.asked s' = peer.asked s ++ [wire p] ∧ peer.owed s' = [] := by
  have inStep : InStep peer (peer.asked s).length [] s :=
    ⟨⟨rfl, fun j inside => absurd inside (Nat.not_lt_zero j)⟩, nothing⟩
  have here := peer.request_requests framed inStep p
  rw [done] at here
  generalize known : (Except.ok reply, s') = result at here
  cases here with
  | unsent t e => cases known
  | late t e => cases known
  | answered t due left first asked later size =>
      obtain ⟨decided, rfl⟩ := Prod.mk.inj known
      obtain rfl : left = [] := List.eq_nil_of_length_eq_zero size
      rw [List.take_of_length_le (by rw [List.length_append, List.length_singleton])] at first
      unfold verdict at decided
      split at decided
      · cases decided
      · rename_i agreed
        obtain rfl := Except.ok.inj decided
        exact ⟨first, not_not.mp agreed, asked, later.owed⟩

end Runs

/-! ## A line

A server behind a line that carries what is on it before the deadline of a call, or nothing. -/

/-- The frames that were sent, the octets on the way, whether they are there, and whether they
will be for the requests to come. -/
structure Line where
  asked : List Bytes
  owed : Bytes
  ready : Bool
  arrivals : List Bool

namespace Line

/-- What a read gets. -/
def available (s : Line) : Bytes := if s.ready then s.owed else []

theorem drop_owed {s : Line} {n : Nat} (fits : n ≤ s.available.length) :
    s.owed = s.available.take n ++ s.owed.drop n := by
  unfold available at fits ⊢
  split
  · exact (List.take_append_drop n s.owed).symm
  · rename_i away
    obtain rfl : n = 0 := by simpa [away] using fits
    simp

def reader : Source IoError Line UInt8 where
  unread := available
  readExact n s :=
    if fits : n ≤ s.available.length then
      (.ok ⟨(s.available.take n).toArray, by
        rw [List.size_toArray, List.length_take, Nat.min_eq_left fits]⟩,
        { s with owed := s.owed.drop n })
    else (.error "deadline has elapsed", s)
  taken {n s s' block} read := by
    split at read
    · rename_i fits
      cases read
      show available s = s.available.take n ++ available { s with owed := s.owed.drop n }
      unfold available at fits ⊢
      cases s.ready with
      | true => exact (List.take_append_drop n s.owed).symm
      | false => simp
    · cases read
  enough {n s} fits := ⟨_, _, dif_pos fits⟩

/-- What is there when a call begins stays there. -/
theorem ready_readExact (n : Nat) (s : Line) : (reader.readExact n s).2.ready = s.ready := by
  simp only [reader]
  split <;> rfl

theorem ready_readPacket [PacketDecode] (s : Line) : (readPacket reader s).2.ready = s.ready := by
  have header := ready_readExact headerLen s
  cases first : reader.readExact headerLen s with
  | mk outcome t =>
  rw [first] at header
  cases outcome with
  | error e =>
      rw [readPacket, Prog.bind_error (Prog.mapError_error RadSecError.io first)]
      exact header
  | ok block =>
      by_cases inside : InRange (declaredLength block)
      · have body := ready_readExact (declaredLength block - headerLen) t
        rw [readPacket_of_inRange first inside]
        cases second : reader.readExact (declaredLength block - headerLen) t with
        | mk outcome t' =>
        rw [second] at body
        cases outcome with
        | error e =>
            rw [Prog.bind_error (Prog.mapError_error RadSecError.io second)]
            exact body.trans header
        | ok octets =>
            rw [Prog.bind_ok (Prog.mapError_ok RadSecError.io second)]
            exact body.trans header
      · rw [readPacket_of_outside first inside]
        exact header

section Writer

variable [RadiusProto] (answer : List Bytes → Packet)

/-- The server answers what it is sent. -/
def serve (block : Bytes) (s : Line) : Line where
  asked := s.asked ++ [block]
  owed := s.owed ++ wire (answer (s.asked ++ [block]))
  ready := s.arrivals.headD true
  arrivals := s.arrivals.tail

def writer : Sink IoError Line UInt8 where
  written s := s.asked.flatten
  writeAll block := Prog.modify (serve answer block)
  flush := pure ()
  appended {block s s'} wrote := by
    obtain ⟨-, rfl⟩ := Prod.mk.inj wrote
    simp [serve]
  flushed wrote := by
    obtain ⟨-, rfl⟩ := Prod.mk.inj wrote
    rfl

def connection : RadSecConnection Line := ⟨reader, writer answer, fun s => !s.ready⟩

def peer : Peer (connection answer) answer where
  asked := Line.asked
  owed := Line.owed
  arrived s := by
    show available s <+: s.owed
    unfold available
    split
    · exact List.prefix_rfl
    · exact List.nil_prefix
  read {n s block s'} read := by
    have read : reader.readExact n s = (.ok block, s') := read
    simp only [reader] at read
    split at read
    · rename_i fits
      cases read
      exact ⟨rfl, drop_owed fits⟩
    · cases read
  lost {n s e s'} read := by
    have read : reader.readExact n s = (.error e, s') := read
    simp only [reader] at read
    split at read
    · cases read
    · rename_i short
      cases read
      refine ⟨rfl, [], rfl, ?_⟩
      rw [List.length_nil]
      omega
  sent {p s s'} wrote := by
    have wrote := Prog.mapError_eq_ok_iff.mp wrote
    obtain ⟨octets, t, coded, rest⟩ := Prog.bind_eq_ok_iff.mp wrote
    obtain ⟨_, t', written, flushed⟩ := Prog.bind_eq_ok_iff.mp rest
    obtain ⟨known, rfl⟩ := Prod.mk.inj (Prog.mapError_eq_ok_iff.mp coded)
    obtain ⟨-, rfl⟩ := Prod.mk.inj (Prog.mapError_eq_ok_iff.mp written)
    obtain ⟨-, rfl⟩ := Prod.mk.inj (Prog.mapError_eq_ok_iff.mp flushed)
    have encoded : wire p = octets := by
      unfold wire
      rw [known]
    rw [encoded]
    exact ⟨rfl, rfl⟩

/-- What does not arrive in time is not lost. -/
theorem whole [PacketDecode] (s s' : Line)
    (gaveUp : (connection answer).recv s = (.error .timeout, s')) : s'.owed = s.owed := by
  have kept := ready_readPacket s
  have gaveUp : (connection answer).timeout (readPacket reader) s = (.error .timeout, s') := gaveUp
  cases away : s.ready with
  | false =>
      have empty : ¬ headerLen ≤ s.available.length := by simp [available, away, headerLen]
      have cut : reader.readExact headerLen s = (.error "deadline has elapsed", s) := dif_neg empty
      have read : readPacket reader s = (.error (.io "deadline has elapsed"), s) := by
        rw [readPacket, Prog.bind_error (Prog.mapError_error RadSecError.io cut)]
      unfold timeout at gaveUp
      rw [read] at gaveUp
      exact congrArg Line.owed (Prod.mk.inj gaveUp).2.symm
  | true =>
      unfold timeout at gaveUp
      rw [away] at kept
      cases read : readPacket reader s with
      | mk outcome t =>
      rw [read] at gaveUp kept
      replace kept : t.ready = true := kept
      cases outcome with
      | ok p => cases gaveUp
      | error e =>
          cases e with
          | io e =>
              have dark : t.ready = false ∧ t = s' := by simpa [connection] using gaveUp
              rw [dark.1] at kept
              cases kept
          | _ => cases gaveUp

end Writer

end Line

section Witness

/-- The digests do not matter here. -/
@[reducible] def plainProto : RadiusProto :=
  codec ⟨fun _ => Vector.replicate 16 0, fun _ _ => Vector.replicate 16 0⟩

attribute [local instance] plainProto

local instance plainDecode : PacketDecode := ⟨parse⟩

/-- A server that numbers its answers. -/
def numbered (asked : List Bytes) : Packet := samplePacket (UInt8.ofNat asked.length)

theorem framed_numbered (asked : List Bytes) : Framed (numbered asked) := by
  have size : (numbered asked).length = 27 := rfl
  refine framed_of_regular _ ⟨rfl, ?_, ?_⟩
  · intro a member
    rw [List.mem_singleton.mp member]
    decide
  · rw [size]
    decide

/-- The answer to the first request is late, and the second request has its Identifier: it is
taken for the answer to the second. -/
theorem requests_lag_taken :
    ((Line.connection numbered).requests [samplePacket 1, samplePacket 1]
      ⟨[], [], false, [false, true]⟩).1[1]? =
        some (verdict (samplePacket 1) (numbered [wire (samplePacket 1)])) ∧
      verdict (samplePacket 1) (numbered [wire (samplePacket 1)]) = .ok (samplePacket 1) := by
  have results : ((Line.connection numbered).requests [samplePacket 1, samplePacket 1]
      ⟨[], [], false, [false, true]⟩).1 = [.error .timeout, .ok (samplePacket 1)] := by
    decide +kernel
  have spares : ∀ p s, (Line.peer numbered).Spares p s := fun _ _ t t' _ timedOut =>
    Line.whole numbered t t' timedOut
  have lag := requests_lag (Line.peer numbered) framed_numbered ⟨rfl, rfl⟩
    [samplePacket 1, samplePacket 1] ⟨spares _ _, spares _ _, trivial⟩ (by rw [results]; simp) 1
    (samplePacket 1) (.ok (samplePacket 1)) rfl (by rw [results]; rfl)
  rw [results] at lag ⊢
  rcases lag with gaveUp | same
  · cases gaveUp
  · exact ⟨congrArg some same, same.symm⟩

end Witness

end RadSecConnection

end Authenticator.Radsec
