/-
# Authd.Run -- whole runs of the orchestrator

A run feeds a list of events to `handleEvent`, one after the other.  It goes on after
an error, so it covers every run of a daemon that stops at the first one.

`serve_invariant` is the rule for runs: an invariant of the worklist of one call
(`Worklist.Keeps`) is carried over all calls.  The failures of a run may be restricted
(`ServesWithin`).  What the actions of that worklist do is read off `Performed`.
-/
import Authenticator.Pae.PortLanes
import Authenticator.Authd.Dispatch
import Authenticator.Radius.Codec

namespace Authenticator.Authd

set_option autoImplicit false

open Authenticator.Pacp Authenticator.Pae Authenticator.Radius Authenticator.Theory

/-- The events the daemon produces: those of a frame, and expiries. -/
def DaemonEvent : Event → Prop
  | .eapolStart | .eapolLogoff | .eapFromSupplicant _ | .timer _ => True
  | _ => False

/-- A fresh orchestrator and a fresh port. -/
def World.start {ω : Type} (port : String) (ctxTemplate : RequestContext) (cfg : PaeConfig)
    (env : ω) : World ω where
  orch := .new port ctxTemplate
  pae := .new cfg
  env := env
  serving := none
  log := []

section Runs

variable {ω : Type} [RadiusProto] (deps : Deps ω)

/-- Handle the events one after the other, whatever each call returns. -/
def serve (w : World ω) : List (MacAddr × Event) → World ω
  | [] => w
  | (mac, event) :: rest => serve (handleEvent deps mac event w).2 rest

/-- Every call of the run that fails does so where the condition holds. -/
def ServesWithin (ok : World ω → DirectedEffect → List DirectedEffect → Prop) :
    World ω → List (MacAddr × Event) → Prop
  | _, [] => True
  | w, (mac, event) :: rest =>
      (eventQueue deps).DrainsWithin ok 64 [(mac, event)] w ∧
        ServesWithin ok (handleEvent deps mac event w).2 rest

instance decidableServesWithin (ok : World ω → DirectedEffect → List DirectedEffect → Prop)
    [∀ w de rest, Decidable (ok w de rest)] :
    (w : World ω) → (inputs : List (MacAddr × Event)) → Decidable (ServesWithin deps ok w inputs)
  | _, [] => isTrue trivial
  | w, (mac, event) :: rest =>
      have := decidableServesWithin ok (handleEvent deps mac event w).2 rest
      inferInstanceAs (Decidable (_ ∧ _))

/-- A condition that always holds restricts nothing. -/
theorem servesWithin_of_forall {ok : World ω → DirectedEffect → List DirectedEffect → Prop}
    (all : ∀ w de rest, ok w de rest) (w : World ω) (inputs : List (MacAddr × Event)) :
    ServesWithin deps ok w inputs := by
  induction inputs generalizing w with
  | nil => trivial
  | cons input rest ih =>
      exact ⟨(eventQueue deps).drainsWithin_of_forall ok all 64 _ w, ih _⟩

end Runs

section Rules

variable {ω : Type} [RadiusProto] {deps : Deps ω}

/-- Running an effect dispatches it, and directs its follow-up. -/
theorem eventQueue_act_dispatch {task : MacAddr × Event} {de : DirectedEffect} {w w' : World ω}
    {outcome : Except AuthdError (Option (MacAddr × Event))}
    (acted : (eventQueue deps).act task de w = (outcome, w')) :
    ∃ result, outcome = result.map (Option.map fun event => (de.mac.getD task.1, event)) ∧
      dispatch deps de w = (result, w') := by
  cases ran : dispatch deps de w with
  | mk result later =>
      cases result with
      | ok event =>
          have done : (eventQueue deps).act task de w = (.ok (event.map _), later) :=
            Prog.bind_ok ran _
          rw [done] at acted
          cases acted
          exact ⟨.ok event, rfl, rfl⟩
      | error e =>
          have failed : (eventQueue deps).act task de w = (.error e, later) :=
            Prog.bind_error ran _
          rw [failed] at acted
          cases acted
          exact ⟨.error e, rfl, rfl⟩

/-- Running an effect performs it, and directs its follow-up. -/
theorem eventQueue_act {task : MacAddr × Event} {de : DirectedEffect} {w w' : World ω}
    {outcome : Except AuthdError (Option (MacAddr × Event))}
    (acted : (eventQueue deps).act task de w = (outcome, w')) :
    ∃ result calls, outcome = result.map (Option.map fun event => (de.mac.getD task.1, event)) ∧
      Performed deps w de (result, w') calls := by
  obtain ⟨result, same, ran⟩ := eventQueue_act_dispatch acted
  obtain ⟨calls, performed⟩ := dispatch_performed deps de w
  rw [ran] at performed
  exact ⟨result, calls, same, performed⟩

theorem eventQueue_act_ok {task : MacAddr × Event} {de : DirectedEffect} {w w' : World ω}
    {follow : Option (MacAddr × Event)}
    (acted : (eventQueue deps).act task de w = (.ok follow, w')) :
    ∃ event calls, follow = event.map (fun event => (de.mac.getD task.1, event)) ∧
      Performed deps w de (.ok event, w') calls := by
  obtain ⟨result, calls, same, performed⟩ := eventQueue_act acted
  cases result with
  | ok event => exact ⟨event, calls, by injection same, performed⟩
  | error e => cases same

theorem eventQueue_act_error {task : MacAddr × Event} {de : DirectedEffect} {w w' : World ω}
    {e : AuthdError} (acted : (eventQueue deps).act task de w = (.error e, w')) :
    ∃ calls, Performed deps w de (.error e, w') calls := by
  obtain ⟨result, calls, same, performed⟩ := eventQueue_act acted
  cases result with
  | ok event => cases same
  | error e' =>
      cases same
      exact ⟨calls, performed⟩

variable {ok : World ω → DirectedEffect → List DirectedEffect → Prop}
variable {J : List (MacAddr × Event) → World ω → Prop}
variable {K : MacAddr × Event → List DirectedEffect → List (MacAddr × Event) → World ω → Prop}
variable {E I : World ω → Prop} {allowed : Event → Prop}

/-- What an invariant owes the events that are fed and the effects that are performed. -/
theorem eventQueue_keeps
    (enter : ∀ task queue w, J (task :: queue) w →
      K task (feedPae task.1 task.2 w).1 queue (feedPae task.1 task.2 w).2)
    (act : ∀ task de rest queue w follow, K task (de :: rest) queue w →
      (dispatch deps de w).1 = .ok follow →
      K task rest (queue ++ (follow.map fun event => (de.mac.getD task.1, event)).toList)
        (dispatch deps de w).2)
    (abandon : ∀ task de rest queue w e, K task (de :: rest) queue w →
      (dispatch deps de w).1 = .error e → ok w de rest → E (dispatch deps de w).2)
    (leave : ∀ task queue w, K task [] queue w → J queue w) :
    (eventQueue deps).Keeps ok J K E := by
  refine ⟨enter, ?_, ?_, leave⟩
  · intro task de rest queue w follow w' held acted
    obtain ⟨result, same, ran⟩ := eventQueue_act_dispatch acted
    cases result with
    | error e => cases same
    | ok event =>
        cases same
        have later := act task de rest queue w event held (by rw [ran])
        rwa [ran] at later
  · intro task de rest queue w e w' held acted met
    obtain ⟨result, same, ran⟩ := eventQueue_act_dispatch acted
    cases result with
    | ok event => cases same
    | error e' =>
        have later := abandon task de rest queue w e' held (by rw [ran]) met
        rwa [ran] at later

/-- **The rule for one call.** -/
theorem handleEvent_invariant (keeps : (eventQueue deps).Keeps ok J K E)
    (settles : ∀ queue w, J queue w → I w) (fails : ∀ w, E w → I w) {mac : MacAddr} {event : Event}
    {w : World ω} (begin_ : J [(mac, event)] w)
    (within : (eventQueue deps).DrainsWithin ok 64 [(mac, event)] w) :
    I (handleEvent deps mac event w).2 := by
  have ended := keeps.drain 64 [(mac, event)] w begin_ within
  unfold handleEvent
  cases ran : (eventQueue deps).drain 64 [(mac, event)] w with
  | mk outcome w' =>
      rw [ran] at ended
      cases outcome with
      | ok u =>
          obtain ⟨queue, held⟩ := ended
          exact settles queue w' held
      | error e => exact fails w' ended

/-- Every boundary keeps a property of the environment. -/
structure Deps.Keeps (deps : Deps ω) (I : ω → Prop) : Prop where
  sendEap : ∀ mac eap env, I env → I (deps.sendEap mac eap env).2
  accessRequest : ∀ request env, I env → I (deps.accessRequest request env).2
  accounting : ∀ request env, I env → I (deps.accounting request env).2
  apply : ∀ port target auth env, I env → I (deps.apply port target auth env).2
  arm : ∀ mac kind secs env, I env → I (deps.arm mac kind secs env)
  cancel : ∀ mac kind env, I env → I (deps.cancel mac kind env)
  cancelAll : ∀ mac env, I env → I (deps.cancelAll mac env)
  generate : ∀ env, I env → I (deps.generateRequestAuthenticator env).2

theorem Dispatched.env {I : ω → Prop} {port : String} {env env' : ω} {de : DirectedEffect}
    {calls : List Call} {result : Except AuthdError (Option Event)} (keeps : deps.Keeps I)
    (outcome : Dispatched deps port env de calls env' result) (held : I env) : I env' := by
  cases outcome with
  | idle | unarmed | unaccounted => exact held
  | sent mac eap => exact keeps.sendEap mac eap env held
  | refused => exact keeps.generate env held
  | unanswered _ _ _ request _ _ called | discarded _ _ _ request _ _ _ called
  | answered _ _ _ request _ _ _ _ called =>
      have answered := keeps.accessRequest request _ (keeps.generate env held)
      rw [called] at answered
      exact answered
  | applied mac auth => exact keeps.apply port (targetOf mac) auth env held
  | armed mac kind secs => exact keeps.arm mac kind secs env held
  | cancelled mac kind => exact keeps.cancel mac kind env held
  | cancelledAll mac => exact keeps.cancelAll mac env held
  | accounted mac trigger request => exact keeps.accounting request env held

/-- What every event that is fed and every effect that is performed keep, whatever their
outcome, is an invariant of the queue. -/
theorem keeps_world {I : World ω → Prop} (feeds : ∀ mac event w, I w → I (feedPae mac event w).2)
    (acts : ∀ de w, I w → I (dispatch deps de w).2) :
    (eventQueue deps).Keeps (fun _ _ _ => True) (fun _ w => I w) (fun _ _ _ w => I w) I :=
  eventQueue_keeps (fun task _ w held => feeds task.1 task.2 w held)
    (fun _ de _ _ w _ held _ => acts de w held) (fun _ de _ _ w _ held _ _ => acts de w held)
    fun _ _ _ held => held

/-- **The rule for the environment of one call.** -/
theorem handleEvent_env {I : ω → Prop} (keeps : deps.Keeps I) (mac : MacAddr) (event : Event)
    {w : World ω} (held : I w.env) : I (handleEvent deps mac event w).2.env := by
  have acts : ∀ (de : DirectedEffect) (w : World ω), I w.env → I (dispatch deps de w).2.env := by
    intro de w held
    obtain ⟨calls, performed⟩ := dispatch_performed deps de w
    exact performed.outcome.env keeps held
  have worklist := keeps_world (fun _ _ w (held : I w.env) => held) acts
  exact handleEvent_invariant worklist (fun _ _ held => held) (fun _ held => held) held
    ((eventQueue deps).drainsWithin_of_forall _ (fun _ _ _ => trivial) 64 _ w)

/-- A list of one effect leaves what the effect leaves. -/
theorem applyEffects_singleton (deps : Deps ω) (de : DirectedEffect)
    (w : World ω) : (applyEffects deps [de] w).2 = (dispatch deps de w).2 := by
  cases ran : dispatch deps de w with
  | mk result w' =>
      cases result with
      | ok follow =>
          show ((dispatch deps de >>= fun _ => applyEffects deps []) w).2 = w'
          rw [Prog.bind_ok ran]
          rfl
      | error e =>
          show ((dispatch deps de >>= fun _ => applyEffects deps []) w).2 = w'
          rw [Prog.bind_error ran]

/-- **The rule for runs.** -/
theorem serve_invariant (keeps : (eventQueue deps).Keeps ok J K E)
    (enters : ∀ mac event w, allowed event → I w → J [(mac, event)] w)
    (settles : ∀ queue w, J queue w → I w) (fails : ∀ w, E w → I w) {w : World ω} (begin_ : I w)
    {inputs : List (MacAddr × Event)} (fed : ∀ input ∈ inputs, allowed input.2)
    (within : ServesWithin deps ok w inputs) : I (serve deps w inputs) := by
  induction inputs generalizing w with
  | nil => exact begin_
  | cons input rest ih =>
      obtain ⟨mac, event⟩ := input
      obtain ⟨here, later⟩ := within
      have allowed := fed (mac, event) List.mem_cons_self
      refine ih ?_ (fun input member => fed input (List.mem_cons_of_mem _ member)) later
      exact handleEvent_invariant keeps settles fails (enters mac event w allowed begin_) here

/-- **The rule for runs whose calls empty their queue.** -/
theorem serve_settled_invariant (keeps : (eventQueue deps).Keeps ok J K E)
    {weight : List (MacAddr × Event) → Nat} (heavy : ∀ task rest, 0 < weight (task :: rest))
    (falls : ∀ task rest queue w, K task [] queue w → weight queue < weight (task :: rest))
    (enough : ∀ mac event, weight [(mac, event)] ≤ 64)
    (enters : ∀ mac event w, allowed event → I w → J [(mac, event)] w)
    (settles : ∀ w, J [] w → I w) (fails : ∀ w, E w → I w) {w : World ω} (begin_ : I w)
    {inputs : List (MacAddr × Event)} (fed : ∀ input ∈ inputs, allowed input.2)
    (within : ServesWithin deps ok w inputs) : I (serve deps w inputs) := by
  induction inputs generalizing w with
  | nil => exact begin_
  | cons input rest ih =>
      obtain ⟨mac, event⟩ := input
      obtain ⟨here, later⟩ := within
      have allowed := fed (mac, event) List.mem_cons_self
      refine ih ?_ (fun input member => fed input (List.mem_cons_of_mem _ member)) later
      have ended := keeps.drain_settles heavy falls 64 [(mac, event)] w
        (enters mac event w allowed begin_) (enough mac event) here
      unfold handleEvent
      cases ran : (eventQueue deps).drain 64 [(mac, event)] w with
      | mk outcome w' =>
          rw [ran] at ended
          cases outcome with
          | ok u => exact settles w' ended
          | error e => exact fails w' ended

/-- **The rule for runs, for an invariant of the effects left**: it holds with none left
between the calls to the port, and after a failure. -/
theorem serve_effects_invariant {K : List DirectedEffect → World ω → Prop}
    (enter : ∀ mac event w, K [] w → K (feedPae mac event w).1 (feedPae mac event w).2)
    (act : ∀ {de rest w follow w' calls}, K (de :: rest) w →
      Performed deps w de (.ok follow, w') calls → K rest w')
    (abandon : ∀ {de rest w e w' calls}, K (de :: rest) w →
      Performed deps w de (.error e, w') calls → ok w de rest → K [] w')
    {w : World ω} (begin_ : K [] w) {inputs : List (MacAddr × Event)}
    (within : ServesWithin deps ok w inputs) : K [] (serve deps w inputs) := by
  have keeps : (eventQueue deps).Keeps ok (fun _ w => K [] w) (fun _ rest _ w => K rest w) (K []) := by
    refine ⟨fun task _ w held => enter task.1 task.2 w held, ?_, ?_, fun _ _ _ held => held⟩
    · intro task de rest queue w follow w' held acted
      obtain ⟨event, calls, -, performed⟩ := eventQueue_act_ok acted
      exact act held performed
    · intro task de rest queue w e w' held acted met
      obtain ⟨calls, performed⟩ := eventQueue_act_error acted
      exact abandon held performed met
  have enters : ∀ (_ : MacAddr) (_ : Event) (w : World ω), True → K [] w → K [] w :=
    fun _ _ _ _ held => held
  exact serve_invariant keeps enters (fun _ _ held => held) (fun _ held => held) begin_
    (fun _ _ => trivial) within

/-! ## The port of a run -/

/-- **Every run keeps its port orderly.** -/
theorem orderly_serve (deps : Deps ω) (port : String) (ctxTemplate : RequestContext)
    (cfg : PaeConfig) (env : ω) (inputs : List (MacAddr × Event)) :
    Orderly cfg (serve deps (.start port ctxTemplate cfg env) inputs).pae := by
  have feeds : ∀ (mac : MacAddr) (event : Event) (w : World ω), Orderly cfg w.pae →
      Orderly cfg (feedPae mac event w).2.pae :=
    fun mac event w orderly => orderly_step cfg w.pae (.handle mac event) orderly
  have acts : ∀ (de : DirectedEffect) (w : World ω), Orderly cfg w.pae →
      Orderly cfg (dispatch deps de w).2.pae := by
    intro de w orderly
    obtain ⟨calls, performed⟩ := dispatch_performed deps de w
    rw [performed.pae]
    exact orderly
  have enters : ∀ (_ : MacAddr) (_ : Event) (w : World ω), True → Orderly cfg w.pae →
      Orderly cfg w.pae := fun _ _ _ _ held => held
  exact serve_invariant (keeps_world feeds acts) enters (fun _ _ held => held)
    (fun _ held => held) (orderly_new cfg) (fun _ _ => trivial)
    (servesWithin_of_forall deps (fun _ _ _ => trivial) _ _)

end Rules

/-! ## A small site

One access port and a server that answers from a script, for runs on given inputs.  The
digests are those of the packets of such a run. -/

namespace Site

/-- What the server will answer, in order; it is unreachable once it has run out. -/
structure Script where
  replies : List (Except AuthdError Packet)
  acks : List (Except AuthdError Unit)

def accessRequest (_ : Packet) : Prog AuthdError Script Packet := fun script =>
  match script.replies with
  | [] => (.error .radSec, script)
  | reply :: rest => (reply, { script with replies := rest })

def accounting (_ : Packet) : Prog AuthdError Script Unit := fun script =>
  match script.acks with
  | [] => (.error .radSec, script)
  | ack :: rest => (ack, { script with acks := rest })

def station : MacAddr := #v[0x00, 0x1a, 0x2b, 0x3c, 0x4d, 0x5e]

def context : RequestContext where
  nasIp := none
  nasIdentifier := "leaf1"
  nasPortId := "Ethernet4"
  nasPort := none
  callingStation := Vector.replicate 6 0
  calledStation := #v[2, 0, 0, 0, 0, 1]

/-- The Response Authenticator of `accept`. -/
def acceptDigest : Auth16 :=
  #v[85, 167, 135, 146, 13, 47, 238, 142, 215, 213, 132, 74, 70, 89, 100, 53]

/-- The Message-Authenticator of the MAB request. -/
def requestDigest : Auth16 :=
  #v[49, 37, 153, 14, 161, 249, 36, 112, 107, 94, 126, 194, 115, 140, 38, 164]

/-- The authenticator of the Accounting-Start. -/
def startDigest : Auth16 :=
  #v[122, 229, 100, 195, 56, 241, 216, 149, 32, 247, 81, 40, 76, 42, 177, 40]

/-- The authenticator of the Accounting-Stop of a logoff. -/
def stopDigest : Auth16 :=
  #v[88, 209, 172, 8, 173, 49, 19, 91, 66, 219, 52, 80, 64, 216, 180, 17]

/-- The digests of an accept, and of the two accounting requests by their Identifiers. -/
def digests : Digests where
  digest octets :=
    match octets with
    | 2 :: _ => acceptDigest
    | _ :: 0 :: _ => startDigest
    | _ => stopDigest
  keyed _ _ := requestDigest

@[reducible] def proto : RadiusProto := codec digests

theorem lawful : @LawfulRadiusProto proto := codec_lawful digests

/-- An accept of the first request, into VLAN 42. -/
def accept : Packet where
  code := .accessAccept
  identifier := 0
  authenticator := acceptDigest
  attributes := [⟨AttributeType.tunnelType, [0, 0, 0, 13]⟩,
    ⟨AttributeType.tunnelMediumType, [0, 0, 0, 6]⟩,
    ⟨AttributeType.tunnelPrivateGroupId, [0x34, 0x32]⟩]

def deps : Deps Script where
  sendEap _ _ := pure ()
  accessRequest := accessRequest
  accounting := accounting
  apply _ _ _ := pure ()
  arm _ _ _ script := script
  cancel _ _ script := script
  cancelAll _ script := script
  generateRequestAuthenticator script :=
    (#v[1, 2, 3, 4, 5, 6, 7, 8, 9, 10, 11, 12, 13, 14, 15, 16], script)
  timers := {}
  secret := utf8 "radsec"

/-- A port that bypasses a silent supplicant after one prompt. -/
def config : PaeConfig := { mabEnabled := true, maxReauthReq := 1 }

def start (script : Script) : World Script := .start "Ethernet4" context config script

/-- A supplicant that shows up and stays silent. -/
def bypass : List (MacAddr × Event) := [(station, .eapolStart), (station, .timer .txPeriod)]

end Site

end Authenticator.Authd
