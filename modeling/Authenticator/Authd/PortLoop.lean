/-
# Authd.PortLoop -- a port from its start to its first error

`run_port` installs the trap, opens the socket, closes the port and then serves what `select!`
picks, until something fails.  `runPortUntilError` is that program: an error of any of these
ends it, in the state the failed call left.

`ends_runPort` is the rule for its runs: an invariant of the worklist of one event, with a
property of what a failure leaves, is carried over the loop.  `port_fails_stop` is what a run
never does: it makes no call after one that failed.
-/
import Authenticator.Authd.Tokio
import Authenticator.Authd.FrameSafety
import Authenticator.Authd.Feedback

namespace Authenticator.Authd

set_option autoImplicit false

open Authenticator.Pacp Authenticator.Pae Authenticator.Radius Authenticator.Theory
open Authenticator.Theory.Timers (Background)

/-- The calls `run_port` makes before it serves: the trap and the socket. -/
structure Opening (ω : Type) where
  ensureEapolTrap : String → Prog String ω Unit
  openSocket : String → Prog AuthdError ω Unit

/-- What `select!` yields: a frame or an expiry, or the socket failed. -/
inductive Pick where
  | source (source : Source)
  | socketError
  deriving DecidableEq, Repr

section Code

variable {ω : Type}

/-- A call of the environment that is not part of the log. -/
def onEnv {ε : Type} (m : Prog ε ω Unit) : Prog ε (World (Runtime ω)) Unit := fun w =>
  ((m w.env.env).1, { w with env := { w.env with env := (m w.env.env).2 } })

variable [RadiusProto] (base : Deps ω)

/-- One round of the loop, which a failed socket ends. -/
def round : Pick → Prog AuthdError (World (Runtime ω)) Unit
  | .source source => turn base source
  | .socketError => Prog.fail .eapol

/-- `run_port`: it returns the first error. -/
def runPortUntilError (opening : Opening ω) (port : String) (cfg : PaeConfig) (picks : List Pick) :
    Prog AuthdError (World (Runtime ω)) Unit := do
  Prog.mapError .enforce (onEnv (opening.ensureEapolTrap port))
  onEnv (opening.openSocket port)
  applyEffects (onTokio base) (PortPae.new cfg).enable
  picks.forM (round base)

end Code

/-! ## The rule for runs -/

section Rules

variable {ω : Type} [RadiusProto] {base : Deps ω}
variable {I E : World (Runtime ω) → Prop} {R : MacAddr → Event → World (Runtime ω) → Prop}

/-- What one event owes an invariant that a failure may break, wherever it may come in. -/
def KeepsEvents (deps : Deps (Runtime ω)) (R : MacAddr → Event → World (Runtime ω) → Prop)
    (I E : World (Runtime ω) → Prop) : Prop :=
  ∀ mac event w, R mac event w → Prog.Ends (fun _ w' => I w') E (handleEvent deps mac event w)

/-- What a round makes of an invariant before its event comes in. -/
structure Rounds (I : World (Runtime ω) → Prop)
    (R : MacAddr → Event → World (Runtime ω) → Prop) : Prop where
  interlude : ∀ w, I w → I { w with env := w.env.interlude }
  frame : ∀ mac event w, DaemonEvent event → (∀ kind, event ≠ .timer kind) → I w → R mac event w
  expiry : ∀ w task scheduler, I w → w.env.scheduler.take = some (task, scheduler) →
    R task.key.1 (.timer task.key.2) { w with env := { w.env with scheduler := scheduler } }

/-- What the tasks beside the loop do is not seen. -/
def Unmoved (I : World (Runtime ω) → Prop) : Prop :=
  ∀ w scheduler schedule, I w → I { w with env := ⟨scheduler, schedule, w.env.env⟩ }

/-- The calls before the first round keep a property. -/
structure Opening.Keeps (opening : Opening ω) (port : String) (I : World (Runtime ω) → Prop) :
    Prop where
  trap : ∀ w, I w →
    I { w with env := { w.env with env := (opening.ensureEapolTrap port w.env.env).2 } }
  socket : ∀ w, I w →
    I { w with env := { w.env with env := (opening.openSocket port w.env.env).2 } }

omit [RadiusProto] in
theorem Runtime.interlude_env (r : Runtime ω) :
    r.interlude = ⟨r.interlude.scheduler, r.interlude.schedule, r.env⟩ := by
  unfold Runtime.interlude
  split <;> rfl

omit [RadiusProto] in
theorem Unmoved.rounds (unmoved : Unmoved I) : Rounds I fun _ _ => I where
  interlude w held := by
    rw [Runtime.interlude_env]
    exact unmoved w _ _ held
  frame _ _ _ _ _ held := held
  expiry w _ scheduler held _ := unmoved w scheduler _ held

omit [RadiusProto] in
/-- What comes in is an event of the daemon. -/
theorem Unmoved.daemon (unmoved : Unmoved I) : Rounds I fun _ event w => DaemonEvent event ∧ I w where
  interlude := unmoved.rounds.interlude
  frame _ _ _ daemon _ held := ⟨daemon, held⟩
  expiry w _ scheduler held _ := ⟨trivial, unmoved w scheduler _ held⟩

omit [RadiusProto] in
theorem frameEvent_daemon {bytes : Bytes} {mac : MacAddr} {event : Event}
    (became : frameEvent bytes = some (mac, event)) :
    DaemonEvent event ∧ ∀ kind, event ≠ .timer kind := by
  unfold frameEvent at became
  split at became
  · cases became
  · split at became
    · cases became
      simp [DaemonEvent]
    · cases became
      simp [DaemonEvent]
    · split at became
      · cases became
      · cases became
        simp [DaemonEvent]
    · cases became

theorem ends_round (events : KeepsEvents (onTokio base) R I E) (rounds : Rounds I R)
    (weaker : ∀ w, I w → E w) (pick : Pick) {w : World (Runtime ω)} (held : I w) :
    Prog.Ends (fun _ w' => I w') E (round base pick w) := by
  cases pick with
  | socketError => exact weaker w held
  | source source =>
      have begun : I { w with env := w.env.interlude } := rounds.interlude w held
      cases source with
      | frame bytes =>
          show Prog.Ends _ _ (dispatchFrame (onTokio base) bytes { w with env := w.env.interlude })
          unfold dispatchFrame
          cases became : frameEvent bytes with
          | none => exact begun
          | some input =>
              obtain ⟨daemon, untimed⟩ := frameEvent_daemon became
              exact events input.1 input.2 _ (rounds.frame _ _ _ daemon untimed begun)
      | timer =>
          show Prog.Ends _ _ (turn base .timer w)
          unfold turn
          dsimp only
          split
          · exact begun
          · rename_i task scheduler taken
            exact events task.key.1 (.timer task.key.2) _ (rounds.expiry _ task scheduler begun taken)

/-- **The rule for one event**, whatever is left in its queue. -/
theorem keepsEvents_of_keeps {deps : Deps (Runtime ω)}
    {J : List (MacAddr × Event) → World (Runtime ω) → Prop}
    {K : MacAddr × Event → List DirectedEffect → List (MacAddr × Event) → World (Runtime ω) → Prop}
    (keeps : (eventQueue deps).Keeps (fun _ _ _ => True) J K E)
    (enters : ∀ mac event w, R mac event w → J [(mac, event)] w)
    (settles : ∀ queue w, J queue w → I w) : KeepsEvents deps R I E := by
  intro mac event w held
  have ended := keeps.drain 64 [(mac, event)] w (enters mac event w held)
    ((eventQueue deps).drainsWithin_of_forall _ (fun _ _ _ => trivial) 64 _ w)
  unfold handleEvent
  cases ran : (eventQueue deps).drain 64 [(mac, event)] w with
  | mk outcome w' =>
      rw [ran] at ended
      cases outcome with
      | ok u =>
          obtain ⟨queue, held⟩ := ended
          exact settles queue w' held
      | error e => exact ended

/-- **The rule for one event, for what every effect keeps.** -/
theorem keepsEvents_of_dispatch {deps : Deps (Runtime ω)}
    (feeds : ∀ mac event w, I w → I (feedPae mac event w).2)
    (acts : ∀ de w, I w → Prog.Ends (fun _ w' => I w') E (dispatch deps de w)) :
    KeepsEvents deps (fun _ _ => I) I E := by
  have keeps : (eventQueue deps).Keeps (fun _ _ _ => True) (fun _ => I) (fun _ _ _ => I) E := by
    refine eventQueue_keeps (fun task _ w held => feeds task.1 task.2 w held) ?_ ?_
      fun _ _ _ held => held
    · intro task de rest queue w follow held done
      have ended := acts de w held
      cases ran : dispatch deps de w with
      | mk result w' =>
          rw [ran] at ended done
          obtain rfl : result = .ok follow := done
          exact ended
    · intro task de rest queue w e held failed _
      have ended := acts de w held
      cases ran : dispatch deps de w with
      | mk result w' =>
          rw [ran] at ended failed
          obtain rfl : result = .error e := failed
          exact ended
  exact keepsEvents_of_keeps keeps (fun _ _ _ held => held) fun _ _ held => held

/-- **The rule for one event, for what holds once its queue is empty.** -/
theorem keepsEvents_of_settles {deps : Deps (Runtime ω)}
    {J : List (MacAddr × Event) → World (Runtime ω) → Prop}
    {K : MacAddr × Event → List DirectedEffect → List (MacAddr × Event) → World (Runtime ω) → Prop}
    (keeps : (eventQueue deps).Keeps (fun _ _ _ => True) J K E)
    (falls : ∀ task rest queue w, K task [] queue w → queueWeight queue < queueWeight (task :: rest))
    (enters : ∀ mac event w, R mac event w → J [(mac, event)] w) (settles : ∀ w, J [] w → I w) :
    KeepsEvents deps R I E := by
  intro mac event w held
  have enough : queueWeight [(mac, event)] ≤ 64 := by
    have here := taskWeight_bounds (mac, event)
    have one := queueWeight_singleton (mac, event)
    omega
  have ended := keeps.drain_settles queueWeight_pos falls 64 [(mac, event)] w
    (enters mac event w held) enough
    ((eventQueue deps).drainsWithin_of_forall _ (fun _ _ _ => trivial) 64 _ w)
  unfold handleEvent
  cases ran : (eventQueue deps).drain 64 [(mac, event)] w with
  | mk outcome w' =>
      rw [ran] at ended
      cases outcome with
      | ok u => exact settles w' ended
      | error e => exact ended

/-- **The rule for `run_port`.** -/
theorem ends_runPort (events : KeepsEvents (onTokio base) R I E) (rounds : Rounds I R)
    (weaker : ∀ w, I w → E w) {opening : Opening ω} {port : String} (opens : opening.Keeps port I)
    (cfg : PaeConfig) (picks : List Pick) {w : World (Runtime ω)}
    (enables : ∀ w, I w → Prog.Ends (fun _ w' => I w') E
      (applyEffects (onTokio base) (PortPae.new cfg).enable w)) (start : I w) :
    Prog.Ends (fun _ w' => I w') E (runPortUntilError base opening port cfg picks w) := by
  have trapped : Prog.Ends (fun _ w' => I w') E
      (Prog.mapError AuthdError.enforce (onEnv (opening.ensureEapolTrap port)) w) := by
    unfold Prog.mapError onEnv
    cases (opening.ensureEapolTrap port w.env.env).1 with
    | ok u => exact opens.trap w start
    | error e => exact weaker _ (opens.trap w start)
  have opened : ∀ w, I w → Prog.Ends (fun _ w' => I w') E (onEnv (opening.openSocket port) w) := by
    intro w held
    unfold onEnv
    cases (opening.openSocket port w.env.env).1 with
    | ok u => exact opens.socket w held
    | error e => exact weaker _ (opens.socket w held)
  refine trapped.bind fun _ w held => (opened w held).bind fun _ w held =>
    (enables w held).bind fun _ w held => ?_
  exact Prog.ends_forM (fun pick w held => ends_round events rounds weaker pick held) picks held

/-- A batch of effects keeps what each of them keeps. -/
theorem ends_applyEffects {deps : Deps (Runtime ω)} {fx : List DirectedEffect}
    (one : ∀ de ∈ fx, ∀ w, I w → Prog.Ends (fun _ w' => I w') E (dispatch deps de w))
    {w : World (Runtime ω)} (held : I w) :
    Prog.Ends (fun _ w' => I w') E (applyEffects deps fx w) := by
  induction fx generalizing w with
  | nil => exact held
  | cons de rest ih =>
      exact (one de List.mem_cons_self w held).bind fun _ _ later =>
        ih (fun de member => one de (List.mem_cons_of_mem _ member)) later

end Rules

/-! ## Nothing is called after a failure -/

section FailStop

variable {ω : Type} [RadiusProto] {deps : Deps ω}

/-- An effect that succeeds made only calls that did. -/
theorem Dispatched.succeeded [LawfulRadiusProto] {port : String} {env env' : ω} {de : DirectedEffect}
    {calls : List Call} {follow : Option Event}
    (outcome : Dispatched deps port env de calls env' (.ok follow)) :
    ∀ call ∈ calls, call.succeeds deps.secret = true := by
  have isOk : ∀ {ε : Type} (result : Except ε Unit), (result.map fun _ => (none : Option Event)) =
      .ok follow → result.isOk = true := by
    intro ε result same
    cases result with
    | ok u => rfl
    | error e => cases same
  generalize known : Except.ok follow = result at outcome
  cases outcome with
  | sent mac eap => simpa [Call.succeeds] using isOk _ known.symm
  | accounted mac trigger request => simpa [Call.succeeds] using isOk _ known.symm
  | applied mac auth =>
      cases called : (deps.apply port (targetOf mac) auth env).1 with
      | ok u => simp [Call.succeeds, Except.isOk, Except.toBool]
      | error e =>
          rw [called] at known
          cases known
  | answered _ mac asked request reply pending event _ called built matched verified parsed =>
      obtain ⟨-, authenticator, -⟩ := built.builtFor
      simp [Call.succeeds, authenticator, verified, parsed, Except.isOk, Except.toBool]
  | refused | unanswered | discarded | unaccounted => cases known
  | _ => simp [Call.succeeds]

/-- An effect makes one call at most. -/
theorem Dispatched.calls_length {port : String} {env env' : ω} {de : DirectedEffect}
    {calls : List Call} {result : Except AuthdError (Option Event)}
    (outcome : Dispatched deps port env de calls env' result) : calls.length ≤ 1 := by
  cases outcome <;> simp

/-- Every call so far succeeded. -/
def AllSucceeded (secret : Bytes) (w : World ω) : Prop :=
  ∀ entry ∈ w.log, entry.call.succeeds secret = true

/-- Every call so far succeeded, but perhaps the last. -/
def AllButLast (secret : Bytes) (w : World ω) : Prop :=
  ∀ entry ∈ w.log.dropLast, entry.call.succeeds secret = true

theorem AllSucceeded.allButLast {secret : Bytes} {w : World ω} (all : AllSucceeded secret w) :
    AllButLast secret w := fun entry member => all entry (List.mem_of_mem_dropLast member)

theorem ends_dispatch_succeeded [LawfulRadiusProto] (deps : Deps ω) (de : DirectedEffect) {w : World ω}
    (all : AllSucceeded deps.secret w) :
    Prog.Ends (fun _ w' => AllSucceeded deps.secret w') (AllButLast deps.secret)
      (dispatch deps de w) := by
  obtain ⟨calls, performed⟩ := dispatch_performed deps de w
  cases ran : dispatch deps de w with
  | mk result w' =>
      rw [ran] at performed
      have log : w'.log = w.log ++ calls.map fun call => ⟨w.serving, call⟩ := performed.log
      cases result with
      | ok follow =>
          intro entry member
          rw [log] at member
          rcases List.mem_append.mp member with old | new
          · exact all entry old
          · obtain ⟨call, made, rfl⟩ := List.mem_map.mp new
            exact performed.outcome.succeeded call made
      | error e =>
          intro entry member
          rw [log] at member
          have short := performed.outcome.calls_length
          refine all entry ?_
          cases calls with
          | nil =>
              rw [List.map_nil, List.append_nil] at member
              exact List.mem_of_mem_dropLast member
          | cons call rest =>
              obtain rfl : rest = [] := by simpa using short
              rwa [List.map_singleton, List.dropLast_concat] at member

/-- **A port stops at the first failure.**  In every run of `run_port`, whatever the boundaries
answer and whenever the timers fire: a call that fails, or a reply that does not verify or
parse, is the last thing the port does, and the run returns an error. -/
theorem port_fails_stop [LawfulRadiusProto] (base : Deps ω) (opening : Opening ω) (port : String)
    (ctxTemplate : RequestContext) (cfg : PaeConfig) (schedule : List (List (Background TimerKey)))
    (env : ω) (picks : List Pick) :
    let run := runPortUntilError base opening port cfg picks
      (.start port ctxTemplate cfg ⟨.new, schedule, env⟩)
    ∀ before entry after, run.2.log = before ++ entry :: after →
      entry.call.succeeds base.secret = false → after = [] ∧ ∃ e, run.1 = .error e := by
  intro run before entry after split failed
  have keeps : KeepsEvents (onTokio base) (fun _ _ => AllSucceeded base.secret)
      (AllSucceeded base.secret) (AllButLast base.secret) := by
    refine keepsEvents_of_dispatch ?_ fun de w all => ends_dispatch_succeeded _ de all
    intro mac event w all entry member
    rcases List.mem_append.mp member with old | new
    · exact all entry old
    · rw [List.mem_singleton.mp new]
      rfl
  have ended : Prog.Ends (fun _ w => AllSucceeded base.secret w) (AllButLast base.secret) run :=
    ends_runPort keeps (Unmoved.rounds fun _ _ _ all => all) (fun _ all => all.allButLast)
      ⟨fun _ all => all, fun _ all => all⟩ cfg picks
      (fun w all => ends_applyEffects (fun de _ w all => ends_dispatch_succeeded _ de all) all)
      (fun entry member => by cases member)
  have contrary : entry.call.succeeds base.secret ≠ true := by
    rw [failed]
    exact Bool.false_ne_true
  cases outcome : run with
  | mk result w =>
      rw [outcome] at ended split
      have split : w.log = before ++ entry :: after := split
      cases result with
      | ok u => exact absurd (ended entry (by rw [split]; simp)) contrary
      | error e =>
          refine ⟨?_, e, rfl⟩
          by_contra some
          refine contrary (ended entry ?_)
          rw [split, List.dropLast_append_of_ne_nil (by simp), List.dropLast_cons_of_ne_nil some]
          simp

end FailStop

namespace Site

/-- A trap that holds and a socket that opens. -/
def opening : Opening Script := ⟨fun _ => pure (), fun _ => pure ()⟩

attribute [local instance] proto

/-- A station shows up, stays silent for a while and shows up again. -/
def silence : List Pick := [.source (.frame startFrame), .source .timer, .source (.frame startFrame)]

/-- The server that is asked about the address of the station is not there. -/
def unreachable : Except AuthdError Unit × World (Runtime Script) :=
  runPortUntilError deps opening "Ethernet4" config silence
    (.start "Ethernet4" context config ⟨.new, expiry, ⟨[], []⟩⟩)

end Site

/-- The request fails, and the frame that follows is not looked at. -/
theorem port_fails_stop_unreachable :
    Site.unreachable.2.log.length = 8 ∧ ∃ e, Site.unreachable.1 = .error e := by
  have eight : Site.unreachable.2.log.length = 8 := by decide +kernel
  have one : (Site.unreachable.2.log.drop 7).length = 1 := by rw [List.length_drop, eight]
  obtain ⟨entry, last⟩ := List.length_eq_one_iff.mp one
  have failed : (Site.unreachable.2.log.drop 7).map
      (fun entry => @Call.succeeds Site.proto Site.deps.secret entry.call) = [false] := by
    decide +kernel
  rw [last] at failed
  have split : Site.unreachable.2.log = Site.unreachable.2.log.take 7 ++ [entry] := by
    rw [← last, List.take_append_drop]
  have stops := @port_fails_stop _ Site.proto Site.lawful Site.deps Site.opening "Ethernet4"
    Site.context Site.config expiry ⟨[], []⟩ Site.silence
  unfold Site.unreachable at split ⊢
  exact ⟨eight, (stops _ entry [] split (List.head_eq_of_cons_eq failed)).2⟩

end Authenticator.Authd
