/-
# Authd.EventLoop -- what a port does is what serving its events does

`run_port` races the socket against tokio tasks that sleep and send.  `serve` has none of that:
it hands the orchestrator a list of events, one after the other.  `World.plain` forgets the
scheduler and its tasks, and `port_serves` says that nothing else is lost: in every run, under
every schedule of the tasks, the port is where serving a list of events takes it, and that list
is the frames the socket received merged with the expiries the loop took, both in order.

A run that has not ended has met no failure, so what holds of served lists whose calls succeed
holds of a running port.
-/
import Authenticator.Theory.Pending
import Authenticator.Theory.Shadow
import Authenticator.Authd.PortLoop

namespace Authenticator.Authd

set_option autoImplicit false

open Authenticator.Pacp Authenticator.Pae Authenticator.Radius Authenticator.Theory
open Authenticator.Theory.Timers (Background takings)
open Authenticator.Theory.Prog (Shadows)

variable {ω : Type}

/-- A port without its timers. -/
def World.plain (w : World (Runtime ω)) : World ω where
  orch := w.orch
  pae := w.pae
  env := w.env.env
  serving := w.serving
  log := w.log

/-- Boundaries that start no timer. -/
def timerless (base : Deps ω) : Deps ω :=
  { base with
    arm := fun _ _ _ env => env
    cancel := fun _ _ env => env
    cancelAll := fun _ env => env }

/-! ## Every call is the same call -/

@[simp] theorem Runtime.env_interlude (r : Runtime ω) : r.interlude.env = r.env := by
  rw [Runtime.interlude_env]

section Effects

theorem shadows_awaiting {ε α : Type} (m : Prog ε ω α) (call : Except ε α → Call) :
    Shadows World.plain (onBoundary (awaiting m) call) (onBoundary m call) := by
  intro w
  simp [onBoundary, awaiting, World.plain, World.record]

theorem shadows_scheduling (f : TokioScheduler → TokioScheduler) (call : Call) :
    Shadows (World.plain (ω := ω)) (onScheduler (scheduling f) call) (onScheduler id call) := by
  intro w
  simp [onScheduler, scheduling, World.plain, World.record]

theorem shadows_onRadius {α : Type} (mac : MacAddr) (m : Prog AuthdError RadiusSession α) :
    Shadows (World.plain (ω := ω)) (onRadius mac m) (onRadius mac m) :=
  fun _ => rfl

theorem shadows_freshAuthenticator (base : Deps ω) :
    Shadows World.plain (freshAuthenticator (onTokio base)) (freshAuthenticator (timerless base)) := by
  intro w
  simp [freshAuthenticator, onTokio, timerless, World.plain]

variable [RadiusProto] (base : Deps ω)

theorem shadows_roundTrip (mac : MacAddr)
    (build : RequestContext → Auth16 → Prog AuthdError RadiusSession Packet) :
    Shadows World.plain (roundTrip (onTokio base) mac build) (roundTrip (timerless base) mac build) :=
  Prog.shadows_get_bind fun w =>
    (shadows_freshAuthenticator base).bind fun authenticator =>
      (shadows_onRadius mac (build (w.orch.ctxFor mac) authenticator)).bind fun request =>
        (shadows_awaiting (base.accessRequest request) _).bind fun reply =>
          (shadows_onRadius mac (RadiusSession.handleReply reply base.secret)).bind fun _ =>
            Prog.shadows_pure _

theorem shadows_sendAccounting (mac : MacAddr) (trigger : AcctTrigger) :
    Shadows World.plain (sendAccounting (onTokio base) mac trigger)
      (sendAccounting (timerless base) mac trigger) := by
  have allocates : Shadows (World.plain (ω := ω)) (acctIdFor mac) (acctIdFor mac) := fun _ => rfl
  refine allocates.bind fun acctId =>
    (shadows_onRadius mac RadiusSession.nextAccountingIdentifier).bind fun id =>
      Prog.shadows_get_bind fun w => ?_
  exact (Prog.shadows_ofExcept _).bind fun request => shadows_awaiting (base.accounting request) _

omit [RadiusProto] in
theorem shadows_noteSessionTimeout (mac : Option MacAddr) (auth : PortAuthorization) :
    Shadows (World.plain (ω := ω)) (noteSessionTimeout mac auth) (noteSessionTimeout mac auth) := by
  unfold noteSessionTimeout
  split
  · exact Prog.shadows_modify fun _ => rfl
  · exact Prog.shadows_pure _

/-- **The step lemma**: performing an effect. -/
theorem shadows_dispatch (de : DirectedEffect) :
    Shadows World.plain (dispatch (onTokio base) de) (dispatch (timerless base) de) := by
  have none' : Shadows World.plain (pure none : Prog AuthdError (World (Runtime ω)) (Option Event))
      (pure none) := Prog.shadows_pure _
  obtain ⟨mac, effect⟩ := de
  cases effect with
  | startMab mac =>
      exact shadows_roundTrip base mac fun ctx authenticator =>
        RadiusSession.buildMabRequest ctx authenticator base.secret
  | setAuthorization auth =>
      exact (shadows_noteSessionTimeout mac auth).bind fun _ => Prog.shadows_get_bind fun w =>
        ((shadows_awaiting _ _).mapError AuthdError.enforce).bind fun _ => none'
  | txEapToSupplicant eap =>
      cases mac with
      | none => exact none'
      | some mac => exact (shadows_awaiting (base.sendEap mac eap) _).bind fun _ => none'
  | toAuthServer eap =>
      cases mac with
      | none => exact none'
      | some mac =>
          exact shadows_roundTrip base mac fun ctx authenticator =>
            RadiusSession.buildEapRequest ctx (eapIdentity eap) eap authenticator base.secret
  | armTimer kind =>
      cases mac with
      | none => exact none'
      | some mac =>
          intro w
          have same : w.plain.orch.timerDuration mac kind (timerless base).timers =
              w.orch.timerDuration mac kind (onTokio base).timers := rfl
          rw [dispatch_armTimer, dispatch_armTimer, same]
          cases w.orch.timerDuration mac kind (onTokio base).timers with
          | none => exact none' w
          | some secs => exact ((shadows_scheduling _ _).bind fun _ => none') w
  | cancelTimer kind =>
      cases mac with
      | none => exact none'
      | some mac => exact (shadows_scheduling _ _).bind fun _ => none'
  | cancelAllTimers =>
      cases mac with
      | none => exact none'
      | some mac => exact (shadows_scheduling _ _).bind fun _ => none'
  | accounting trigger =>
      cases mac with
      | none => exact none'
      | some mac => exact (shadows_sendAccounting base mac trigger).bind fun _ => none'

theorem shadows_handleEvent (mac : MacAddr) (event : Event) :
    Shadows World.plain (handleEvent (onTokio base) mac event)
      (handleEvent (timerless base) mac event) := by
  have queues : Worklist.Shadows World.plain (eventQueue (onTokio base)) (eventQueue (timerless base)) :=
    ⟨fun _ _ => rfl, fun task de => (shadows_dispatch base de).bind fun _ => Prog.shadows_pure _⟩
  exact queues.drain 64 [(mac, event)]

theorem shadows_applyEffects (fx : List DirectedEffect) :
    Shadows World.plain (applyEffects (onTokio base) fx) (applyEffects (timerless base) fx) := by
  induction fx with
  | nil => exact Prog.shadows_pure _
  | cons de rest ih => exact (shadows_dispatch base de).bind fun _ => ih

end Effects

/-! ## Every run is a run of `serve` -/

/-- An expiry is no frame. -/
def isExpiry (input : MacAddr × Event) : Bool :=
  match input.2 with
  | .timer _ => true
  | _ => false

/-- The event of a pick that is a frame. -/
def Pick.event : Pick → Option (MacAddr × Event)
  | .source (.frame bytes) => frameEvent bytes
  | _ => none

/-- The event of an expiry. -/
def expiryOf (key : TimerKey) : MacAddr × Event := (key.1, .timer key.2)

section Runs

variable [RadiusProto] (base : Deps ω)

/-- The calls of `run_port` before its loop. -/
def openPort (opening : Opening ω) (port : String) (cfg : PaeConfig) :
    Prog AuthdError (World ω) Unit := do
  Prog.mapError .enforce ((opening.ensureEapolTrap port).zoom World.env fun env w => { w with env := env })
  (opening.openSocket port).zoom World.env fun env w => { w with env := env }
  applyEffects base (PortPae.new cfg).enable

/-- No call of a list of events fails. -/
def Succeeds (w : World ω) (inputs : List (MacAddr × Event)) : Prop :=
  ServesWithin base (fun _ _ _ => False) w inputs

/-- Picks took a port from `start` to where serving `inputs` takes it: the frames among the
picks served, merged with the expiries taken.  Nothing but the last input may have failed. -/
structure Serves (start : World ω) (already : List TimerKey) (picks served : List Pick)
    (inputs : List (MacAddr × Event)) (run : Except AuthdError Unit × World (Runtime ω)) : Prop where
  inOrder : served <+: picks
  frames : inputs.filter (fun input => !isExpiry input) = served.filterMap Pick.event
  expiries : (takings run.2.env.scheduler).map expiryOf =
    already.map expiryOf ++ inputs.filter isExpiry
  reached : run.2.plain = serve (timerless base) start inputs
  stops : Succeeds (timerless base) start inputs.dropLast
  runs : run.1 = .ok () → served = picks ∧ Succeeds (timerless base) start inputs

variable {base}

theorem serve_append (deps : Deps ω) (w : World ω) (first later : List (MacAddr × Event)) :
    serve deps w (first ++ later) = serve deps (serve deps w first) later := by
  induction first generalizing w with
  | nil => rfl
  | cons input rest ih => exact ih _

theorem succeeds_append {deps : Deps ω} {w : World ω} {first later : List (MacAddr × Event)}
    (one : Succeeds deps w first) (two : Succeeds deps (serve deps w first) later) :
    Succeeds deps w (first ++ later) := by
  induction first generalizing w with
  | nil => exact two
  | cons input rest ih => exact ⟨one.1, ih one.2 two⟩

/-- A run that goes on from where another stopped to wait. -/
theorem Serves.cons {start : World ω} {already : List TimerKey} {pick : Pick}
    {picks served : List Pick} {one inputs : List (MacAddr × Event)} {w : World (Runtime ω)}
    {run : Except AuthdError Unit × World (Runtime ω)}
    (first : Serves base start already [pick] [pick] one (.ok (), w))
    (later : Serves base w.plain (takings w.env.scheduler) picks served inputs run) :
    Serves base start already (pick :: picks) (pick :: served) (one ++ inputs) run := by
  have succeeded : Succeeds (timerless base) start one := (first.runs rfl).2
  have reached : w.plain = serve (timerless base) start one := first.reached
  refine ⟨List.cons_prefix_cons.mpr ⟨rfl, later.inOrder⟩, ?_, ?_, ?_, ?_, ?_⟩
  · have frames : one.filter (fun input => !isExpiry input) = [pick].filterMap Pick.event := first.frames
    rw [List.filter_append, frames, later.frames, ← List.filterMap_append, List.singleton_append]
  · have expired : (takings w.env.scheduler).map expiryOf =
        already.map expiryOf ++ one.filter isExpiry := first.expiries
    rw [later.expiries, expired, List.filter_append, List.append_assoc]
  · rw [later.reached, reached, serve_append]
  · cases inputs with
    | nil =>
        rw [List.append_nil]
        exact first.stops
    | cons input rest =>
        rw [List.dropLast_append_of_ne_nil (by simp)]
        exact succeeds_append succeeded (reached ▸ later.stops)
  · intro done
    obtain ⟨rfl, ran⟩ := later.runs done
    exact ⟨rfl, succeeds_append succeeded (reached ▸ ran)⟩

/-- What is served is what the daemon produces. -/
theorem Serves.daemon {start : World ω} {already : List TimerKey} {picks served : List Pick}
    {inputs : List (MacAddr × Event)} {run : Except AuthdError Unit × World (Runtime ω)}
    (serves : Serves base start already picks served inputs run) :
    ∀ input ∈ inputs, DaemonEvent input.2 := by
  rintro ⟨mac, event⟩ member
  cases timed : isExpiry (mac, event) with
  | true =>
      cases event with
      | timer kind => trivial
      | _ => cases timed
  | false =>
      have frame : (mac, event) ∈ served.filterMap Pick.event := by
        rw [← serves.frames]
        exact List.mem_filter.mpr ⟨member, by rw [timed]; rfl⟩
      obtain ⟨pick, -, became⟩ := List.mem_filterMap.mp frame
      cases pick with
      | socketError => cases became
      | source source =>
          cases source with
          | timer => cases became
          | frame bytes => exact (frameEvent_daemon became).1

/-- A round that brought nothing in. -/
theorem serves_nothing {w w' : World (Runtime ω)} {pick : Pick} {r : Except AuthdError Unit}
    (silent : pick.event = none) (same : w'.plain = w.plain)
    (untaken : takings w'.env.scheduler = takings w.env.scheduler) :
    Serves base w.plain (takings w.env.scheduler) [pick] [pick] [] (r, w') where
  inOrder := List.prefix_rfl
  frames := by simp [silent]
  expiries := by simp [untaken]
  reached := same
  stops := trivial
  runs _ := ⟨rfl, trivial⟩

omit [RadiusProto] in
@[simp] theorem takings_interlude (r : Runtime ω) :
    takings r.interlude.scheduler = takings r.scheduler := by
  unfold Runtime.interlude
  split
  · rfl
  · exact Timers.takings_background _

omit [RadiusProto] in
/-- The boundary calls take no expiry. -/
theorem onTokio_takes (base : Deps ω) (taken : List TimerKey) :
    (onTokio base).Keeps fun r => takings r.scheduler = taken := by
  constructor <;> intros <;>
    simp_all [onTokio, awaiting, scheduling, TokioScheduler.arm, TokioScheduler.cancel,
      TokioScheduler.cancelAll]

/-- A round that brought one event in. -/
theorem serves_event {w : World (Runtime ω)} {start : World ω} {already : List TimerKey} {pick : Pick}
    {input : MacAddr × Event} (same : w.plain = start)
    (frame : pick.event = if isExpiry input then none else some input)
    (expiry : (takings w.env.scheduler).map expiryOf =
      already.map expiryOf ++ if isExpiry input then [input] else []) :
    Serves base start already [pick] [pick] [input]
      (handleEvent (onTokio base) input.1 input.2 w) := by
  have shadow := shadows_handleEvent base input.1 input.2 w
  rw [same] at shadow
  refine ⟨List.prefix_rfl, ?_, ?_, ?_, trivial, ?_⟩
  · cases timed : isExpiry input <;> simp [frame, timed]
  · have untaken : takings (handleEvent (onTokio base) input.1 input.2 w).2.env.scheduler =
        takings w.env.scheduler := handleEvent_env (onTokio_takes base _) input.1 input.2 rfl
    rw [untaken, expiry]
    cases timed : isExpiry input <;> simp [timed]
  · show _ = (handleEvent (timerless base) input.1 input.2 start).2
    rw [shadow]
  · intro done
    refine ⟨rfl, Worklist.drainsWithin_of_ok _ _ 64 [(input.1, input.2)] start ?_, trivial⟩
    have succeeded : (handleEvent (timerless base) input.1 input.2 start).1 = .ok () := by
      rw [shadow, done]
    exact succeeded

/-- **The step lemma of the loop.** -/
theorem serves_round (base : Deps ω) (pick : Pick) (w : World (Runtime ω)) :
    ∃ inputs, Serves base w.plain (takings w.env.scheduler) [pick] [pick] inputs
      (round base pick w) := by
  have same : World.plain { w with env := w.env.interlude } = w.plain := by
    simp [World.plain]
  have beside := takings_interlude w.env
  cases pick with
  | socketError => exact ⟨[], serves_nothing rfl rfl rfl⟩
  | source source =>
      cases source with
      | frame bytes =>
          show ∃ inputs, Serves base w.plain _ _ _ inputs
            (dispatchFrame (onTokio base) bytes { w with env := w.env.interlude })
          unfold dispatchFrame
          cases became : frameEvent bytes with
          | none => exact ⟨[], serves_nothing became same beside⟩
          | some input =>
              have untimed : isExpiry input = false := by
                obtain ⟨mac, event⟩ := input
                rcases event_of_frame became with rfl | rfl | ⟨eap, rfl⟩ <;> rfl
              refine ⟨[input], serves_event same ?_ ?_⟩
              · simpa [untimed, Pick.event] using became
              · simp [untimed, beside]
      | timer =>
          show ∃ inputs, Serves base w.plain _ _ _ inputs (turn base .timer w)
          unfold turn
          dsimp only
          split
          · exact ⟨[], serves_nothing rfl same beside⟩
          · rename_i task scheduler taken
            refine ⟨[expiryOf task.key], serves_event same rfl ?_⟩
            rw [← beside]
            simp [Timers.takings_take taken, isExpiry, expiryOf]

/-- **The run lemma of the loop.** -/
theorem serves_rounds (base : Deps ω) (picks : List Pick) (w : World (Runtime ω)) :
    ∃ served inputs, Serves base w.plain (takings w.env.scheduler) picks served inputs
      (picks.forM (round base) w) := by
  induction picks generalizing w with
  | nil => exact ⟨[], [], List.prefix_rfl, rfl, by simp; rfl, rfl, trivial, fun _ => ⟨rfl, trivial⟩⟩
  | cons pick rest ih =>
      obtain ⟨one, first⟩ := serves_round base pick w
      rcases ran : round base pick w with ⟨result, w'⟩
      rw [ran] at first
      cases result with
      | ok u =>
          obtain ⟨served, inputs, later⟩ := ih w'
          refine ⟨pick :: served, one ++ inputs, ?_⟩
          have goes : (pick :: rest).forM (round base) w = rest.forM (round base) w' :=
            Prog.bind_ok ran _
          rw [goes]
          exact first.cons later
      | error e =>
          have ends : (pick :: rest).forM (round base) w = (.error e, w') := Prog.bind_error ran _
          rw [ends]
          exact ⟨[pick], one, by simp, first.frames, first.expiries, first.reached, first.stops,
            fun done => by cases done⟩

/-- The calls of `run_port` before its loop, with the tasks beside them. -/
def openBeside (base : Deps ω) (opening : Opening ω) (port : String) (cfg : PaeConfig) :
    Prog AuthdError (World (Runtime ω)) Unit := do
  Prog.mapError .enforce (onEnv (opening.ensureEapolTrap port))
  onEnv (opening.openSocket port)
  applyEffects (onTokio base) (PortPae.new cfg).enable

theorem runPortUntilError_eq (opening : Opening ω) (port : String) (cfg : PaeConfig)
    (picks : List Pick) :
    runPortUntilError base opening port cfg picks =
      openBeside base opening port cfg >>= fun _ => picks.forM (round base) := by
  simp only [openBeside, Prog.bind_assoc]
  rfl

theorem shadows_open (opening : Opening ω) (port : String) (cfg : PaeConfig) :
    Shadows World.plain (openBeside base opening port cfg)
      (openPort (timerless base) opening port cfg) := by
  have calls : ∀ {ε : Type} (m : Prog ε ω Unit), Shadows World.plain (onEnv m)
      (m.zoom World.env fun env w => { w with env := env }) := fun _ _ => rfl
  exact ((calls _).mapError AuthdError.enforce).bind fun _ => (calls _).bind fun _ =>
    shadows_applyEffects base _

/-- Nothing expires before the loop. -/
theorem takings_open (base : Deps ω) (opening : Opening ω) (port : String) (cfg : PaeConfig)
    {w : World (Runtime ω)} {taken : List TimerKey} (before : takings w.env.scheduler = taken) :
    takings (openBeside base opening port cfg w).2.env.scheduler = taken := by
  let Taken : World (Runtime ω) → Prop := fun w => takings w.env.scheduler = taken
  have call : ∀ {ε : Type} (m : Prog ε ω Unit) (w : World (Runtime ω)), Taken w →
      Prog.Ends (fun _ w' => Taken w') Taken (onEnv m w) := fun _ _ untaken =>
    Prog.ends_state untaken
  have effects : ∀ w, Taken w → Prog.Ends (fun _ w' => Taken w') Taken
      (applyEffects (onTokio base) (PortPae.new cfg).enable w) := by
    refine fun w untaken => ends_applyEffects (fun de _ w untaken => ?_) untaken
    obtain ⟨calls, performed⟩ := dispatch_performed (onTokio base) de w
    have later := performed.outcome.env (onTokio_takes base taken) untaken
    exact Prog.ends_state (P := Taken) later
  have ended : Prog.Ends (fun _ w' => Taken w') Taken (openBeside base opening port cfg w) :=
    ((call _ w before).mapError AuthdError.enforce).bind fun _ w untaken =>
      (call _ w untaken).bind fun _ w untaken => effects w untaken
  exact ended.state (fun _ _ untaken => untaken) fun _ untaken => untaken

/-- The run lemma of `run_port`, from anywhere. -/
theorem serves_runPort (base : Deps ω) (opening : Opening ω) (port : String) (cfg : PaeConfig)
    (picks : List Pick) (start : World (Runtime ω)) (before : takings start.env.scheduler = []) :
    ∃ served inputs,
      Serves base (openPort (timerless base) opening port cfg start.plain).2 [] picks served inputs
        (runPortUntilError base opening port cfg picks start) ∧
      ∀ e, (openPort (timerless base) opening port cfg start.plain).1 = .error e →
        (runPortUntilError base opening port cfg picks start).1 = .error e ∧ served = [] := by
  have untaken := takings_open base opening port cfg before
  rw [runPortUntilError_eq]
  rcases ran : openBeside base opening port cfg start with ⟨result, w⟩
  rw [ran] at untaken
  rw [(shadows_open opening port cfg).ran ran]
  cases result with
  | ok u =>
      obtain ⟨served, inputs, serves⟩ := serves_rounds base picks w
      rw [untaken] at serves
      rw [Prog.bind_ok ran]
      exact ⟨served, inputs, serves, fun e failed => by cases failed⟩
  | error e =>
      rw [Prog.bind_error ran]
      refine ⟨[], [], ⟨List.nil_prefix, rfl, ?_, rfl, trivial, fun done => by cases done⟩, ?_⟩
      · simp [untaken]
      · rintro e ⟨⟩
        exact ⟨rfl, rfl⟩

/-- **The event loop refines serving.**  Every run of `run_port`, whatever the boundaries answer
and however the timer tasks run beside it, takes the port, its orchestrator, its environment and
the calls made to where serving a list of events takes them: the frames of the picks served,
in order, merged with the expiries the loop took, in order.  Nothing but the handling of the last
event may have failed; a run that has not ended served every pick, and no call of it failed. -/
theorem port_serves (base : Deps ω) (opening : Opening ω) (port : String)
    (ctxTemplate : RequestContext) (cfg : PaeConfig) (schedule : List (List (Background TimerKey)))
    (env : ω) (picks : List Pick) :
    let opened := openPort (timerless base) opening port cfg (.start port ctxTemplate cfg env)
    let run := runPortUntilError base opening port cfg picks
      (.start port ctxTemplate cfg ⟨.new, schedule, env⟩)
    ∃ served inputs, Serves base opened.2 [] picks served inputs run ∧
      ∀ e, opened.1 = .error e → run.1 = .error e ∧ served = [] :=
  serves_runPort base opening port cfg picks (.start port ctxTemplate cfg ⟨.new, schedule, env⟩) rfl

end Runs

end Authenticator.Authd
