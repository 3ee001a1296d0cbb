/-
# Pae.PortPosture -- the dataplane commands of a port track its sessions

The directed effects of a port fold into a map from target to last commanded
posture; the target of a session is its MAC, or the whole port in `multiHost`.
`PortInv` says that this map and the session list agree after every call: each
session satisfies `PostureInv` at its own target, and a target nobody holds is
closed.  `portInv_run` is the invariant over whole runs of `handle` and
`linkDown`.
-/
import Mathlib.Logic.Function.Basic
import Authenticator.Pae.SessionPosture
import Authenticator.Pae.Port

namespace Authenticator.Pae

set_option autoImplicit false

open Authenticator.Pacp Authenticator.Theory

inductive PortInput where
  | handle (mac : MacAddr) (event : Event)
  | linkDown
  deriving DecidableEq, Repr

def portMachine : Transducer PortPae PortInput DirectedEffect where
  step p
    | .handle mac event => p.handle mac event
    | .linkDown => p.linkDown

/-- The last commanded posture of every target. -/
abbrev Postures := Option MacAddr → Option PortAuthorization

def DirectedEffect.command (P : Postures) (de : DirectedEffect) : Postures :=
  Function.update P de.mac (de.effect.command (P de.mac))

def portObserver : Observer PortInput DirectedEffect Postures where
  hear P _ := P
  see := DirectedEffect.command

/-- The postures after a list of directed effects. -/
def directed (P : Postures) (fx : List DirectedEffect) : Postures :=
  fx.foldl DirectedEffect.command P

/-- Where the authorization of a MAC is enforced. -/
def portTarget (hostMode : HostMode) (mac : MacAddr) : Option MacAddr :=
  if hostMode = .multiHost then none else some mac

/-- Not forwarding: never commanded, or commanded `Unauthorized`. -/
def Closed (posture : Option PortAuthorization) : Prop :=
  posture = none ∨ posture = some .unauthorized

instance (posture : Option PortAuthorization) : Decidable (Closed posture) :=
  inferInstanceAs (Decidable (_ ∨ _))

theorem Closed.not_authorized {posture : Option PortAuthorization} (closed : Closed posture)
    (a : Authorization) : posture ≠ some (.authorized a) := by
  rcases closed with rfl | rfl <;> simp

theorem Closed.not_fallback {posture : Option PortAuthorization} (closed : Closed posture)
    (reason : FallbackReason) (vlan : Option String) :
    posture ≠ some (.fallback reason vlan) := by
  rcases closed with rfl | rfl <;> simp

@[simp] theorem directed_nil (P : Postures) : directed P [] = P := rfl

@[simp] theorem directed_append (P : Postures) (first second : List DirectedEffect) :
    directed P (first ++ second) = directed (directed P first) second :=
  List.foldl_append

@[simp] theorem directed_cons (P : Postures) (de : DirectedEffect) (rest : List DirectedEffect) :
    directed P (de :: rest) = directed (de.command P) rest := rfl

/-- An effect that is no command changes no posture. -/
theorem DirectedEffect.command_quiet {de : DirectedEffect} (P : Postures)
    (quiet : de.effect.isSetAuthorization = false) : de.command P = P := by
  have same : de.effect.command (P de.mac) = P de.mac := by
    generalize de.effect = effect at quiet
    cases effect <;> first | rfl | cases quiet
  rw [DirectedEffect.command, same, Function.update_eq_self]

theorem directed_of_not_mem {fx : List DirectedEffect} {target : Option MacAddr}
    (untouched : ∀ de ∈ fx, de.mac ≠ target) (P : Postures) : directed P fx target = P target := by
  induction fx generalizing P with
  | nil => rfl
  | cons de rest ih =>
      rw [directed_cons, ih fun later member => untouched later (List.mem_cons_of_mem _ member)]
      exact Function.update_of_ne (untouched de List.mem_cons_self).symm _ _

/-- Effects either leave a target alone or settle it, whatever it was before. -/
theorem directed_settles (fx : List DirectedEffect) (target : Option MacAddr) :
    (∀ P, directed P fx target = P target) ∨ ∃ posture, ∀ P, directed P fx target = posture := by
  induction fx with
  | nil => exact Or.inl fun _ => rfl
  | cons de rest ih =>
      rcases ih with alone | ⟨posture, settled⟩
      · by_cases here : de.mac = target
        · subst here
          cases effect : de.effect with
          | setAuthorization auth =>
              refine Or.inr ⟨some auth, fun P => ?_⟩
              rw [directed_cons, alone, DirectedEffect.command, effect, Function.update_self]
              rfl
          | _ =>
              refine Or.inl fun P => ?_
              rw [directed_cons, alone, DirectedEffect.command_quiet P (by rw [effect]; rfl)]
        · refine Or.inl fun P => ?_
          rw [directed_cons, alone]
          exact Function.update_of_ne (Ne.symm here) _ _
      · exact Or.inr ⟨posture, fun P => settled _⟩

/-- The decorated effects of a session act at its target and nowhere else. -/
theorem directed_decorate (hostMode : HostMode) (mac : MacAddr) (P : Postures)
    (fx : List Effect) :
    directed P (decorate hostMode mac fx) =
      Function.update P (portTarget hostMode mac)
        (commanded (P (portTarget hostMode mac)) fx) := by
  induction fx generalizing P with
  | nil => simp [decorate]
  | cons effect rest ih =>
      have one : DirectedEffect.command P
          { mac := if hostMode = .multiHost ∧ effect.isSetAuthorization then none else some mac,
            effect := effect } =
          Function.update P (portTarget hostMode mac)
            (effect.command (P (portTarget hostMode mac))) := by
        by_cases wide : hostMode = .multiHost
        · cases effect <;>
            simp [DirectedEffect.command, Effect.command, Effect.isSetAuthorization, portTarget, wide]
        · simp [DirectedEffect.command, portTarget, wide]
      show directed (DirectedEffect.command P _) (decorate hostMode mac rest) = _
      rw [one, ih, commanded_cons, Function.update_self, Function.update_idem]

/-- A command of a call is directed at the target of its MAC. -/
theorem PortPae.handle_target (p : PortPae) (mac : MacAddr) (event : Event) {de : DirectedEffect}
    (member : de ∈ (p.handle mac event).2) (commands : de.effect.isSetAuthorization = true) :
    de.mac = portTarget p.cfg.hostMode mac := by
  have tagged : ∀ fx, de ∈ decorate p.cfg.hostMode mac fx →
      de.mac = portTarget p.cfg.hostMode mac := by
    intro fx inside
    obtain ⟨effect, -, rfl⟩ := List.mem_map.mp inside
    have commands : effect.isSetAuthorization = true := commands
    simp [portTarget, commands]
  obtain ⟨_, _, _, -, -, same⟩ | ⟨-, -, same⟩ | ⟨-, -, same⟩ := p.handle_cases mac event
  · rw [same] at member
    exact tagged _ member
  · rw [same] at member
    exact tagged _ member
  · rw [same] at member
    cases member

/-- What the sessions of a port and its commanded postures say about each other. -/
structure PortInv (p : PortPae) (P : Postures) : Prop where
  distinct : (p.sessions.map PortSession.mac).Nodup
  live : ∀ s ∈ p.sessions, s.state ≠ .new
  capacity : ∀ n, maxSessions p.cfg.hostMode = some n → p.sessions.length ≤ n
  posture : ∀ s ∈ p.sessions, PostureInv p.cfg s (P (portTarget p.cfg.hostMode s.mac))
  absent : ∀ mac, (∀ s ∈ p.sessions, s.mac ≠ mac) → Closed (P (some mac))
  wide : p.cfg.hostMode ≠ .multiHost ∨ p.sessions = [] → Closed (P none)
  narrow : p.cfg.hostMode = .multiHost → ∀ mac, Closed (P (some mac))

theorem PortInv.new (cfg : PaeConfig) : PortInv (PortPae.new cfg) fun _ => none := by
  constructor <;> simp [PortPae.new, Closed]

/-- Whoever is let through has a live session, and it is in that posture. -/
theorem PortInv.holder {p : PortPae} {P : Postures} (inv : PortInv p P) {target : Option MacAddr}
    (opened : ¬ Closed (P target)) :
    ∃ s ∈ p.sessions, s.state ≠ .new ∧ portTarget p.cfg.hostMode s.mac = target ∧
      PostureInv p.cfg s (P target) := by
  have found : ∃ s ∈ p.sessions, portTarget p.cfg.hostMode s.mac = target := by
    by_contra none
    push Not at none
    apply opened
    cases target with
    | some mac =>
        by_cases shared : p.cfg.hostMode = .multiHost
        · exact inv.narrow shared mac
        · refine inv.absent mac ?_
          rintro s member rfl
          exact none s member (by simp [portTarget, shared])
    | none =>
        refine inv.wide ?_
        by_cases shared : p.cfg.hostMode = .multiHost
        · refine Or.inr (List.eq_nil_iff_forall_not_mem.mpr fun s member => ?_)
          exact none s member (by simp [portTarget, shared])
        · exact Or.inl shared
  obtain ⟨s, member, rfl⟩ := found
  exact ⟨s, member, inv.live s member, rfl, inv.posture s member⟩

theorem PostureInv.of_new {cfg : PaeConfig} {posture : Option PortAuthorization}
    (mac : MacAddr) (closed : Closed posture) :
    PostureInv cfg (PortSession.new mac) posture := by
  refine ⟨fun a => ?_, ?_, ?_, ?_, ?_, fun _ => closed⟩
  · simp [closed.not_authorized a, PortSession.new]
  · simp [PortSession.new]
  · simp [PortSession.new]
  · simp [PortSession.new]
  · simp [PortSession.new]

/-- An admitted session satisfies the posture invariant from a closed target. -/
theorem postureInv_admitted {cfg : PaeConfig} {posture : Option PortAuthorization}
    (mac : MacAddr) (event : Event) (closed : Closed posture) :
    PostureInv cfg (admitted cfg mac event).1
      (commanded posture (admitted cfg mac event).2) := by
  have fresh : PostureInv cfg (PortSession.new mac) posture := .of_new mac closed
  have enabled := PortSession.postureInv_step fresh .enable
  unfold admitted
  split
  · exact enabled
  · simp only [commanded_append]
    exact PortSession.postureInv_step enabled event

namespace PortPae

variable {p : PortPae} {P : Postures}

/-- Every session of an invariant port counts. -/
theorem activeSessions_eq (inv : PortInv p P) : p.activeSessions = p.sessions.length := by
  unfold activeSessions
  rw [List.filter_eq_self.mpr]
  intro s member
  simpa using inv.live s member

/-- A port that can admit has room for one more session. -/
theorem canAdmit_room (inv : PortInv p P) (free : p.canAdmit = true) (n : Nat)
    (bound : maxSessions p.cfg.hostMode = some n) : p.sessions.length < n := by
  have active := activeSessions_eq inv
  unfold canAdmit at free
  cases mode : p.cfg.hostMode <;> simp_all [maxSessions] <;> omega

/-- The sessions beside the one a call touches. -/
structure Others (p : PortPae) (P : Postures) (mac : MacAddr) (others : List PortSession) :
    Prop where
  distinct : (others.map PortSession.mac).Nodup
  different : ∀ s ∈ others, s.mac ≠ mac
  live : ∀ s ∈ others, s.state ≠ .new
  capacity : ∀ n, maxSessions p.cfg.hostMode = some n → others.length < n
  posture : ∀ s ∈ others, PostureInv p.cfg s (P (portTarget p.cfg.hostMode s.mac))
  absent : ∀ other, other ≠ mac → (∀ s ∈ others, s.mac ≠ other) → Closed (P (some other))
  wide : p.cfg.hostMode ≠ .multiHost → Closed (P none)
  narrow : p.cfg.hostMode = .multiHost → ∀ mac, Closed (P (some mac))

/-- In a port-wide mode nobody else has a session. -/
theorem Others.nil {mac : MacAddr} {others : List PortSession} (rest : Others p P mac others)
    (shared : p.cfg.hostMode = .multiHost) : others = [] := by
  have room := rest.capacity 1 (by simp [shared, maxSessions])
  exact List.eq_nil_of_length_eq_zero (by omega)

/-- The others are told elsewhere. -/
theorem Others.target_ne {mac : MacAddr} {others : List PortSession}
    (rest : Others p P mac others) {t : PortSession} (member : t ∈ others) :
    portTarget p.cfg.hostMode t.mac ≠ portTarget p.cfg.hostMode mac := by
  by_cases shared : p.cfg.hostMode = .multiHost
  · rw [rest.nil shared] at member
    cases member
  · simpa [portTarget, shared] using rest.different t member

/-- A session put beside the others has a MAC of its own. -/
theorem Others.distinct_beside {mac : MacAddr} {before later : List PortSession} {s : PortSession}
    (rest : Others p P mac (before ++ later)) (own : s.mac = mac) :
    ((before ++ s :: later).map PortSession.mac).Nodup := by
  have spread : ((before ++ s :: later).map PortSession.mac).Perm
      (mac :: (before ++ later).map PortSession.mac) := by
    have moved : (before ++ s :: later).Perm (s :: (before ++ later)) := List.perm_middle
    have mapped := moved.map PortSession.mac
    rwa [List.map_cons, own] at mapped
  rw [spread.nodup_iff, List.nodup_cons]
  refine ⟨?_, rest.distinct⟩
  rintro clash
  obtain ⟨t, member, same⟩ := List.mem_map.mp clash
  exact rest.different t member same

/-- A session that pruning removes had torn down. -/
theorem new_of_pruned {before later : List PortSession} {s : PortSession}
    (gone : s ∉ { p with sessions := before ++ s :: later }.prune.sessions) : s.state = .new := by
  by_contra alive
  exact gone (mem_prune.mpr ⟨by simp, alive⟩)

/-- Putting a session that satisfies its invariant beside the others, and pruning,
restores the invariant of the port. -/
theorem Others.settle {mac : MacAddr} {before later : List PortSession} {s : PortSession}
    {posture : Option PortAuthorization} (rest : Others p P mac (before ++ later))
    (own : s.mac = mac) (held : PostureInv p.cfg s posture) :
    PortInv { p with sessions := before ++ s :: later }.prune
      (Function.update P (portTarget p.cfg.hostMode mac) posture) := by
  have elsewhere : ∀ target, target ≠ portTarget p.cfg.hostMode mac →
      Function.update P (portTarget p.cfg.hostMode mac) posture target = P target :=
    fun target foreign => Function.update_of_ne foreign _ _
  have inside : ∀ t, t ∈ before ++ s :: later ↔ t = s ∨ t ∈ before ++ later := by
    intro t; simp only [List.mem_append, List.mem_cons]; tauto
  have narrow : p.cfg.hostMode = .multiHost → ∀ other,
      Closed (Function.update P (portTarget p.cfg.hostMode mac) posture (some other)) := by
    intro shared other
    rw [elsewhere (some other) (by simp [portTarget, shared])]
    exact rest.narrow shared other
  constructor
  · -- pruning keeps a sublist
    have sub : ({ p with sessions := before ++ s :: later }.prune.sessions.map PortSession.mac).Sublist
        ((before ++ s :: later).map PortSession.mac) := List.Sublist.map _ List.filter_sublist
    exact sub.nodup (rest.distinct_beside own)
  · intro t member
    exact (mem_prune.mp member).2
  · intro n bound
    have room := rest.capacity n bound
    have short : { p with sessions := before ++ s :: later }.prune.sessions.length ≤
        (before ++ s :: later).length := List.length_filter_le _ _
    simp only [List.length_append, List.length_cons] at short room
    omega
  · intro t member
    show PostureInv p.cfg t (Function.update P _ posture (portTarget p.cfg.hostMode t.mac))
    rcases (inside t).mp (mem_prune.mp member).1 with rfl | other
    · rw [own, Function.update_self]
      exact held
    · rw [elsewhere _ (rest.target_ne other)]
      exact rest.posture t other
  · intro other missing
    by_cases shared : p.cfg.hostMode = .multiHost
    · exact narrow shared other
    · by_cases here : other = mac
      · -- the stepped session is gone from the list, so it had torn down
        subst here
        have gone : s.state = .new := new_of_pruned fun member => missing s member own
        simp only [portTarget, shared, if_false, Function.update_self]
        exact held.fresh gone
      · rw [elsewhere (some other) (by simpa [portTarget, shared] using here)]
        apply rest.absent other here
        intro t member
        exact missing t (mem_prune.mpr ⟨(inside t).mpr (Or.inr member), rest.live t member⟩)
  · intro quiet
    by_cases shared : p.cfg.hostMode = .multiHost
    · have gone : s.state = .new := by
        rcases quiet with unshared | empty
        · exact absurd shared unshared
        · have missing : s ∉ { p with sessions := before ++ s :: later }.prune.sessions := by
            rw [empty]
            exact List.not_mem_nil
          exact new_of_pruned missing
      simp only [portTarget, shared, if_true, Function.update_self]
      exact held.fresh gone
    · rw [elsewhere none (by simp [portTarget, shared])]
      exact rest.wide shared
  · exact narrow

/-- The sessions beside one that is already there. -/
theorem others_of_split (inv : PortInv p P) {before later : List PortSession} {s : PortSession}
    (split : p.sessions = before ++ s :: later) : Others p P s.mac (before ++ later) := by
  have within : ∀ t ∈ before ++ later, t ∈ p.sessions := by
    intro t member
    rw [split]
    simp only [List.mem_append, List.mem_cons] at member ⊢
    tauto
  have spread : (p.sessions.map PortSession.mac).Perm
      (s.mac :: (before ++ later).map PortSession.mac) := by
    have moved : (before ++ s :: later).Perm (s :: (before ++ later)) := List.perm_middle
    rw [split]
    exact moved.map PortSession.mac
  have apart := spread.nodup_iff.mp inv.distinct
  rw [List.nodup_cons] at apart
  refine ⟨apart.2, ?_, fun t member => inv.live t (within t member), ?_,
    fun t member => inv.posture t (within t member), ?_, fun unshared => inv.wide (Or.inl unshared),
    inv.narrow⟩
  · intro t member same
    exact apart.1 (List.mem_map.mpr ⟨t, member, same⟩)
  · intro n bound
    have room := inv.capacity n bound
    rw [split] at room
    simp only [List.length_append, List.length_cons] at room ⊢
    omega
  · intro other foreign missing
    apply inv.absent other
    intro t member
    rw [split] at member
    simp only [List.mem_append, List.mem_cons] at member
    rcases member with member | rfl | member
    · exact missing t (List.mem_append_left _ member)
    · exact fun same => foreign same.symm
    · exact missing t (List.mem_append_right _ member)

/-- The sessions beside one that is being admitted. -/
theorem others_of_admission (inv : PortInv p P) {mac : MacAddr}
    (absent : ∀ s ∈ p.sessions, s.mac ≠ mac) (free : p.canAdmit = true) :
    Others p P mac (p.sessions ++ []) := by
  rw [List.append_nil]
  exact ⟨inv.distinct, absent, inv.live, canAdmit_room inv free, inv.posture,
    fun other _ missing => inv.absent other missing, fun unshared => inv.wide (Or.inl unshared),
    inv.narrow⟩

/-- The target of a MAC that can be admitted is closed. -/
theorem admit_closed (inv : PortInv p P) {mac : MacAddr}
    (absent : ∀ s ∈ p.sessions, s.mac ≠ mac) (free : p.canAdmit = true) :
    Closed (P (portTarget p.cfg.hostMode mac)) := by
  by_cases shared : p.cfg.hostMode = .multiHost
  · have empty : p.sessions = [] := by
      have room := canAdmit_room inv free 1 (by simp [shared, maxSessions])
      exact List.eq_nil_of_length_eq_zero (by omega)
    simpa [portTarget, shared] using inv.wide (Or.inr empty)
  · simpa [portTarget, shared] using inv.absent mac absent

theorem prune_eq (inv : PortInv p P) : p.prune = p := by
  unfold prune
  rw [List.filter_eq_self.mpr]
  intro s member
  simpa using inv.live s member

/-- **The step lemma of `handle`.** -/
theorem portInv_handle (inv : PortInv p P) (mac : MacAddr) (event : Event) :
    PortInv (p.handle mac event).1 (directed P (p.handle mac event).2) := by
  obtain ⟨before, s, later, split, rfl, same⟩ | ⟨absent, free, same⟩ | ⟨-, -, same⟩ :=
    p.handle_cases mac event
  · rw [same, directed_decorate]
    have member : s ∈ p.sessions := by simp [split]
    exact (others_of_split inv split).settle (s.step_mac p.cfg event)
      (PortSession.postureInv_step (inv.posture s member) event)
  · rw [same, directed_decorate]
    exact (others_of_admission inv absent free).settle (admitted_mac p.cfg mac event)
      (postureInv_admitted mac event (admit_closed inv absent free))
  · rw [same, prune_eq inv]
    exact inv

/-- The effects of a lost link close the target of every session and leave the
others as they were. -/
theorem directed_linkDown (cfg : PaeConfig) (sessions : List PortSession)
    (live : ∀ s ∈ sessions, s.state ≠ .new) (P : Postures) :
    directed P (sessions.flatMap fun s => (s.step .linkDown cfg).2.map fun effect =>
        { mac := some s.mac, effect := effect }) =
      fun target => if ∃ s ∈ sessions, target = some s.mac then some .unauthorized
        else P target := by
  induction sessions generalizing P with
  | nil => simp
  | cons s rest ih =>
      have own : directed P ((s.step .linkDown cfg).2.map fun effect =>
          { mac := some s.mac, effect := effect }) =
            Function.update P (some s.mac) (some .unauthorized) := by
        have torn := (s.teardown_live .portLinkDown (live s List.mem_cons_self)).2
        show directed P ((s.teardown .portLinkDown).2.map _) = _
        rw [torn]
        cases s.accountingOpen <;>
          simp [directed, DirectedEffect.command, Effect.command]
      rw [List.flatMap_cons, directed_append, own,
        ih (fun t member => live t (List.mem_cons_of_mem _ member))]
      funext target
      by_cases here : target = some s.mac
      · subst here; simp
      · simp [here]

theorem linkDown_sessions (inv : PortInv p P) : p.linkDown.1.sessions = [] := by
  rw [List.eq_nil_iff_forall_not_mem]
  intro t member
  obtain ⟨inside, alive⟩ := mem_prune.mp member
  obtain ⟨s, owner, rfl⟩ := List.mem_map.mp inside
  apply alive
  show (s.teardown .portLinkDown).1.state = .new
  rw [(s.teardown_live .portLinkDown (inv.live s owner)).1]

/-- **The step lemma of `linkDown`.** -/
theorem portInv_linkDown (inv : PortInv p P) :
    PortInv p.linkDown.1 (directed P p.linkDown.2) := by
  have empty := linkDown_sessions inv
  have effects : directed P p.linkDown.2 =
      Function.update (fun target => if ∃ s ∈ p.sessions, target = some s.mac
        then some .unauthorized else P target) none (some .unauthorized) := by
    show directed P (_ ++ [_]) = _
    rw [directed_append, directed_linkDown p.cfg p.sessions inv.live]
    rfl
  have macs : ∀ mac, Closed (directed P p.linkDown.2 (some mac)) := by
    intro mac
    rw [effects, Function.update_of_ne (by simp)]
    split
    · exact Or.inr rfl
    · rename_i missing
      apply inv.absent mac
      intro s member same
      exact missing ⟨s, member, by rw [same]⟩
  have whole : Closed (directed P p.linkDown.2 none) := by
    rw [effects, Function.update_self]; exact Or.inr rfl
  constructor
  · simp [empty]
  · simp [empty]
  · simp [empty]
  · simp [empty]
  · exact fun mac _ => macs mac
  · exact fun _ => whole
  · exact fun _ => macs

end PortPae

/-- The port and the postures a list of calls leads to, from a new port. -/
def portRun (cfg : PaeConfig) (inputs : List PortInput) : PortPae × Postures :=
  portMachine.watchAll portObserver (PortPae.new cfg, fun _ => none) inputs

/-- **The step lemma of the port.** -/
theorem portInv_step {q : PortPae × Postures} (inv : PortInv q.1 q.2) (input : PortInput) :
    PortInv (portMachine.watch portObserver q input).1
      (portMachine.watch portObserver q input).2 := by
  cases input with
  | handle mac event => exact PortPae.portInv_handle inv mac event
  | linkDown => exact PortPae.portInv_linkDown inv

theorem portInv_run (cfg : PaeConfig) (inputs : List PortInput) :
    (portRun cfg inputs).1.cfg = cfg ∧ PortInv (portRun cfg inputs).1 (portRun cfg inputs).2 := by
  let inv : PortPae × Postures → Prop := fun q => q.1.cfg = cfg ∧ PortInv q.1 q.2
  have keeps : ∀ q input, inv q → inv (portMachine.watch portObserver q input) := by
    rintro q input ⟨same, held⟩
    refine ⟨?_, portInv_step held input⟩
    cases input with
    | handle mac event => exact (q.1.handle_cfg mac event).trans same
    | linkDown => exact same
  exact portMachine.watchAll_invariant' portObserver keeps ⟨rfl, PortInv.new cfg⟩ inputs

/-- **The dataplane commands track the session state.**  After every run of `handle`
and `linkDown` calls, from a new port: a session's target is authorized exactly
while its accounting is open, and then with its stored authorization; the settled
states command what they say; and a target nobody holds is never forwarding. -/
theorem commands_track_sessions (cfg : PaeConfig) (inputs : List PortInput) :
    (∀ s ∈ (portRun cfg inputs).1.sessions,
      let posture := (portRun cfg inputs).2 (portTarget cfg.hostMode s.mac)
      ((∃ a, posture = some (.authorized a)) ↔ s.accountingOpen = true) ∧
      (∀ a, posture = some (.authorized a) → s.authz = some a) ∧
      (s.state = .authenticated → s.accountingOpen = true) ∧
      (s.state = .held → s.accountingOpen = false ∧ posture = some .unauthorized) ∧
      (∀ reason, s.state = .fallback reason → s.accountingOpen = false ∧
        ∃ vlan, cfg.fallbackVlan reason = some vlan ∧
          posture = some (.fallback reason (some vlan)))) ∧
    (∀ mac, (∀ s ∈ (portRun cfg inputs).1.sessions, s.mac = mac → s.state = .new) →
      (∀ a, (portRun cfg inputs).2 (some mac) ≠ some (.authorized a)) ∧
      ∀ reason vlan, (portRun cfg inputs).2 (some mac) ≠ some (.fallback reason vlan)) ∧
    (cfg.hostMode = .multiHost → (portRun cfg inputs).1.activeSessions = 0 →
      (∀ a, (portRun cfg inputs).2 none ≠ some (.authorized a)) ∧
      ∀ reason vlan, (portRun cfg inputs).2 none ≠ some (.fallback reason vlan)) := by
  obtain ⟨same, inv⟩ := portInv_run cfg inputs
  generalize (portRun cfg inputs).1 = p, (portRun cfg inputs).2 = P at same inv ⊢
  subst same
  refine ⟨?_, ?_, ?_⟩
  · intro s member
    have held := inv.posture s member
    refine ⟨⟨?_, ?_⟩, ?_, held.running, ?_, ?_⟩
    · rintro ⟨a, granted⟩
      exact ((held.granted a).mp granted).1
    · intro opened
      obtain ⟨a, -, authorized⟩ := held.authorized_of_open opened
      exact ⟨a, authorized⟩
    · intro a granted
      exact ((held.granted a).mp granted).2
    · exact fun quiet => ⟨held.closed_of_held quiet, held.held quiet⟩
    · exact fun reason parked => ⟨held.closed_of_fallback parked, held.parked reason parked⟩
  · intro mac missing
    have closed : Closed (P (some mac)) := by
      apply inv.absent mac
      intro s member same
      exact inv.live s member (missing s member same)
    exact ⟨closed.not_authorized, closed.not_fallback⟩
  · intro shared idle
    have empty : p.sessions = [] := by
      rw [PortPae.activeSessions_eq inv] at idle
      exact List.eq_nil_of_length_eq_zero idle
    have closed := inv.wide (Or.inr empty)
    exact ⟨closed.not_authorized, closed.not_fallback⟩

end Authenticator.Pae
