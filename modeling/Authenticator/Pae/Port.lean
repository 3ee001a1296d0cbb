/-
# Pae.Port -- host-mode routing of events to sessions

A port owns one `PortSession` per supplicant MAC, created on first contact, and
`HostMode` says how many it admits.  In `multiHost` the authorization is
port-wide: `decorate` directs every `SetAuthorization` at the whole port
(`mac = none`), so a logoff of the opener closes the port for everyone.

`handle_cases` says what one call does: it steps the session of the MAC, admits
a new one, or drops the event.
-/
import Authenticator.Pae.Session

namespace Authenticator.Pae

set_option autoImplicit false

open Authenticator.Pacp

/-- An effect with its target: `none` is the whole port. -/
structure DirectedEffect where
  mac : Option MacAddr
  effect : Effect
  deriving DecidableEq, Repr

structure PortPae where
  cfg : PaeConfig
  sessions : List PortSession
  deriving DecidableEq, Repr

/-- How many sessions a host mode admits; `none` is unbounded. -/
def maxSessions : HostMode → Option Nat
  | .singleHost | .multiHost => some 1
  | .multiDomain => some 2
  | .multiAuth => none

def Effect.isSetAuthorization : Effect → Bool
  | .setAuthorization _ => true
  | _ => false

/-- Tag a session's effects with its MAC; in `multiHost` authorization is
port-wide. -/
def decorate (hostMode : HostMode) (mac : MacAddr) (fx : List Effect) : List DirectedEffect :=
  fx.map fun effect =>
    { mac := if hostMode = .multiHost ∧ effect.isSetAuthorization then none else some mac,
      effect := effect }

/-- Step the first session for `mac`, if there is one. -/
def stepFirst (cfg : PaeConfig) (mac : MacAddr) (event : Event) :
    List PortSession → Option (List PortSession × List Effect)
  | [] => none
  | s :: rest =>
      if s.mac = mac then
        some ((s.step event cfg).1 :: rest, (s.step event cfg).2)
      else (stepFirst cfg mac event rest).map fun r => (s :: r.1, r.2)

/-- A new session, brought into service, with the triggering event on top unless
`Enable` already answered it. -/
def admitted (cfg : PaeConfig) (mac : MacAddr) (event : Event) : PortSession × List Effect :=
  let enabled := (PortSession.new mac).step .enable cfg
  if event = .enable ∨ event = .eapolStart then enabled
  else
    let stepped := enabled.1.step event cfg
    (stepped.1, enabled.2 ++ stepped.2)

namespace PortPae

def new (cfg : PaeConfig) : PortPae := { cfg := cfg, sessions := [] }

/-- Bring the port into service: it starts unauthorized port-wide. -/
def enable (_ : PortPae) : List DirectedEffect :=
  [{ mac := none, effect := .setAuthorization .unauthorized }]

def session (p : PortPae) (mac : MacAddr) : Option PortSession :=
  p.sessions.find? fun s => s.mac = mac

def activeSessions (p : PortPae) : Nat :=
  (p.sessions.filter fun s => s.state ≠ .new).length

def canAdmit (p : PortPae) : Bool :=
  match p.cfg.hostMode with
  | .multiAuth => true
  | .singleHost | .multiHost => p.activeSessions = 0
  | .multiDomain => p.activeSessions < 2

def admitSession (p : PortPae) (mac : MacAddr) (event : Event) : PortPae × List DirectedEffect :=
  let r := admitted p.cfg mac event
  ({ p with sessions := p.sessions ++ [r.1] }, decorate p.cfg.hostMode mac r.2)

/-- Drop sessions that have torn down to `New`. -/
def prune (p : PortPae) : PortPae :=
  { p with sessions := p.sessions.filter fun s => s.state ≠ .new }

/-- Handle an event for the supplicant `mac`. -/
def handle (p : PortPae) (mac : MacAddr) (event : Event) : PortPae × List DirectedEffect :=
  let r :=
    match stepFirst p.cfg mac event p.sessions with
    | some stepped => ({ p with sessions := stepped.1 }, decorate p.cfg.hostMode mac stepped.2)
    | none => if p.canAdmit then p.admitSession mac event else (p, [])
  (r.1.prune, r.2)

/-- Tear every session down (link lost); the port returns to unauthorized. -/
def linkDown (p : PortPae) : PortPae × List DirectedEffect :=
  let lower := fun s : PortSession => s.step .linkDown p.cfg
  ({ p with sessions := p.sessions.map fun s => (lower s).1 }.prune,
    (p.sessions.flatMap fun s => (lower s).2.map fun effect =>
      { mac := some s.mac, effect := effect }) ++
      [{ mac := none, effect := .setAuthorization .unauthorized }])

end PortPae

/-! ## What a call does -/

theorem stepFirst_some {cfg : PaeConfig} {mac : MacAddr} {event : Event}
    {sessions : List PortSession} {r : List PortSession × List Effect}
    (stepped : stepFirst cfg mac event sessions = some r) :
    ∃ before s later, sessions = before ++ s :: later ∧ s.mac = mac ∧
      r = (before ++ (s.step event cfg).1 :: later, (s.step event cfg).2) := by
  induction sessions generalizing r with
  | nil => simp [stepFirst] at stepped
  | cons t rest ih =>
      simp only [stepFirst] at stepped
      split at stepped
      · rename_i here
        cases stepped
        exact ⟨[], t, rest, rfl, here, rfl⟩
      · simp only [Option.map_eq_some_iff] at stepped
        obtain ⟨inner, found, rfl⟩ := stepped
        obtain ⟨before, s, later, rfl, here, rfl⟩ := ih found
        exact ⟨t :: before, s, later, rfl, here, rfl⟩

theorem stepFirst_none {cfg : PaeConfig} {mac : MacAddr} {event : Event}
    {sessions : List PortSession} :
    stepFirst cfg mac event sessions = none ↔ ∀ s ∈ sessions, s.mac ≠ mac := by
  induction sessions with
  | nil => simp [stepFirst]
  | cons t rest ih =>
      by_cases here : t.mac = mac
      · simp [stepFirst, here]
      · simp [stepFirst, here, ih]

@[simp] theorem admitted_mac (cfg : PaeConfig) (mac : MacAddr) (event : Event) :
    (admitted cfg mac event).1.mac = mac := by
  unfold admitted
  split <;> simp [PortSession.new]

namespace PortPae

theorem mem_prune {p : PortPae} {s : PortSession} :
    s ∈ p.prune.sessions ↔ s ∈ p.sessions ∧ s.state ≠ .new := by
  simp [prune]

/-- One call steps a session, admits a session, or drops the event. -/
theorem handle_cases (p : PortPae) (mac : MacAddr) (event : Event) :
    (∃ before s later, p.sessions = before ++ s :: later ∧ s.mac = mac ∧
      p.handle mac event =
        ({ p with sessions := before ++ (s.step event p.cfg).1 :: later }.prune,
          decorate p.cfg.hostMode mac (s.step event p.cfg).2)) ∨
    ((∀ s ∈ p.sessions, s.mac ≠ mac) ∧ p.canAdmit = true ∧
      p.handle mac event =
        ({ p with sessions := p.sessions ++ [(admitted p.cfg mac event).1] }.prune,
          decorate p.cfg.hostMode mac (admitted p.cfg mac event).2)) ∨
    ((∀ s ∈ p.sessions, s.mac ≠ mac) ∧ p.canAdmit = false ∧
      p.handle mac event = (p.prune, [])) := by
  unfold handle
  cases stepped : stepFirst p.cfg mac event p.sessions with
  | some r =>
      obtain ⟨before, s, later, split, here, rfl⟩ := stepFirst_some stepped
      exact Or.inl ⟨before, s, later, split, here, rfl⟩
  | none =>
      have absent := stepFirst_none.mp stepped
      cases free : p.canAdmit with
      | true => exact Or.inr (Or.inl ⟨absent, rfl, rfl⟩)
      | false => exact Or.inr (Or.inr ⟨absent, rfl, rfl⟩)

@[simp] theorem handle_cfg (p : PortPae) (mac : MacAddr) (event : Event) :
    (p.handle mac event).1.cfg = p.cfg := by
  obtain ⟨_, _, _, -, -, same⟩ | ⟨-, -, same⟩ | ⟨-, -, same⟩ := p.handle_cases mac event <;>
    rw [same] <;> rfl

/-- Effects of a call are directed at its MAC, or command the whole port. -/
theorem handle_directed (p : PortPae) (mac : MacAddr) (event : Event) (de : DirectedEffect)
    (member : de ∈ (p.handle mac event).2) :
    de.mac = some mac ∨ (de.mac = none ∧ ∃ a, de.effect = .setAuthorization a) := by
  have tagged : ∀ fx, de ∈ decorate p.cfg.hostMode mac fx →
      de.mac = some mac ∨ (de.mac = none ∧ ∃ a, de.effect = .setAuthorization a) := by
    intro fx inside
    obtain ⟨effect, -, rfl⟩ := List.mem_map.mp inside
    cases effect <;> simp [Effect.isSetAuthorization]
    tauto
  obtain ⟨_, _, _, -, -, same⟩ | ⟨-, -, same⟩ | ⟨-, -, same⟩ := p.handle_cases mac event
  · rw [same] at member; exact tagged _ member
  · rw [same] at member; exact tagged _ member
  · rw [same] at member; cases member

end PortPae

end Authenticator.Pae
