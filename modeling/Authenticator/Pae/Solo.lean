/-
# Pae.Solo -- ports that admit one session at a time

In `singleHost` and `multiHost` a port has at most one live session, so there is one
posture at a time: the last command the port gave, whatever target it was directed at.
`SoloInv` relates that posture to the session, and `soloInv_handle` carries it over every
call, through every turnover of the session.
-/
import Authenticator.Pae.PortPosture

namespace Authenticator.Pae

set_option autoImplicit false

open Authenticator.Pacp

/-- The host modes with one session. -/
def HostMode.Solo (hostMode : HostMode) : Prop := maxSessions hostMode = some 1

instance (hostMode : HostMode) : Decidable hostMode.Solo :=
  inferInstanceAs (Decidable (maxSessions hostMode = some 1))

theorem HostMode.solo_iff {hostMode : HostMode} :
    hostMode.Solo ↔ hostMode = .singleHost ∨ hostMode = .multiHost := by
  cases hostMode <;> simp [HostMode.Solo, maxSessions]

/-- The effects without their targets. -/
abbrev bare (fx : List DirectedEffect) : List Effect := fx.map DirectedEffect.effect

theorem bare_decorate (hostMode : HostMode) (mac : MacAddr) (fx : List Effect) :
    bare (decorate hostMode mac fx) = fx := by
  simp [bare, decorate, Function.comp_def]

/-- The one session of the port is in the posture last commanded; with no session, the
port was last closed. -/
inductive SoloInv (p : PortPae) (posture : Option PortAuthorization) : Prop
  | idle (none : p.sessions = []) (closed : Closed posture)
  | live (s : PortSession) (one : p.sessions = [s]) (alive : s.state ≠ .new)
      (inv : PostureInv p.cfg s posture)

theorem SoloInv.new (cfg : PaeConfig) : SoloInv (.new cfg) none := .idle rfl (Or.inl rfl)

/-- A session that satisfies its invariant, and nobody else: pruned if it is gone. -/
theorem SoloInv.settle {p : PortPae} {s : PortSession} {posture : Option PortAuthorization}
    (inv : PostureInv p.cfg s posture) : SoloInv { p with sessions := [s] }.prune posture := by
  by_cases gone : s.state = .new
  · refine .idle ?_ (inv.fresh gone)
    simp [PortPae.prune, gone]
  · refine .live s ?_ gone inv
    simp [PortPae.prune, gone]

/-- A port with one live session admits no other. -/
theorem SoloInv.canAdmit {p : PortPae} {posture : Option PortAuthorization} (inv : SoloInv p posture)
    (solo : p.cfg.hostMode.Solo) (free : p.canAdmit = true) :
    p.sessions = [] ∧ Closed posture := by
  cases inv with
  | idle none closed => exact ⟨none, closed⟩
  | live s one alive inv =>
      have active : p.activeSessions = 1 := by simp [PortPae.activeSessions, one, alive]
      unfold PortPae.canAdmit at free
      rcases HostMode.solo_iff.mp solo with mode | mode <;> simp [mode, active] at free

/-- **The step lemma of `handle`.** -/
theorem SoloInv.handle {p : PortPae} {posture : Option PortAuthorization} (inv : SoloInv p posture)
    (solo : p.cfg.hostMode.Solo) (mac : MacAddr) (event : Event) :
    SoloInv (p.handle mac event).1 (commanded posture (bare (p.handle mac event).2)) := by
  obtain ⟨before, s, later, split, rfl, same⟩ | ⟨absent, free, same⟩ | ⟨absent, -, same⟩ :=
    p.handle_cases mac event
  · rw [same, bare_decorate]
    cases inv with
    | idle none closed =>
        rw [none] at split
        simp at split
    | live t one alive inv =>
        rw [one] at split
        obtain ⟨rfl, rfl, rfl⟩ : before = [] ∧ s = t ∧ later = [] := by
          cases before with
          | nil => simpa [eq_comm] using split
          | cons u rest => simp at split
        exact .settle (PortSession.postureInv_step inv event)
  · obtain ⟨none, closed⟩ := inv.canAdmit solo free
    rw [same, bare_decorate, none]
    exact .settle (postureInv_admitted mac event closed)
  · rw [same]
    cases inv with
    | idle none closed => exact .idle (by simp [PortPae.prune, none]) closed
    | live t one alive inv => exact .live t (by simp [PortPae.prune, one, alive]) alive inv

end Authenticator.Pae
