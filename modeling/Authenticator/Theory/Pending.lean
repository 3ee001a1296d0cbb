/-
# Theory.Pending -- which timers of a wheel are still to report

A key is `Pending` when a task of it sleeps, is past its sleep or has its expiry in the
channel, and it `Sleeps` when a task of it can still be aborted.  What the tasks do on their
own keeps a pending key pending and puts nothing to sleep.  Arming and disarming act on their
own keys alone: this needs that a handle never names a task of another key, which is what
`Kept` adds to `Sound`.

`takings` are the keys whose expiries were taken, in order; nothing but `take` adds to them.
-/
import Authenticator.Theory.Timers

namespace Authenticator.Theory

set_option autoImplicit false

universe u

namespace Timers

variable {κ : Type u} {w : Wheel κ} {key other : κ} {keys : List κ} {t : Task κ}

namespace Wheel

/-- An expiry of the key is still to come. -/
def Pending (key : κ) (w : Wheel κ) : Prop :=
  ∃ t, t.key = key ∧ (t ∈ w.sleeping ∨ t ∈ w.fired ∨ t ∈ w.channel)

/-- A task of the key sleeps. -/
def Sleeps (key : κ) (w : Wheel κ) : Prop := ∃ t ∈ w.sleeping, t.key = key

theorem Sleeps.pending (asleep : w.Sleeps key) : w.Pending key := by
  obtain ⟨t, member, same⟩ := asleep
  exact ⟨t, same, Or.inl member⟩

end Wheel

/-- A handle names a task of its own key, and no task that is still to be started. -/
structure Kept (w : Wheel κ) : Prop where
  sound : Sound w
  named : ∀ t ∈ w.sleeping, ∀ key, w.handles key = some t.id → t.key = key
  started : ∀ key id, w.handles key = some id → id < w.nextId

theorem Kept.slept (kept : Kept w) (member : t ∈ w.sleeping) : t.id < w.nextId :=
  kept.sound.fresh t (kept.sound.asleep t member).1.mem

theorem kept_new : Kept (Wheel.new : Wheel κ) := by
  refine ⟨sound_new, ?_, ?_⟩ <;> simp [Wheel.new]

theorem Kept.take (kept : Kept w) {w' : Wheel κ} (taken : w.take = some (t, w')) : Kept w' := by
  have sound := kept.sound.take taken
  unfold Wheel.take at taken
  split at taken
  · cases taken
  · cases taken
    exact ⟨sound, kept.named, kept.started⟩

/-! ## Taking an expiry -/

theorem sleeps_take {w' : Wheel κ} (taken : w.take = some (t, w')) :
    w'.Sleeps key ↔ w.Sleeps key := by
  unfold Wheel.take at taken
  split at taken
  · cases taken
  · cases taken
    rfl

/-- Only the key that is taken may be pending no more. -/
theorem Wheel.Pending.take (pending : w.Pending key) {w' : Wheel κ}
    (taken : w.take = some (t, w')) (foreign : key ≠ t.key) : w'.Pending key := by
  obtain ⟨s, rfl, place⟩ := pending
  unfold Wheel.take at taken
  split at taken
  · cases taken
  · rename_i first rest queue
    cases taken
    rw [queue, List.mem_cons] at place
    rcases place with asleep | woken | rfl | queued
    · exact ⟨s, rfl, Or.inl asleep⟩
    · exact ⟨s, rfl, Or.inr (Or.inl woken)⟩
    · exact absurd rfl foreign
    · exact ⟨s, rfl, Or.inr (Or.inr queued)⟩

variable [DecidableEq κ]

/-! ## Arming -/

theorem Kept.arm (kept : Kept w) (key : κ) : Kept (w.arm key) := by
  refine ⟨kept.sound.arm key, ?_, ?_⟩
  · intro t member other held
    simp only [Wheel.arm, mem_abort, abort_handles, List.mem_append, List.mem_singleton] at member held
    by_cases same : other = key
    · subst same
      rw [Function.update_self, Option.some_inj] at held
      rcases member.1 with old | rfl
      · have := kept.slept old
        omega
      · rfl
    · rw [Function.update_of_ne same] at held
      rcases member.1 with old | rfl
      · exact kept.named t old other held
      · exact absurd (kept.started other w.nextId held) (Nat.lt_irrefl _)
  · intro other id held
    simp only [Wheel.arm, abort_handles, abort_nextId] at held ⊢
    by_cases same : other = key
    · subst same
      rw [Function.update_self, Option.some_inj] at held
      omega
    · rw [Function.update_of_ne same] at held
      have := kept.started other id held
      omega

theorem mem_arm (kept : Kept w) :
    t ∈ (w.arm key).sleeping ↔ t = ⟨w.nextId, key⟩ ∨ (t ∈ w.sleeping ∧ t.key ≠ key) := by
  simp only [Wheel.arm, mem_abort, List.mem_append, List.mem_singleton]
  constructor
  · rintro ⟨old | rfl, spared⟩
    · refine Or.inr ⟨old, ?_⟩
      rintro rfl
      exact spared (kept.sound.held t old)
    · exact Or.inl rfl
  · rintro (rfl | ⟨old, foreign⟩)
    · exact ⟨Or.inr rfl, fun held => Nat.lt_irrefl _ (kept.started key w.nextId held)⟩
    · exact ⟨Or.inl old, fun held => foreign (kept.named t old key held)⟩

theorem sleeps_arm (kept : Kept w) : (w.arm key).Sleeps other ↔ other = key ∨ w.Sleeps other := by
  constructor
  · rintro ⟨t, member, rfl⟩
    rcases (mem_arm kept).mp member with rfl | ⟨old, -⟩
    · exact Or.inl rfl
    · exact Or.inr ⟨t, old, rfl⟩
  · intro held
    by_cases same : other = key
    · exact ⟨_, (mem_arm kept).mpr (Or.inl rfl), same.symm⟩
    · obtain ⟨t, old, rfl⟩ := held.resolve_left same
      exact ⟨t, (mem_arm kept).mpr (Or.inr ⟨old, same⟩), rfl⟩

/-- A key that is armed is pending, and the others still are. -/
theorem pending_arm (kept : Kept w) (held : other = key ∨ w.Pending other) :
    (w.arm key).Pending other := by
  by_cases same : other = key
  · exact ((sleeps_arm kept).mpr (Or.inl same)).pending
  · obtain ⟨t, rfl, place⟩ := held.resolve_left same
    refine ⟨t, rfl, ?_⟩
    rcases place with asleep | away
    · exact Or.inl ((mem_arm kept).mpr (Or.inr ⟨asleep, same⟩))
    · exact Or.inr (by simpa [Wheel.arm] using away)

/-! ## Disarming -/

theorem Kept.release (kept : Kept w) (key : κ) : Kept (w.release key) := by
  have fewer : ∀ other id, (w.release key).handles other = some id → w.handles other = some id := by
    intro other id held
    simp only [Wheel.release, abort_handles] at held
    by_cases same : other = key
    · rw [same, Function.update_self] at held
      cases held
    · rwa [Function.update_of_ne same] at held
  refine ⟨kept.sound.release key, ?_, ?_⟩
  · intro t member other held
    simp only [Wheel.release, mem_abort] at member
    exact kept.named t member.1 other (fewer other t.id held)
  · intro other id held
    simpa [Wheel.release] using kept.started other id (fewer other id held)

theorem mem_release (kept : Kept w) : t ∈ (w.release key).sleeping ↔ t ∈ w.sleeping ∧ t.key ≠ key := by
  simp only [Wheel.release, mem_abort]
  refine and_congr_right fun member => not_congr ⟨?_, ?_⟩
  · exact kept.named t member key
  · rintro rfl
    exact kept.sound.held t member

theorem kept_releaseAll (kept : Kept w) (keys : List κ) : Kept (w.releaseAll keys) := by
  induction keys generalizing w with
  | nil => exact kept
  | cons key rest ih => exact ih (kept.release key)

theorem mem_releaseAll (kept : Kept w) :
    t ∈ (w.releaseAll keys).sleeping ↔ t ∈ w.sleeping ∧ t.key ∉ keys := by
  induction keys generalizing w with
  | nil => simp [Wheel.releaseAll]
  | cons key rest ih =>
      have first : t ∈ ((w.release key).releaseAll rest).sleeping ↔ _ := ih (kept.release key)
      rw [mem_release kept] at first
      simpa [Wheel.releaseAll, and_assoc] using first

theorem releaseAll_away (w : Wheel κ) (keys : List κ) :
    (w.releaseAll keys).fired = w.fired ∧ (w.releaseAll keys).channel = w.channel := by
  induction keys generalizing w with
  | nil => exact ⟨rfl, rfl⟩
  | cons key rest ih =>
      obtain ⟨fired, channel⟩ := ih (w.release key)
      exact ⟨fired.trans (by simp [Wheel.release]), channel.trans (by simp [Wheel.release])⟩

theorem Kept.disarm (kept : Kept w) (keys : List κ) : Kept (w.disarm keys) :=
  ⟨kept.sound.disarm keys, (kept_releaseAll kept keys).named, (kept_releaseAll kept keys).started⟩

theorem sleeps_disarm (kept : Kept w) :
    (w.disarm keys).Sleeps other ↔ w.Sleeps other ∧ other ∉ keys := by
  constructor
  · rintro ⟨t, member, rfl⟩
    obtain ⟨old, spared⟩ := (mem_releaseAll kept).mp member
    exact ⟨⟨t, old, rfl⟩, spared⟩
  · rintro ⟨⟨t, old, rfl⟩, spared⟩
    exact ⟨t, (mem_releaseAll kept).mpr ⟨old, spared⟩, rfl⟩

theorem pending_disarm (kept : Kept w) (pending : w.Pending other) (spared : other ∉ keys) :
    (w.disarm keys).Pending other := by
  obtain ⟨t, rfl, place⟩ := pending
  obtain ⟨fired, channel⟩ := releaseAll_away w keys
  refine ⟨t, rfl, ?_⟩
  show t ∈ (w.releaseAll keys).sleeping ∨ t ∈ (w.releaseAll keys).fired ∨
    t ∈ (w.releaseAll keys).channel
  rw [mem_releaseAll kept, fired, channel]
  tauto

/-! ## What the tasks do on their own -/

theorem Kept.expire (kept : Kept w) (t : Task κ) : Kept (w.expire t) := by
  have sound := kept.sound.expire t
  unfold Wheel.expire at sound ⊢
  split
  · rename_i asleep
    rw [if_pos asleep] at sound
    exact ⟨sound, fun s member => kept.named s (List.mem_filter.mp member).1, kept.started⟩
  · exact kept

theorem Kept.send (kept : Kept w) (t : Task κ) : Kept (w.send t) := by
  have sound := kept.sound.send t
  unfold Wheel.send at sound ⊢
  split
  · rename_i woken
    rw [if_pos woken] at sound
    exact ⟨sound, kept.named, kept.started⟩
  · exact kept

theorem Kept.background (kept : Kept w) (actions : List (Background κ)) :
    Kept (actions.foldl Background.run w) := by
  induction actions generalizing w with
  | nil => exact kept
  | cons action rest ih =>
      cases action with
      | expires t => exact ih (kept.expire t)
      | sends t => exact ih (kept.send t)

theorem pending_background (actions : List (Background κ)) (pending : w.Pending key) :
    (actions.foldl Background.run w).Pending key := by
  induction actions generalizing w with
  | nil => exact pending
  | cons action rest ih =>
      refine ih ?_
      obtain ⟨s, rfl, place⟩ := pending
      refine ⟨s, rfl, ?_⟩
      cases action with
      | expires t =>
          simp only [Background.run, Wheel.expire]
          split
          · by_cases same : s = t <;> simp only [List.mem_filter, List.mem_append] <;> simp <;> tauto
          · exact place
      | sends t =>
          simp only [Background.run, Wheel.send]
          split
          · by_cases same : s = t
            · simp [same]
            · simp only [List.mem_erase_of_ne same, List.mem_append]
              tauto
          · exact place

theorem sleeps_background (actions : List (Background κ))
    (asleep : (actions.foldl Background.run w).Sleeps key) : w.Sleeps key := by
  induction actions generalizing w with
  | nil => exact asleep
  | cons action rest ih =>
      obtain ⟨s, member, same⟩ := ih asleep
      refine ⟨s, ?_, same⟩
      cases action with
      | expires t =>
          simp only [Background.run, Wheel.expire] at member
          split at member
          · exact (List.mem_filter.mp member).1
          · exact member
      | sends t =>
          simp only [Background.run, Wheel.send] at member
          split at member <;> exact member

/-! ## What was taken -/

section Takings

/-- The key of an expiry that is taken. -/
def Moment.taking : Moment κ → Option κ
  | .taken t => some t.key
  | _ => none

/-- The keys whose expiries were taken, in order. -/
def takings (w : Wheel κ) : List κ := w.history.filterMap Moment.taking

omit [DecidableEq κ] in
theorem takings_concat {w' : Wheel κ} {m : Moment κ} (later : w'.history = w.history ++ [m]) :
    takings w' = takings w ++ m.taking.toList := by
  rw [takings, later, List.filterMap_append, List.filterMap_cons]
  cases m.taking <;> rfl

omit [DecidableEq κ] in
theorem takings_take {w' : Wheel κ} (taken : w.take = some (t, w')) :
    takings w' = takings w ++ [t.key] := by
  unfold Wheel.take at taken
  split at taken
  · cases taken
  · cases taken
    exact takings_concat (m := .taken t) rfl

@[simp] theorem takings_arm : takings (w.arm key) = takings w := by
  have later : (w.arm key).history = w.history ++ [.armed ⟨w.nextId, key⟩] := abort_history _ _
  simp [takings_concat later, Moment.taking]

@[simp] theorem takings_disarm : takings (w.disarm keys) = takings w := by
  have later : (w.disarm keys).history = w.history ++ [.disarmed keys] := rfl
  simp [takings_concat later, Moment.taking]

theorem takings_background (actions : List (Background κ)) :
    takings (actions.foldl Background.run w) = takings w := by
  induction actions generalizing w with
  | nil => rfl
  | cons action rest ih =>
      rw [List.foldl_cons, ih]
      cases action with
      | expires t =>
          unfold Background.run Wheel.expire
          dsimp only
          split
          · rw [takings_concat (m := .fired t) rfl]
            simp [Moment.taking]
          · rfl
      | sends t =>
          unfold Background.run Wheel.send
          dsimp only
          split <;> rfl

end Takings

end Timers

end Authenticator.Theory
