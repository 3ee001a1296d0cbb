/-
# Theory.Timers -- keyed timers that report over a channel

A timer is a task that sleeps and then puts its expiry into a channel.  For every key at most
one task is held: arming a key again, or disarming it, aborts the task that is held.  A task
that is past its sleep can no longer be aborted, and an expiry in the channel can no longer be
recalled.

The wheel keeps a history of what happened, which no operation reads.  `Sound` is its
invariant; it gives `taken_live_iff`, that an expiry taken from the channel is that of a live
timer exactly when its key was neither armed nor disarmed since the task woke up.
-/
import Mathlib.Logic.Function.Basic
import Authenticator.Theory.Since

namespace Authenticator.Theory

set_option autoImplicit false

universe u

namespace Timers

structure Task (κ : Type u) where
  id : Nat
  key : κ
  deriving DecidableEq, Repr

inductive Moment (κ : Type u) where
  | armed (t : Task κ)
  | disarmed (keys : List κ)
  | fired (t : Task κ)
  | taken (t : Task κ)
  deriving DecidableEq, Repr

/-- The tasks that are held, that sleep, that are past their sleep, and whose expiry is in the
channel. -/
structure Wheel (κ : Type u) where
  handles : κ → Option Nat
  sleeping : List (Task κ)
  fired : List (Task κ)
  channel : List (Task κ)
  nextId : Nat
  history : List (Moment κ)

/-- What goes on beside the operations of the owner. -/
inductive Background (κ : Type u) where
  | expires (t : Task κ)
  | sends (t : Task κ)
  deriving DecidableEq, Repr

namespace Wheel

variable {κ : Type u}

def new : Wheel κ where
  handles _ := none
  sleeping := []
  fired := []
  channel := []
  nextId := 0
  history := []

/-- Abort a task; one that does not sleep any more goes on. -/
def abort (handle : Option Nat) (w : Wheel κ) : Wheel κ :=
  match handle with
  | none => w
  | some id => { w with sleeping := w.sleeping.filter fun t => t.id ≠ id }

/-- The first expiry in the channel. -/
def take (w : Wheel κ) : Option (Task κ × Wheel κ) :=
  match w.channel with
  | [] => none
  | t :: rest => some (t, { w with channel := rest, history := w.history ++ [.taken t] })

variable [DecidableEq κ]

/-- Start a task, hold it, and abort the one that was held. -/
def arm (key : κ) (w : Wheel κ) : Wheel κ :=
  abort (w.handles key)
    { w with
      handles := Function.update w.handles key (some w.nextId)
      sleeping := w.sleeping ++ [⟨w.nextId, key⟩]
      nextId := w.nextId + 1
      history := w.history ++ [.armed ⟨w.nextId, key⟩] }

/-- Let go of the task that is held, and abort it. -/
def release (key : κ) (w : Wheel κ) : Wheel κ :=
  abort (w.handles key) { w with handles := Function.update w.handles key none }

def releaseAll (keys : List κ) (w : Wheel κ) : Wheel κ := keys.foldl (fun w key => w.release key) w

def disarm (keys : List κ) (w : Wheel κ) : Wheel κ :=
  { w.releaseAll keys with history := w.history ++ [.disarmed keys] }

/-- A task wakes up. -/
def expire (t : Task κ) (w : Wheel κ) : Wheel κ :=
  if t ∈ w.sleeping then
    { w with
      sleeping := w.sleeping.filter fun s => s ≠ t
      fired := w.fired ++ [t]
      history := w.history ++ [.fired t] }
  else w

/-- A task that is past its sleep sends its expiry. -/
def send (t : Task κ) (w : Wheel κ) : Wheel κ :=
  if t ∈ w.fired then { w with fired := w.fired.erase t, channel := w.channel ++ [t] } else w

end Wheel

def Background.run {κ : Type u} [DecidableEq κ] (w : Wheel κ) : Background κ → Wheel κ
  | .expires t => w.expire t
  | .sends t => w.send t

/-! ## Reading the history -/

variable {κ : Type u}

/-- The moment arms or disarms the key. -/
def Moment.Undoes (key : κ) : Moment κ → Prop
  | .armed t => t.key = key
  | .disarmed keys => key ∈ keys
  | _ => False

/-- Neither disarmed nor armed anew since it was armed. -/
def Live (t : Task κ) (history : List (Moment κ)) : Prop :=
  Since (fun _ m => m = .armed t) (fun _ m => m.Undoes t.key) history

/-- Neither disarmed nor armed anew since it woke up. -/
def Unrecalled (t : Task κ) (history : List (Moment κ)) : Prop :=
  Since (fun _ m => m = .fired t) (fun _ m => m.Undoes t.key) history

/-- The key of an expiry that is on its way is armed or disarmed. -/
def Recalls (before : List (Moment κ)) (m : Moment κ) : Prop :=
  ∃ t : Task κ, m.Undoes t.key ∧ .fired t ∈ before ∧ .taken t ∉ before

/-- The task woke up, and its expiry was not taken. -/
structure InFlight (t : Task κ) (history : List (Moment κ)) : Prop where
  armed : .armed t ∈ history
  fired : .fired t ∈ history
  untaken : .taken t ∉ history
  live_iff : Live t history ↔ Unrecalled t history

variable {t : Task κ} {history : List (Moment κ)} {m : Moment κ}

theorem Live.concat (live : Live t history) (calm : ¬ m.Undoes t.key) : Live t (history ++ [m]) :=
  since_concat.mpr (Or.inr ⟨live, calm⟩)

theorem Live.mem (live : Live t history) : .armed t ∈ history := by
  obtain ⟨before, x, later, rfl, rfl, -⟩ := live
  simp

theorem InFlight.concat (flying : InFlight t history) (armed : m ≠ .armed t) (fired : m ≠ .fired t)
    (taken : m ≠ .taken t) : InFlight t (history ++ [m]) := by
  refine ⟨List.mem_append_left _ flying.armed, List.mem_append_left _ flying.fired, ?_, ?_⟩
  · intro member
    rcases List.mem_append.mp member with old | new
    · exact flying.untaken old
    · exact taken (List.mem_singleton.mp new).symm
  · unfold Live Unrecalled
    rw [since_concat, since_concat]
    have same := flying.live_iff
    unfold Live Unrecalled at same
    simp only [armed, fired, false_or, same]

/-- Waking up. -/
theorem Live.inFlight (live : Live t history) (untaken : .taken t ∉ history) :
    InFlight t (history ++ [.fired t]) := by
  have still : Live t (history ++ [.fired t]) := live.concat (by simp [Moment.Undoes])
  have woken : Unrecalled t (history ++ [.fired t]) := since_concat.mpr (Or.inl rfl)
  exact ⟨still.mem, by simp, by simpa using untaken, iff_of_true still woken⟩

/-- An expiry whose key is never touched while it is on its way is not recalled. -/
theorem InFlight.unrecalled (flying : InFlight t history) (punctual : Never Recalls history) :
    Unrecalled t history := by
  obtain ⟨before, later, split⟩ := List.append_of_mem flying.fired
  refine ⟨before, .fired t, later, split, rfl, ?_⟩
  intro between m within undoes
  have here : (before ++ .fired t :: between) ++ [m] <+: history := by
    rw [split, List.append_assoc, List.cons_append]
    exact (List.prefix_append_right_inj _).mpr (List.cons_prefix_cons.mpr ⟨rfl, within⟩)
  refine punctual _ m here ⟨t, undoes, by simp, ?_⟩
  intro taken
  exact flying.untaken (here.subset (List.mem_append_left _ taken))

/-! ## The invariant -/

structure Sound (w : Wheel κ) : Prop where
  fresh : ∀ t, .armed t ∈ w.history → t.id < w.nextId
  woken : ∀ t, .fired t ∈ w.history → .armed t ∈ w.history
  held : ∀ t ∈ w.sleeping, w.handles t.key = some t.id
  asleep : ∀ t ∈ w.sleeping, Live t w.history ∧ .fired t ∉ w.history
  flying : ∀ t ∈ w.fired ++ w.channel, InFlight t w.history
  distinct : (w.fired ++ w.channel).Nodup
  taken : ∀ before t after, w.history = before ++ .taken t :: after → InFlight t before

theorem sound_new : Sound (Wheel.new : Wheel κ) := by
  constructor <;> simp [Wheel.new]

section Abort

variable (handle : Option Nat) (w : Wheel κ)

@[simp] theorem abort_handles : (w.abort handle).handles = w.handles := by
  cases handle <;> rfl

@[simp] theorem abort_fired : (w.abort handle).fired = w.fired := by
  cases handle <;> rfl

@[simp] theorem abort_channel : (w.abort handle).channel = w.channel := by
  cases handle <;> rfl

@[simp] theorem abort_nextId : (w.abort handle).nextId = w.nextId := by
  cases handle <;> rfl

@[simp] theorem abort_history : (w.abort handle).history = w.history := by
  cases handle <;> rfl

@[simp] theorem mem_abort : t ∈ (w.abort handle).sleeping ↔ t ∈ w.sleeping ∧ handle ≠ some t.id := by
  cases handle with
  | none => simp [Wheel.abort]
  | some id =>
      rw [Wheel.abort, List.mem_filter, decide_eq_true_iff, ne_eq, ne_eq, Option.some_inj, eq_comm]

end Abort

namespace Sound

variable {w : Wheel κ}

/-- A moment that takes nothing but what is on its way. -/
theorem taken_concat (sound : Sound w) (last : ∀ t, m = .taken t → InFlight t w.history) :
    ∀ before t after, w.history ++ [m] = before ++ .taken t :: after → InFlight t before := by
  intro before t after split
  rcases concat_eq_append_cons.mp split with ⟨rfl, same, -⟩ | ⟨earlier, -, same⟩
  · exact last t same.symm
  · exact sound.taken before t earlier same

/-- What is taken had woken up. -/
theorem untaken (sound : Sound w) (asleep : .fired t ∉ w.history) : .taken t ∉ w.history := by
  intro taken
  obtain ⟨before, after, split⟩ := List.append_of_mem taken
  have flying := sound.taken before t after split
  rw [split] at asleep
  exact asleep (List.mem_append_left _ flying.fired)

theorem take (sound : Sound w) {w' : Wheel κ} (taken : w.take = some (t, w')) : Sound w' := by
  unfold Wheel.take at taken
  split at taken
  · cases taken
  · rename_i first rest queue
    cases taken
    have perm : (w.fired ++ t :: rest).Perm (t :: (w.fired ++ rest)) := List.perm_middle
    have distinct := sound.distinct
    rw [queue, perm.nodup_iff, List.nodup_cons] at distinct
    have flying : ∀ s ∈ t :: (w.fired ++ rest), InFlight s w.history := by
      intro s member
      refine sound.flying s ?_
      rw [queue]
      exact perm.mem_iff.mpr member
    refine ⟨?_, ?_, sound.held, ?_, ?_, distinct.2, ?_⟩
    · simpa using sound.fresh
    · simpa using sound.woken
    · intro s member
      obtain ⟨live, asleep⟩ := sound.asleep s member
      exact ⟨live.concat (by simp [Moment.Undoes]), by simpa using asleep⟩
    · intro s member
      refine (flying s (List.mem_cons_of_mem _ member)).concat (by simp) (by simp) ?_
      rintro ⟨⟩
      exact distinct.1 member
    · refine sound.taken_concat ?_
      rintro s ⟨⟩
      exact flying t List.mem_cons_self

variable [DecidableEq κ]

theorem arm (sound : Sound w) (key : κ) : Sound (w.arm key) := by
  have older : ∀ s, .armed s ∈ w.history → s ≠ ⟨w.nextId, key⟩ := by
    rintro s member rfl
    exact Nat.lt_irrefl _ (sound.fresh _ member)
  have other : ∀ s ∈ w.sleeping, w.handles key ≠ some s.id → s.key ≠ key := by
    rintro s member released rfl
    exact released (sound.held s member)
  constructor
  · intro s member
    simp only [Wheel.arm, abort_history, abort_nextId, List.mem_append, List.mem_singleton,
      Moment.armed.injEq] at member ⊢
    rcases member with old | rfl
    · have := sound.fresh s old
      omega
    · show w.nextId < w.nextId + 1
      omega
  · intro s member
    simp only [Wheel.arm, abort_history, List.mem_append, List.mem_singleton, reduceCtorEq,
      or_false] at member ⊢
    exact Or.inl (sound.woken s member)
  · intro s member
    simp only [Wheel.arm, mem_abort, abort_handles, List.mem_append, List.mem_singleton] at member ⊢
    obtain ⟨old | rfl, released⟩ := member
    · rw [Function.update_of_ne (other s old released)]
      exact sound.held s old
    · exact Function.update_self _ _ _
  · intro s member
    simp only [Wheel.arm, mem_abort, abort_history, List.mem_append, List.mem_singleton,
      reduceCtorEq, or_false] at member ⊢
    obtain ⟨old | rfl, released⟩ := member
    · obtain ⟨live, asleep⟩ := sound.asleep s old
      refine ⟨live.concat ?_, asleep⟩
      exact fun same => other s old released same.symm
    · refine ⟨since_concat.mpr (Or.inl rfl), ?_⟩
      intro fired
      exact older _ (sound.woken _ fired) rfl
  · intro s member
    simp only [Wheel.arm, abort_fired, abort_channel, abort_history] at member ⊢
    have flying := sound.flying s member
    refine flying.concat ?_ (by simp) (by simp)
    rintro ⟨⟩
    exact older _ flying.armed rfl
  · simpa [Wheel.arm] using sound.distinct
  · simp only [Wheel.arm, abort_history]
    exact sound.taken_concat (by simp)

theorem release (sound : Sound w) (key : κ) : Sound (w.release key) := by
  refine ⟨by simpa [Wheel.release] using sound.fresh, by simpa [Wheel.release] using sound.woken,
    ?_, ?_, by simpa [Wheel.release] using sound.flying,
    by simpa [Wheel.release] using sound.distinct, by simpa [Wheel.release] using sound.taken⟩
  · intro s member
    simp only [Wheel.release, mem_abort, abort_handles] at member ⊢
    obtain ⟨old, released⟩ := member
    have other : s.key ≠ key := by
      rintro rfl
      exact released (sound.held s old)
    rw [Function.update_of_ne other]
    exact sound.held s old
  · intro s member
    simp only [Wheel.release, mem_abort, abort_history] at member ⊢
    exact sound.asleep s member.1

/-- What releasing keys leaves: nothing is held for them, and the history is as it was. -/
theorem releaseAll (sound : Sound w) (keys : List κ) :
    Sound (w.releaseAll keys) ∧ (w.releaseAll keys).history = w.history ∧
      (∀ key ∈ keys, (w.releaseAll keys).handles key = none) ∧
      ∀ key, w.handles key = none → (w.releaseAll keys).handles key = none := by
  induction keys generalizing w with
  | nil => exact ⟨sound, rfl, by simp, fun _ none => none⟩
  | cons key rest ih =>
      obtain ⟨later, history, released, kept⟩ := ih (sound.release key)
      have gone : (w.release key).handles key = none := by simp [Wheel.release]
      have stays : ∀ other, w.handles other = none → (w.release key).handles other = none := by
        intro other empty
        by_cases same : other = key <;> simp [Wheel.release, Function.update, same, empty]
      refine ⟨later, history.trans (by simp [Wheel.release]), ?_, fun other empty =>
        kept other (stays other empty)⟩
      intro other member
      rcases List.mem_cons.mp member with rfl | inside
      · exact kept other gone
      · exact released other inside

theorem disarm (sound : Sound w) (keys : List κ) : Sound (w.disarm keys) := by
  obtain ⟨later, history, released, -⟩ := sound.releaseAll keys
  have grown : (w.disarm keys).history = (w.releaseAll keys).history ++ [.disarmed keys] := by
    rw [history]
    rfl
  refine ⟨?_, ?_, later.held, ?_, ?_, later.distinct, ?_⟩
  · intro s member
    rw [grown] at member
    exact later.fresh s (by simpa using member)
  · rw [grown]
    simpa using later.woken
  · intro s member
    rw [grown]
    obtain ⟨live, asleep⟩ := later.asleep s member
    refine ⟨live.concat ?_, by simpa using asleep⟩
    intro touched
    have none := released s.key touched
    rw [later.held s member] at none
    cases none
  · intro s member
    rw [grown]
    exact (later.flying s member).concat (by simp) (by simp) (by simp)
  · rw [grown]
    exact later.taken_concat (by simp)

theorem expire (sound : Sound w) (t : Task κ) : Sound (w.expire t) := by
  unfold Wheel.expire
  split
  · rename_i sleeps
    obtain ⟨live, asleep⟩ := sound.asleep t sleeps
    have absent : t ∉ w.fired ++ w.channel := fun member => asleep (sound.flying t member).fired
    have perm : (w.fired ++ [t] ++ w.channel).Perm (t :: (w.fired ++ w.channel)) := by
      rw [List.append_assoc]
      exact List.perm_middle
    refine ⟨?_, ?_, ?_, ?_, ?_, ?_, ?_⟩
    · simpa using sound.fresh
    · intro s member
      simp only [List.mem_append, List.mem_singleton, Moment.fired.injEq, reduceCtorEq,
        or_false] at member ⊢
      rcases member with old | rfl
      · exact sound.woken s old
      · exact live.mem
    · intro s member
      exact sound.held s (List.mem_filter.mp member).1
    · intro s member
      obtain ⟨inside, different⟩ := List.mem_filter.mp member
      obtain ⟨live, asleep⟩ := sound.asleep s inside
      refine ⟨live.concat (by simp [Moment.Undoes]), ?_⟩
      simpa [asleep] using different
    · intro s member
      rcases List.mem_cons.mp (perm.mem_iff.mp member) with rfl | old
      · exact live.inFlight (sound.untaken asleep)
      · refine (sound.flying s old).concat (by simp) ?_ (by simp)
        rintro ⟨⟩
        exact absent old
    · exact perm.nodup_iff.mpr (List.nodup_cons.mpr ⟨absent, sound.distinct⟩)
    · exact sound.taken_concat (by simp)
  · exact sound

theorem send (sound : Sound w) (t : Task κ) : Sound (w.send t) := by
  unfold Wheel.send
  split
  · rename_i woken
    have perm : (w.fired.erase t ++ (w.channel ++ [t])).Perm (w.fired ++ w.channel) := by
      have moved := (List.perm_cons_erase woken).symm.append_right w.channel
      refine List.Perm.trans ?_ moved
      rw [← List.append_assoc]
      exact List.perm_append_singleton t _
    exact ⟨sound.fresh, sound.woken, sound.held, sound.asleep,
      fun s member => sound.flying s (perm.mem_iff.mp member), perm.nodup_iff.mpr sound.distinct,
      sound.taken⟩
  · exact sound

theorem background (sound : Sound w) (actions : List (Background κ)) :
    Sound (actions.foldl Background.run w) := by
  induction actions generalizing w with
  | nil => exact sound
  | cons action rest ih =>
      cases action with
      | expires t => exact ih (sound.expire t)
      | sends t => exact ih (sound.send t)

end Sound

/-! ## What is taken -/

section Taken

variable {w : Wheel κ} {before after : List (Moment κ)}

/-- **An expiry is that of a live timer exactly when it was not recalled on its way.** -/
theorem Sound.taken_live_iff (sound : Sound w) (split : w.history = before ++ .taken t :: after) :
    Live t before ↔ Unrecalled t before := (sound.taken before t after split).live_iff

/-- **When no key is touched while an expiry of it is on its way, only live timers report.** -/
theorem Sound.taken_live (sound : Sound w) (punctual : Never Recalls w.history)
    (split : w.history = before ++ .taken t :: after) : Live t before := by
  have flying := sound.taken before t after split
  have early : Never Recalls before := by
    intro front m within
    refine punctual front m (within.trans ?_)
    rw [split]
    exact List.prefix_append _ _
  exact flying.live_iff.mpr (flying.unrecalled early)

end Taken

end Timers

end Authenticator.Theory
