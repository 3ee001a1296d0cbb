/-
# Theory.Trace -- the moments of a run of a worklist

`traced` keeps beside the state of a worklist the moments of its run, oldest first: every
task that was expanded and every action that was run, each with the state before it.  The
moments are written and never read, so the run is that of the worklist itself
(`traced_drain`).

A property of runs that looks back is then an invariant of the pair.  `keeps_traced` is the
rule for those that every moment keeps, whatever comes of it, and `Keeps.never` says that no
moment of a run is one that the invariant excludes.  `entered` is the task under way, with
the state in which it was expanded.
-/
import Authenticator.Theory.Since
import Authenticator.Theory.Worklist

namespace Authenticator.Theory.Worklist

set_option autoImplicit false

universe u v w x

/-- A task is expanded, or an action of a task is run, at a state. -/
inductive Moment (σ : Type v) (τ : Type w) (δ : Type x) where
  | expand (task : τ) (state : σ)
  | act (task : τ) (action : δ) (state : σ)

section Entered

variable {σ : Type v} {τ : Type w} {δ : Type x}

def Moment.state : Moment σ τ δ → σ
  | .expand _ s | .act _ _ s => s

def Moment.entering (last : Option (τ × σ)) : Moment σ τ δ → Option (τ × σ)
  | .expand task s => some (task, s)
  | .act _ _ _ => last

/-- The task under way, and the state in which it was expanded. -/
def entered (history : List (Moment σ τ δ)) : Option (τ × σ) :=
  history.foldl Moment.entering none

@[simp] theorem entered_expand (history : List (Moment σ τ δ)) (task : τ) (s : σ) :
    entered (history ++ [.expand task s]) = some (task, s) := by
  simp [entered, Moment.entering]

@[simp] theorem entered_act (history : List (Moment σ τ δ)) (task : τ) (d : δ) (s : σ) :
    entered (history ++ [.act task d s]) = entered history := by
  simp [entered, Moment.entering]

end Entered

section Traced

variable {ε : Type u} {σ : Type v} {τ : Type w} {δ : Type x} (W : Worklist ε σ τ δ)

/-- The worklist, with the moments of its run. -/
def traced : Worklist ε (σ × List (Moment σ τ δ)) τ δ where
  expand task s := ((W.expand task s.1).1, ((W.expand task s.1).2, s.2 ++ [.expand task s.1]))
  act task d s := ((W.act task d s.1).1, ((W.act task d s.1).2, s.2 ++ [.act task d s.1]))

/-- An action of the traced worklist is one of the worklist. -/
theorem traced_act {task : τ} {d : δ} {s s' : σ × List (Moment σ τ δ)} {r : Except ε (Option τ)}
    (acted : W.traced.act task d s = (r, s')) :
    W.act task d s.1 = (r, s'.1) ∧ s'.2 = s.2 ++ [.act task d s.1] := by
  cases acted
  exact ⟨rfl, rfl⟩

theorem traced_actAll (task : τ) (actions : List δ) (queue : List τ)
    (s : σ × List (Moment σ τ δ)) :
    (W.actAll task actions queue s.1) =
      ((W.traced.actAll task actions queue s).1, (W.traced.actAll task actions queue s).2.1) := by
  induction actions generalizing queue s with
  | nil => rfl
  | cons d rest ih =>
      cases acted : W.act task d s.1 with
      | mk outcome s' =>
          have both : W.traced.act task d s = (outcome, (s', s.2 ++ [.act task d s.1])) := by
            simp only [traced, acted]
          cases outcome with
          | ok follow =>
              have plain : W.actAll task (d :: rest) queue s.1 = _ := Prog.bind_ok acted _
              have ghost : W.traced.actAll task (d :: rest) queue s = _ := Prog.bind_ok both _
              rw [plain, ghost, ih (queue ++ follow.toList) (s', s.2 ++ [.act task d s.1])]
          | error e =>
              have plain : W.actAll task (d :: rest) queue s.1 = _ := Prog.bind_error acted _
              have ghost : W.traced.actAll task (d :: rest) queue s = _ := Prog.bind_error both _
              rw [plain, ghost]

/-- **Keeping the moments changes nothing.** -/
theorem traced_drain (steps : Nat) (queue : List τ) (s : σ × List (Moment σ τ δ)) :
    W.drain steps queue s.1 =
      ((W.traced.drain steps queue s).1, (W.traced.drain steps queue s).2.1) := by
  induction steps generalizing queue s with
  | zero => rfl
  | succ steps ih =>
      cases queue with
      | nil => rfl
      | cons task queue =>
          have ran := W.traced_actAll task (W.expand task s.1).1 queue
            ((W.expand task s.1).2, s.2 ++ [.expand task s.1])
          have begun : W.traced.expand task s =
              ((W.expand task s.1).1, ((W.expand task s.1).2, s.2 ++ [.expand task s.1])) := rfl
          unfold drain
          rw [ran, begun]
          cases W.traced.actAll task (W.expand task s.1).1 queue
              ((W.expand task s.1).2, s.2 ++ [.expand task s.1]) with
          | mk outcome s' =>
              cases outcome with
              | ok later => exact ih later s'
              | error e => rfl

/-- **The rule for what every moment keeps**, whatever its outcome. -/
theorem keeps_traced {I : List (Moment σ τ δ) → σ → Prop}
    (expands : ∀ task history s, I history s →
      I (history ++ [.expand task s]) (W.expand task s).2)
    (acts : ∀ task d history s, I history s → I (history ++ [.act task d s]) (W.act task d s).2) :
    W.traced.Keeps (fun _ _ _ => True) (fun _ s => I s.2 s.1) (fun _ _ _ s => I s.2 s.1)
      fun s => I s.2 s.1 := by
  refine ⟨fun task _ s held => expands task s.2 s.1 held, ?_, ?_, fun _ _ _ held => held⟩
  · intro task d rest queue s follow s' held acted
    obtain ⟨ran, same⟩ := W.traced_act acted
    have later := acts task d s.2 s.1 held
    rwa [ran, ← same] at later
  · intro task d rest queue s e s' held acted _
    obtain ⟨ran, same⟩ := W.traced_act acted
    have later := acts task d s.2 s.1 held
    rwa [ran, ← same] at later

variable {W}

/-- **The rule for moments**: what the invariant excludes never happens. -/
theorem Keeps.never {ok : σ × List (Moment σ τ δ) → δ → List δ → Prop}
    {J : List τ → σ × List (Moment σ τ δ) → Prop}
    {K : τ → List δ → List τ → σ × List (Moment σ τ δ) → Prop}
    {E : σ × List (Moment σ τ δ) → Prop} (keeps : W.traced.Keeps ok J K E)
    {Q : List (Moment σ τ δ) → Moment σ τ δ → Prop}
    (expands : ∀ task queue s, J (task :: queue) s → ¬ Q s.2 (.expand task s.1))
    (acts : ∀ task d rest queue s, K task (d :: rest) queue s → ¬ Q s.2 (.act task d s.1)) :
    W.traced.Keeps ok (fun queue s => J queue s ∧ Never Q s.2)
      (fun task rest queue s => K task rest queue s ∧ Never Q s.2)
      (fun s => E s ∧ Never Q s.2) := by
  refine ⟨?_, ?_, ?_, fun task queue s held => ⟨keeps.leave task queue s held.1, held.2⟩⟩
  · rintro task queue s ⟨held, calm⟩
    exact ⟨keeps.enter task queue s held, never_concat.mpr ⟨calm, expands task queue s held⟩⟩
  · rintro task d rest queue s follow s' ⟨held, calm⟩ acted
    refine ⟨keeps.act task d rest queue s follow s' held acted, ?_⟩
    rw [(W.traced_act acted).2]
    exact never_concat.mpr ⟨calm, acts task d rest queue s held⟩
  · rintro task d rest queue s e s' ⟨held, calm⟩ acted met
    refine ⟨keeps.abandon task d rest queue s e s' held acted met, ?_⟩
    rw [(W.traced_act acted).2]
    exact never_concat.mpr ⟨calm, acts task d rest queue s held⟩

end Traced

end Authenticator.Theory.Worklist
