/-
# Theory.Transducer -- machines that answer an input with a list of outputs

A `Transducer` maps a state and an input to a new state and an ordered list of
outputs.  An `Observer` is a second state that hears every input and sees every
output: the posture a command history leaves behind, or the set of timers it
leaves armed.  `watch` runs the two side by side.

Every result about whole runs goes through `watchAll_invariant`: a relation
between machine state and observation that one guarded step keeps holds after
every admissible input list.
-/
import Mathlib.Data.List.Basic

namespace Authenticator.Theory

set_option autoImplicit false

universe u v w x

structure Transducer (σ : Type u) (ι : Type v) (ο : Type w) where
  step : σ → ι → σ × List ο

/-- What is recorded beside a run: `hear` on each input, before the step, and
`see` on each output, in order. -/
structure Observer (ι : Type v) (ο : Type w) (γ : Type x) where
  hear : γ → ι → γ
  see : γ → ο → γ

namespace Transducer

variable {σ : Type u} {ι : Type v} {ο : Type w} {γ : Type x}
variable (M : Transducer σ ι ο) (O : Observer ι ο γ)

def watch (p : σ × γ) (input : ι) : σ × γ :=
  ((M.step p.1 input).1, (M.step p.1 input).2.foldl O.see (O.hear p.2 input))

def watchAll (p : σ × γ) (inputs : List ι) : σ × γ :=
  inputs.foldl (M.watch O) p

/-- The state a list of inputs leads to, and all outputs on the way. -/
def run (s : σ) : List ι → σ × List ο
  | [] => (s, [])
  | input :: rest =>
      ((run (M.step s input).1 rest).1, (M.step s input).2 ++ (run (M.step s input).1 rest).2)

/-- Every input of the list meets the guard at the point where it is fed. -/
def Admits (guard : σ × γ → ι → Prop) : σ × γ → List ι → Prop
  | _, [] => True
  | p, input :: rest => guard p input ∧ Admits guard (M.watch O p input) rest

/-- **The run rule.**  What one guarded step keeps, every admissible run keeps. -/
theorem watchAll_invariant {guard : σ × γ → ι → Prop} {inv : σ × γ → Prop}
    (keeps : ∀ p input, inv p → guard p input → inv (M.watch O p input))
    {p : σ × γ} (start : inv p) (inputs : List ι) (admitted : M.Admits O guard p inputs) :
    inv (M.watchAll O p inputs) := by
  induction inputs generalizing p with
  | nil => exact start
  | cons input rest ih =>
      obtain ⟨here, later⟩ := admitted
      exact ih (keeps p input start here) later

theorem admits_of_forall {guard : ι → Prop} {inputs : List ι}
    (all : ∀ input ∈ inputs, guard input) (p : σ × γ) :
    M.Admits O (fun _ input => guard input) p inputs := by
  induction inputs generalizing p with
  | nil => trivial
  | cons input rest ih =>
      refine ⟨all input List.mem_cons_self, ih ?_ _⟩
      intro later member
      exact all later (List.mem_cons_of_mem _ member)

/-- The run rule for inputs that need no guard. -/
theorem watchAll_invariant' {inv : σ × γ → Prop}
    (keeps : ∀ p input, inv p → inv (M.watch O p input))
    {p : σ × γ} (start : inv p) (inputs : List ι) : inv (M.watchAll O p inputs) := by
  have free : M.Admits O (fun _ _ => True) p inputs := M.admits_of_forall O (fun _ _ => trivial) p
  exact M.watchAll_invariant O (fun p input held _ => keeps p input held) start inputs free

theorem admits_and {guard guard' : σ × γ → ι → Prop} {p : σ × γ} {inputs : List ι} :
    M.Admits O (fun q input => guard q input ∧ guard' q input) p inputs ↔
      M.Admits O guard p inputs ∧ M.Admits O guard' p inputs := by
  induction inputs generalizing p with
  | nil => exact ⟨fun _ => ⟨trivial, trivial⟩, fun _ => trivial⟩
  | cons input rest ih =>
      simp only [Admits, ih]
      tauto

/-- What holds after every prefix holds at the start and is kept by every input. -/
theorem forall_prefix_iff {Q : σ × γ → Prop} {p : σ × γ} {inputs : List ι} :
    (∀ before, before <+: inputs → Q (M.watchAll O p before)) ↔
      Q p ∧ M.Admits O (fun q input => Q (M.watch O q input)) p inputs := by
  induction inputs generalizing p with
  | nil =>
      constructor
      · intro all
        exact ⟨all [] List.nil_prefix, trivial⟩
      · rintro ⟨start, -⟩ before inside
        rw [List.prefix_nil.mp inside]
        exact start
  | cons input rest ih =>
      constructor
      · intro all
        obtain ⟨here, later⟩ := ih.mp fun before inside =>
          all (input :: before) (List.cons_prefix_cons.mpr ⟨rfl, inside⟩)
        exact ⟨all [] List.nil_prefix, here, later⟩
      · rintro ⟨start, here, later⟩ before inside
        cases before with
        | nil => exact start
        | cons first more =>
            obtain ⟨rfl, shorter⟩ := List.cons_prefix_cons.mp inside
            exact ih.mpr ⟨here, later⟩ more shorter

/-- Two guards that agree as long as the first has held admit the same inputs. -/
theorem admits_congr {guard guard' : σ × γ → ι → Prop} {inv : σ × γ → Prop} {ok : ι → Prop}
    (same : ∀ p input, inv p → ok input → (guard p input ↔ guard' p input))
    (keeps : ∀ p input, inv p → ok input → guard p input → inv (M.watch O p input))
    {p : σ × γ} (start : inv p) (inputs : List ι) (all : ∀ input ∈ inputs, ok input) :
    M.Admits O guard p inputs ↔ M.Admits O guard' p inputs := by
  induction inputs generalizing p with
  | nil => exact Iff.rfl
  | cons input rest ih =>
      have here := all input List.mem_cons_self
      have later := fun next (member : next ∈ rest) => all next (List.mem_cons_of_mem _ member)
      constructor
      · rintro ⟨first, more⟩
        exact ⟨(same p input start here).mp first,
          (ih (keeps p input start here first) later).mp more⟩
      · rintro ⟨first, more⟩
        have held := (same p input start here).mpr first
        exact ⟨held, (ih (keeps p input start here held) later).mpr more⟩

/-! ## Whole runs and their outputs -/

theorem run_append (s : σ) (first second : List ι) :
    M.run s (first ++ second) =
      ((M.run (M.run s first).1 second).1,
        (M.run s first).2 ++ (M.run (M.run s first).1 second).2) := by
  induction first generalizing s with
  | nil => rfl
  | cons input rest ih => simp only [List.cons_append, run, ih, List.append_assoc]

theorem run_concat (s : σ) (inputs : List ι) (input : ι) :
    M.run s (inputs ++ [input]) =
      ((M.step (M.run s inputs).1 input).1,
        (M.run s inputs).2 ++ (M.step (M.run s inputs).1 input).2) := by
  rw [run_append]
  simp [run]

/-- The run rule without an observer. -/
theorem run_invariant {inv : σ → Prop} (keeps : ∀ s input, inv s → inv (M.step s input).1) {s : σ}
    (start : inv s) (inputs : List ι) : inv (M.run s inputs).1 := by
  induction inputs generalizing s with
  | nil => exact start
  | cons input rest ih => exact ih (keeps s input start)

end Transducer

end Authenticator.Theory
