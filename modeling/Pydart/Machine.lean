import Mathlib.Data.List.Forall2

/-! # Machines and their runs

A machine answers its inputs one after the other. What one step keeps, a whole run
keeps, and a machine that simulates a specification step by step does so run by run.
-/

namespace Machines

structure Machine (State Input Output : Type) where
  step : State → Input → State × Output

/-- Which answers are allowed in a state, and which states may follow. -/
structure Spec (State Input Output : Type) where
  step : State → Input → State → Output → Prop

section

variable {S A I O : Type}

/-! ## Runs -/

namespace Machine

variable (M : Machine S I O)

def run (s : S) : List I → S × List O
  | [] => (s, [])
  | i :: inputs =>
      let next := M.step s i
      let rest := run next.1 inputs
      (rest.1, next.2 :: rest.2)

@[simp]
theorem run_nil (s : S) : M.run s [] = (s, []) := rfl

@[simp]
theorem run_cons (s : S) (i : I) (inputs : List I) :
    M.run s (i :: inputs) =
      ((M.run (M.step s i).1 inputs).1, (M.step s i).2 :: (M.run (M.step s i).1 inputs).2) := rfl

theorem run_append (s : S) (inputs later : List I) :
    M.run s (inputs ++ later) =
      ((M.run (M.run s inputs).1 later).1,
        (M.run s inputs).2 ++ (M.run (M.run s inputs).1 later).2) := by
  induction inputs generalizing s with
  | nil => rfl
  | cons i inputs ih =>
      rw [List.cons_append, run_cons, run_cons, ih]
      rfl

theorem run_output {s : S} {inputs : List I} {k : Nat} {o : O}
    (h : (M.run s inputs).2[k]? = some o) :
    ∃ i, inputs[k]? = some i ∧ (M.step (M.run s (inputs.take k)).1 i).2 = o := by
  induction inputs generalizing s k with
  | nil => cases h
  | cons i inputs ih =>
      cases k with
      | zero => exact ⟨i, rfl, Option.some.inj h⟩
      | succ k => exact ih h

theorem run_answer {s : S} {inputs : List I} {k : Nat} {i : I} (h : inputs[k]? = some i) :
    (M.run s inputs).2[k]? = some (M.step (M.run s (inputs.take k)).1 i).2 := by
  induction inputs generalizing s k with
  | nil => cases h
  | cons j inputs ih =>
      cases k with
      | zero =>
          cases h
          rfl
      | succ k => exact ih h

/-- A run goes through the state after any number of its inputs. -/
theorem run_take (s : S) (inputs : List I) (k : Nat) :
    (M.run s inputs).1 = (M.run (M.run s (inputs.take k)).1 (inputs.drop k)).1 := by
  conv_lhs => rw [← List.take_append_drop k inputs, run_append]

/-! ## Invariants -/

def Keeps (p : S → Prop) : Prop := ∀ s i, p s → p (M.step s i).1

variable {M} {p : S → Prop} {s : S}

theorem Keeps.run (h : M.Keeps p) (hs : p s) (inputs : List I) : p (M.run s inputs).1 := by
  induction inputs generalizing s with
  | nil => exact hs
  | cons i inputs ih => exact ih (h s i hs)

/-- What the inputs without a property leave alone holds after a run of them. -/
theorem run_keeps {q : I → Prop} (hstep : ∀ s i, ¬ q i → p s → p (M.step s i).1)
    {inputs : List I} (hinputs : ∀ i ∈ inputs, ¬ q i) (hs : p s) : p (M.run s inputs).1 := by
  induction inputs generalizing s with
  | nil => exact hs
  | cons i inputs ih =>
      obtain ⟨hi, hrest⟩ := List.forall_mem_cons.mp hinputs
      exact ih hrest (hstep s i hi hs)

/-- The last of the inputs with the property, and the state it meets. -/
structure Last (M : Machine S I O) (q : I → Prop) (s : S) (inputs : List I) (met : S) (i : I) :
    Prop where
  has : q i
  split : ∃ earlier later, inputs = earlier ++ i :: later ∧ (M.run s earlier).1 = met ∧
    ∀ j ∈ later, ¬ q j

/-- What the last such input brings about is there at the end. -/
theorem Last.run {q : I → Prop} {inputs : List I} {met : S} {i : I}
    (h : M.Last q s inputs met i) (hstep : ∀ s i, ¬ q i → p s → p (M.step s i).1)
    (hp : p (M.step met i).1) : p (M.run s inputs).1 := by
  obtain ⟨earlier, later, rfl, rfl, hlater⟩ := h.split
  rw [run_append, run_cons]
  exact run_keeps hstep hlater hp

end Machine

/-! ## Simulation -/

namespace Spec

/-- A run of the specification, with an answer to each input. -/
inductive Runs (spec : Spec A I O) : A → List I → A → List O → Prop where
  | nil (a : A) : Runs spec a [] a []
  | cons {a b c : A} {i : I} {o : O} {inputs : List I} {outputs : List O}
      (head : spec.step a i b o) (tail : Runs spec b inputs c outputs) :
      Runs spec a (i :: inputs) c (o :: outputs)

variable {spec : Spec A I O} {a b : A} {inputs : List I} {outputs : List O}

/-- A property that the inputs of a run leave alone holds at its end. -/
theorem Runs.keeps {p : A → Prop} {q : I → Prop}
    (hstep : ∀ {a i b o}, spec.step a i b o → q i → p a → p b)
    (h : spec.Runs a inputs b outputs) (hq : ∀ i ∈ inputs, q i) (ha : p a) : p b := by
  induction h with
  | nil => exact ha
  | cons head _ ih =>
      exact ih (fun i hi => hq i (List.mem_cons_of_mem _ hi))
        (hstep head (hq _ List.mem_cons_self) ha)

end Spec

def Simulates (M : Machine S I O) (spec : Spec A I O) (R : S → A → Prop) : Prop :=
  ∀ s a, R s a → ∀ i, ∃ b, spec.step a i b (M.step s i).2 ∧ R (M.step s i).1 b

/-- Every run of the machine is a run of what it simulates. -/
theorem Simulates.run {M : Machine S I O} {spec : Spec A I O} {R : S → A → Prop}
    (h : Simulates M spec R) {s : S} {a : A} (hs : R s a) (inputs : List I) :
    ∃ b, spec.Runs a inputs b (M.run s inputs).2 ∧ R (M.run s inputs).1 b := by
  induction inputs generalizing s a with
  | nil => exact ⟨a, Spec.Runs.nil a, hs⟩
  | cons i inputs ih =>
      obtain ⟨b, hstep, hb⟩ := h s a hs i
      obtain ⟨c, hruns, hc⟩ := ih hb
      exact ⟨c, Spec.Runs.cons hstep hruns, hc⟩

end
end Machines
