import Mathlib.Data.List.Forall2

/-! # Computations that may fail

How a successful run of a sequence of fallible steps is taken apart.
-/

namespace Except

variable {ε α β : Type}

@[simp]
theorem ok_bind (a : α) (f : α → Except ε β) : (Except.ok a >>= f) = f a := rfl

@[simp]
theorem error_bind (e : ε) (f : α → Except ε β) : (Except.error e >>= f) = .error e := rfl

theorem bind_eq_ok {x : Except ε α} {f : α → Except ε β} {b : β} :
    (x >>= f) = .ok b ↔ ∃ a, x = .ok a ∧ f a = .ok b := by
  cases x with
  | error e =>
      constructor
      · intro h
        cases h
      · rintro ⟨a, ha, -⟩
        cases ha
  | ok a =>
      constructor
      · intro h
        exact ⟨a, rfl, h⟩
      · rintro ⟨a', ha, h⟩
        cases ha
        exact h

theorem bind_eq_error {x : Except ε α} {f : α → Except ε β} {e : ε} :
    (x >>= f) = .error e ↔ x = .error e ∨ ∃ a, x = .ok a ∧ f a = .error e := by
  cases x with
  | error e' => simp
  | ok a => simp

@[simp]
theorem mapError_eq_ok {ε' : Type} {x : Except ε α} {f : ε → ε'} {a : α} :
    x.mapError f = .ok a ↔ x = .ok a := by
  cases x <;> simp [Except.mapError]

theorem mapError_eq_error {ε' : Type} {x : Except ε α} {f : ε → ε'} {e' : ε'} :
    x.mapError f = .error e' ↔ ∃ e, x = .error e ∧ f e = e' := by
  cases x <;> simp [Except.mapError]

theorem map_eq_ok {x : Except ε α} {f : α → β} {b : β} :
    (f <$> x) = .ok b ↔ ∃ a, x = .ok a ∧ f a = b := by
  cases x with
  | error e =>
      constructor
      · intro h
        cases h
      · rintro ⟨a, ha, -⟩
        cases ha
  | ok a =>
      constructor
      · intro h
        cases h
        exact ⟨a, rfl, rfl⟩
      · rintro ⟨a', ha, rfl⟩
        cases ha
        rfl

/-- A traversal succeeds when every step does, and collects their results. -/
theorem mapM_eq_ok {f : α → Except ε β} {xs : List α} {ys : List β} :
    xs.mapM f = .ok ys ↔ List.Forall₂ (fun x y => f x = .ok y) xs ys := by
  induction xs generalizing ys with
  | nil =>
      rw [List.mapM_nil, List.forall₂_nil_left_iff]
      constructor
      · intro h
        cases h
        rfl
      · intro h
        rw [h]
        rfl
  | cons x xs ih =>
      rw [List.mapM_cons, bind_eq_ok]
      constructor
      · rintro ⟨y, hy, h⟩
        obtain ⟨rest, hrest, h⟩ := bind_eq_ok.mp h
        cases h
        exact List.Forall₂.cons hy (ih.mp hrest)
      · intro h
        cases h with
        | cons hy hrest =>
            rename_i y rest
            refine ⟨y, hy, ?_⟩
            rw [bind_eq_ok]
            exact ⟨rest, ih.mpr hrest, rfl⟩

/-- A traversal fails with the error of the first step that fails. -/
theorem mapM_eq_error {f : α → Except ε β} {xs : List α} {e : ε} :
    xs.mapM f = .error e ↔ ∃ before x rest, xs = before ++ x :: rest ∧
      (∀ y ∈ before, ∃ b, f y = .ok b) ∧ f x = .error e := by
  induction xs with
  | nil =>
      constructor
      · intro h
        cases h
      · rintro ⟨before, x, rest, h, -⟩
        simp at h
  | cons x xs ih =>
      rw [List.mapM_cons]
      cases hx : f x with
      | error e' =>
          constructor
          · intro h
            cases h
            exact ⟨[], x, xs, rfl, by simp, hx⟩
          · rintro ⟨before, y, rest, hsplit, hbefore, hy⟩
            cases before with
            | nil =>
                cases hsplit
                rw [hx] at hy
                cases hy
                rfl
            | cons z before =>
                cases hsplit
                obtain ⟨b, hb⟩ := hbefore x List.mem_cons_self
                rw [hx] at hb
                cases hb
      | ok b =>
          have hrest : (Except.ok b >>= fun b => xs.mapM f >>= fun bs => pure (b :: bs)) =
              .error e ↔ xs.mapM f = .error e := by
            cases xs.mapM f with
            | error e' =>
                constructor <;> intro h <;> cases h <;> rfl
            | ok bs =>
                constructor <;> intro h <;> cases h
          rw [hrest, ih]
          constructor
          · rintro ⟨before, y, rest, rfl, hbefore, hy⟩
            refine ⟨x :: before, y, rest, rfl, ?_, hy⟩
            intro z hz
            cases List.mem_cons.mp hz with
            | inl heq => exact ⟨b, heq ▸ hx⟩
            | inr hmem => exact hbefore z hmem
          · rintro ⟨before, y, rest, hsplit, hbefore, hy⟩
            cases before with
            | nil =>
                cases hsplit
                rw [hx] at hy
                cases hy
            | cons z before =>
                cases hsplit
                exact ⟨before, y, rest, rfl,
                  fun w hw => hbefore w (List.mem_cons_of_mem _ hw), hy⟩

theorem filterMap_toOption {f : α → Except ε β} {xs : List α} {ys : List β}
    (h : List.Forall₂ (fun x y => f x = .ok y) xs ys) :
    xs.filterMap (fun x => (f x).toOption) = ys := by
  induction h with
  | nil => rfl
  | cons hhead _ ih =>
      rw [List.filterMap_cons, hhead]
      exact congrArg _ ih

/-! ## Two computations side by side -/

/-- Both fail, or both succeed with related results. -/
def Related {γ : Type} (R : α → γ → Prop) (x : Except ε α) (y : Except ε γ) : Prop :=
  (∃ e e', x = .error e ∧ y = .error e') ∨ ∃ a b, x = .ok a ∧ y = .ok b ∧ R a b

namespace Related

variable {γ δ : Type} {R : α → γ → Prop} {S : β → δ → Prop} {x : Except ε α} {y : Except ε γ}

theorem bind (h : Related R x y) {f : α → Except ε β} {g : γ → Except ε δ}
    (hnext : ∀ a b, R a b → Related S (f a) (g b)) : Related S (x >>= f) (y >>= g) := by
  rcases h with ⟨e, e', rfl, rfl⟩ | ⟨a, b, rfl, rfl, hR⟩
  · exact Or.inl ⟨e, e', rfl, rfl⟩
  · exact hnext a b hR

theorem mapM {ι : Type} {f : ι → Except ε α} {g : ι → Except ε γ} {xs : List ι}
    (h : ∀ i ∈ xs, Related R (f i) (g i)) :
    Related (List.Forall₂ R) (xs.mapM f) (xs.mapM g) := by
  induction xs with
  | nil => exact Or.inr ⟨[], [], rfl, rfl, List.Forall₂.nil⟩
  | cons i xs ih =>
      rw [List.mapM_cons, List.mapM_cons]
      refine (h i List.mem_cons_self).bind fun a b hR => ?_
      refine (ih fun j hj => h j (List.mem_cons_of_mem _ hj)).bind fun as bs hRs => ?_
      exact Or.inr ⟨a :: as, b :: bs, rfl, rfl, List.Forall₂.cons hR hRs⟩

end Related

end Except
