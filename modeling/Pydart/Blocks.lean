import Mathlib.Data.List.Basic

/-! # Skipping blocks of a filtered scan

Entries kept in blocks, a filter run over the blocks in order, and a test that
lets whole blocks be skipped. Skipping is harmless exactly when no entry that
passes the filter lies in a skipped block.
-/

namespace Blocks

variable {ι ρ : Type} (block : ι → List ρ)

/-- The entries of the listed blocks that pass. -/
def scan (groups : List ι) (p : ρ → Bool) : List ρ := (groups.flatMap block).filter p

theorem scan_cons (i : ι) (groups : List ι) (p : ρ → Bool) :
    scan block (i :: groups) p = (block i).filter p ++ scan block groups p := by
  rw [scan, List.flatMap_cons, List.filter_append]
  rfl

theorem scan_filter_sublist (groups : List ι) (keep : ι → Bool) (p : ρ → Bool) :
    (scan block (groups.filter keep) p).Sublist (scan block groups p) := by
  induction groups with
  | nil => exact List.Sublist.refl _
  | cons i groups ih =>
      rw [scan_cons]
      cases hkeep : keep i with
      | true =>
          rw [List.filter_cons_of_pos hkeep, scan_cons]
          exact (List.Sublist.refl _).append ih
      | false =>
          rw [List.filter_cons_of_neg (by simp [hkeep])]
          exact ih.trans (List.sublist_append_right _ _)

theorem scan_filter_eq {groups : List ι} {keep : ι → Bool} {p : ρ → Bool}
    (h : ∀ i ∈ groups, ∀ r ∈ block i, p r = true → keep i = true) :
    scan block (groups.filter keep) p = scan block groups p := by
  induction groups with
  | nil => rfl
  | cons i groups ih =>
      have hrest := ih (fun j hj => h j (List.mem_cons_of_mem _ hj))
      rw [scan_cons]
      cases hkeep : keep i with
      | true => rw [List.filter_cons_of_pos hkeep, scan_cons, hrest]
      | false =>
          have hempty : (block i).filter p = [] := by
            rw [List.filter_eq_nil_iff]
            intro r hr hp
            have := h i List.mem_cons_self r hr hp
            rw [hkeep] at this
            cases this
          rw [List.filter_cons_of_neg (by simp [hkeep]), hrest, hempty, List.nil_append]

/-- Nothing is lost exactly when every block with a passing entry is kept. -/
theorem length_scan_filter_eq_iff {groups : List ι} {keep : ι → Bool} {p : ρ → Bool} :
    (scan block (groups.filter keep) p).length = (scan block groups p).length ↔
      ∀ i ∈ groups, ∀ r ∈ block i, p r = true → keep i = true := by
  constructor
  · intro hlen
    induction groups with
    | nil =>
        intro i hi
        cases hi
    | cons i groups ih =>
        have hsub := (scan_filter_sublist block groups keep p).length_le
        rw [scan_cons, List.length_append] at hlen
        cases hkeep : keep i with
        | true =>
            rw [List.filter_cons_of_pos hkeep, scan_cons, List.length_append] at hlen
            intro j hj
            cases List.mem_cons.mp hj with
            | inl heq =>
                subst heq
                exact fun _ _ _ => hkeep
            | inr hmem => exact ih (by omega) j hmem
        | false =>
            rw [List.filter_cons_of_neg (by simp [hkeep])] at hlen
            have hempty : (block i).filter p = [] := List.eq_nil_of_length_eq_zero (by omega)
            intro j hj
            cases List.mem_cons.mp hj with
            | inl heq =>
                subst heq
                intro r hr hp
                exact absurd hp (List.filter_eq_nil_iff.mp hempty r hr)
            | inr hmem => exact ih (by omega) j hmem
  · intro h
    rw [scan_filter_eq block h]

/-- Where every entry knows its block, skipping is one more test on entries. -/
theorem scan_filter_tagged {groups : List ι} (tag : ρ → ι) (keep : ι → Bool) (p : ρ → Bool)
    (htag : ∀ i ∈ groups, ∀ r ∈ block i, tag r = i) :
    scan block (groups.filter keep) p =
      (groups.flatMap block).filter (fun r => keep (tag r) && p r) := by
  induction groups with
  | nil => rfl
  | cons i groups ih =>
      have hrest := ih (fun j hj => htag j (List.mem_cons_of_mem _ hj))
      rw [List.flatMap_cons, List.filter_append, ← hrest]
      have hhead : (block i).filter (fun r => keep (tag r) && p r) =
          (block i).filter (fun r => keep i && p r) := by
        apply List.filter_congr
        intro r hr
        rw [htag i List.mem_cons_self r hr]
      rw [hhead]
      cases hkeep : keep i with
      | true =>
          rw [List.filter_cons_of_pos hkeep, scan_cons]
          simp
      | false =>
          rw [List.filter_cons_of_neg (by simp [hkeep])]
          simp

/-- A selection of entries is a selection of their images exactly when it depends on
the image alone. -/
theorem map_filter_eq_iff {β : Type} {image : ρ → β} {p : ρ → Bool} {q : β → Bool}
    {entries : List ρ} :
    (entries.filter p).map image = (entries.map image).filter q ↔
      ∀ r ∈ entries, p r = q (image r) := by
  classical
  constructor
  · intro h r hr
    -- count the entries that share the image of `r`
    let same : ρ → Bool := fun a => decide (image a = image r)
    have hcount : (entries.filter p).countP same =
        (entries.filter (fun a => q (image a))).countP same := by
      have := congrArg (List.countP fun b => decide (b = image r)) h
      rw [List.filter_map, List.countP_map, List.countP_map] at this
      exact this
    have hsplit := List.countP_eq_countP_filter_add entries same p
    have hsplit' := List.countP_eq_countP_filter_add entries same (fun a => q (image a))
    cases hq : q (image r) with
    | true =>
        have hnone : (entries.filter fun a => !q (image a)).countP same = 0 := by
          rw [List.countP_eq_zero]
          intro a ha hsame
          have himage := of_decide_eq_true hsame
          have hqa := (List.mem_filter.mp ha).2
          rw [himage, hq] at hqa
          cases hqa
        have hlost : (entries.filter fun a => !p a).countP same = 0 := by omega
        by_contra hp
        have hmem : r ∈ entries.filter fun a => !p a :=
          List.mem_filter.mpr ⟨hr, by simpa using hp⟩
        exact List.countP_eq_zero.mp hlost r hmem (by simp [same])
    | false =>
        have hnone : (entries.filter fun a => q (image a)).countP same = 0 := by
          rw [List.countP_eq_zero]
          intro a ha hsame
          have himage := of_decide_eq_true hsame
          have hqa := (List.mem_filter.mp ha).2
          rw [himage, hq] at hqa
          cases hqa
        rw [hnone] at hcount
        by_contra hp
        have hmem : r ∈ entries.filter p := List.mem_filter.mpr ⟨hr, by simpa using hp⟩
        exact List.countP_eq_zero.mp hcount r hmem (by simp [same])
  · intro h
    rw [List.filter_map]
    exact congrArg _ (List.filter_congr h)

/-- The same for several lists one after another, on the entries a further test
admits in both. -/
theorem flatMap_filter_eq_iff {κ β : Type} {entry : κ → Type} {groups : List κ}
    {entries : ∀ k, List (entry k)} {allow p : ∀ k, entry k → Bool} (image : ∀ k, entry k → β)
    (q : β → Bool) :
    groups.flatMap (fun k => ((entries k).filter fun r => allow k r && p k r).map (image k)) =
        groups.flatMap (fun k =>
          ((entries k).filter fun r => allow k r && q (image k r)).map (image k)) ↔
      ∀ k ∈ groups, ∀ r ∈ entries k, allow k r = true → p k r = q (image k r) := by
  let marked := groups.flatMap fun k =>
    ((entries k).filter (allow k)).map fun r => (image k r, p k r)
  have hleft : (marked.filter (·.2)).map (·.1) = groups.flatMap (fun k =>
      ((entries k).filter fun r => allow k r && p k r).map (image k)) := by
    simp only [marked, List.filter_flatMap, List.map_flatMap, List.filter_map, List.map_map,
      List.filter_filter, Function.comp_def, Bool.and_comm]
  have hright : (marked.map (·.1)).filter q = groups.flatMap (fun k =>
      ((entries k).filter fun r => allow k r && q (image k r)).map (image k)) := by
    simp only [marked, List.filter_flatMap, List.map_flatMap, List.filter_map, List.map_map,
      List.filter_filter, Function.comp_def, Bool.and_comm]
  rw [← hleft, ← hright, map_filter_eq_iff]
  constructor
  · intro h k hk r hr hallow
    exact h (image k r, p k r) (List.mem_flatMap.mpr
      ⟨k, hk, List.mem_map.mpr ⟨r, List.mem_filter.mpr ⟨hr, hallow⟩, rfl⟩⟩)
  · intro h e he
    obtain ⟨k, hk, hmem⟩ := List.mem_flatMap.mp he
    obtain ⟨r, hr, rfl⟩ := List.mem_map.mp hmem
    exact h k hk r (List.mem_filter.mp hr).1 (List.mem_filter.mp hr).2

end Blocks
