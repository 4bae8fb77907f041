import Mathlib.Logic.Function.Basic
import Iso21177.Lib.Run

/-!
# Interleaved Runs and Their Records

Several systems side by side, each taking its own events in any order relative to the
others. Nothing is shared, so a run of all of them is a run of each: `run_component` takes
the run of one system out. What passes between systems is not part of this; a message is an
event of the one that reads it, whoever sent it.

A record is a list that steps only add to, at its front. Each entry of the record at the
end of a run was there from the start or was added by some step of the run
(`entry_origin`). What entries can be is then a question about one step.

## Main definitions

* `stepAt`: One event of one of the systems.
* `eventsOf`: The events of one system.
* `Records`: The steps only add to the record.

## Theorems

* `eventsOf_cons_self`, `eventsOf_cons_ne`: The events of a system, one by one.
* `run_component`: A run of all systems is a run of each.
* `record_run`: A run only adds to the record.
* `entry_origin`: Where an entry comes from.
* `stepAt_some`, `records_stepAt`, `entry_origin_at`: The records of several systems.
-/

namespace Iso21177

section

variable {ι σ ε : Type} [DecidableEq ι] (step : ι → σ → ε → Option σ)

/-- One event of one of the systems; the others stay as they are. -/
def stepAt (w : ι → σ) (e : ι × ε) : Option (ι → σ) :=
  (step e.1 (w e.1) e.2).map (Function.update w e.1)

/-- The events of one system. -/
def eventsOf (i : ι) (es : List (ι × ε)) : List ε :=
  es.filterMap (fun e => if e.1 = i then some e.2 else none)

theorem eventsOf_cons_self (i : ι) (e : ε) (es : List (ι × ε)) :
    eventsOf i ((i, e) :: es) = e :: eventsOf i es := by
  simp only [eventsOf, List.filterMap_cons, if_true]

theorem eventsOf_cons_ne {i j : ι} (h : j ≠ i) (e : ε) (es : List (ι × ε)) :
    eventsOf i ((j, e) :: es) = eventsOf i es := by
  simp only [eventsOf, List.filterMap_cons, if_neg h]

/-- A run of all systems is a run of each. -/
theorem run_component {es : List (ι × ε)} {w u : ι → σ} (h : run (stepAt step) w es = some u)
    (i : ι) : run (step i) (w i) (eventsOf i es) = some (u i) := by
  induction es generalizing w with
  | nil =>
      simp only [run, Option.some.injEq] at h
      rw [h]
      rfl
  | cons e es ih =>
      rcases e with ⟨j, e⟩
      simp only [run, stepAt] at h
      cases hs : step j (w j) e with
      | none => simp only [hs, Option.map_none, reduceCtorEq] at h
      | some t =>
          simp only [hs, Option.map_some] at h
          have hrest := ih h
          by_cases hj : j = i
          · subst hj
            rw [eventsOf_cons_self, run, hs]
            rwa [Function.update_self] at hrest
          · rw [eventsOf_cons_ne hj]
            rwa [Function.update_of_ne (Ne.symm hj)] at hrest

end

section

variable {σ ε α : Type} {step : σ → ε → Option σ} {log : σ → List α}

/-- The steps only add to the record. -/
def Records (step : σ → ε → Option σ) (log : σ → List α) : Prop :=
  ∀ s e t, step s e = some t → ∃ l, log t = l ++ log s

theorem record_run (hrec : Records step log) {es : List ε} {s t : σ}
    (h : run step s es = some t) : ∃ l, log t = l ++ log s := by
  refine run_invariant step (fun u => ∃ l, log u = l ++ log s) (fun u e v hu hs => ?_) es s t
    ⟨[], rfl⟩ h
  rcases hu with ⟨l, hl⟩
  rcases hrec u e v hs with ⟨l', hl'⟩
  exact ⟨l' ++ l, by rw [hl', hl, List.append_assoc]⟩

/-- An entry of the record was there from the start, or a step added it. -/
theorem entry_origin (hrec : Records step log) {es : List ε} {s t : σ}
    (h : run step s es = some t) {a : α} (ha : a ∈ log t) :
    a ∈ log s ∨ ∃ es₁ e es₂ u v l, es = es₁ ++ e :: es₂ ∧ run step s es₁ = some u ∧
      step u e = some v ∧ run step v es₂ = some t ∧ log v = l ++ log u ∧ a ∈ l := by
  induction es generalizing s with
  | nil =>
      simp only [run, Option.some.injEq] at h
      exact Or.inl (h ▸ ha)
  | cons e es ih =>
      simp only [run] at h
      cases hs : step s e with
      | none => simp only [hs, reduceCtorEq] at h
      | some v =>
          simp only [hs] at h
          rcases ih h with hmem | ⟨es₁, e', es₂, u, v', l, rfl, hrun, hstep, hrest, hl, hmem⟩
          · rcases hrec s e v hs with ⟨l, hl⟩
            rw [hl, List.mem_append] at hmem
            rcases hmem with hnew | hold
            · exact Or.inr ⟨[], e, es, s, v, l, rfl, rfl, hs, h, hl, hnew⟩
            · exact Or.inl hold
          · exact Or.inr ⟨e :: es₁, e', es₂, u, v', l, rfl, by rw [run, hs]; exact hrun, hstep,
              hrest, hl, hmem⟩

end

section

variable {ι σ ε α : Type} [DecidableEq ι] {step : ι → σ → ε → Option σ} {log : σ → List α}

theorem stepAt_some {w u : ι → σ} {i : ι} {e : ε} :
    stepAt step w (i, e) = some u ↔
      ∃ t, step i (w i) e = some t ∧ u = Function.update w i t := by
  simp only [stepAt, Option.map_eq_some_iff, eq_comm]

/-- The record of each system is one that all steps only add to. -/
theorem records_stepAt (hrec : ∀ i, Records (step i) log) (i : ι) :
    Records (stepAt step) (fun w => log (w i)) := by
  rintro w ⟨j, e⟩ u h
  rcases stepAt_some.mp h with ⟨t, ht, rfl⟩
  beta_reduce
  by_cases hj : i = j
  · subst hj
    rw [Function.update_self]
    exact hrec i _ e t ht
  · exact ⟨[], by rw [Function.update_of_ne hj, List.nil_append]⟩

/-- An entry of the record of one system was there from the start, or a step of that system
    added it. -/
theorem entry_origin_at (hrec : ∀ i, Records (step i) log) {es : List (ι × ε)} {w u : ι → σ}
    (h : run (stepAt step) w es = some u) {i : ι} {a : α} (ha : a ∈ log (u i)) :
    a ∈ log (w i) ∨ ∃ es₁ e es₂ v t l, es = es₁ ++ (i, e) :: es₂ ∧
      run (stepAt step) w es₁ = some v ∧ step i (v i) e = some t ∧
      run (stepAt step) (Function.update v i t) es₂ = some u ∧
      log t = l ++ log (v i) ∧ a ∈ l := by
  rcases entry_origin (records_stepAt hrec i) h ha with
    hold | ⟨es₁, ⟨j, e⟩, es₂, v, x, l, rfl, hv, hstep, hrest, hl, hmem⟩
  · exact Or.inl hold
  · rcases stepAt_some.mp hstep with ⟨t, ht, rfl⟩
    -- The others leave the record of this one as it is.
    have hj : j = i := by
      by_contra hj
      rw [Function.update_of_ne (Ne.symm hj)] at hl
      have hnil : l = [] := List.append_left_eq_self.mp hl.symm
      rw [hnil] at hmem
      exact List.not_mem_nil hmem
    subst hj
    rw [Function.update_self] at hl
    exact Or.inr ⟨es₁, e, es₂, v, t, l, rfl, hv, ht, hrest, hl, hmem⟩

end

end Iso21177
