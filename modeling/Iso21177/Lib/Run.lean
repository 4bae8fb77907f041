import Mathlib.Computability.StateTransition

/-!
# Runs of a Partial Step Function

A system that takes one event after the other. The step function is partial:
`none` is an event whose effect is not defined, and a run that meets one has
no state after it.

An invariant of every step is an invariant of every run (`run_invariant`).
When the steps only keep it under a condition on the event and the state it
meets, the run keeps it as long as each of its steps meets that condition,
which `Along` says step by step (`run_invariant_along`).

A loop takes its steps by itself and ends at a state that has no next one. If
its steps keep an invariant and a number goes down with each of them, it ends,
at a state with the invariant (`loop_ends`); if each state with the invariant
has a next one, it never does (`loop_endless`).

## Main definitions

* `run`: The state after a list of events.
* `Along`: Every step of a run meets a condition.
* `checkAlong`: The same as a test.

## Theorems

* `along_of_check`: The test decides the condition.
* `run_append`, `run_concat`: A run splits at any point, and before its last step.
* `run_none_iff`: Where a run goes wrong.
* `run_split`: A run that succeeds does so up to any point.
* `along_append`: A condition splits as a run does.
* `run_invariant`: What every step keeps, every run keeps.
* `run_invariant_along`: What a conditioned step keeps, such a run keeps.
* `run_first_break`: A run without an invariant at its end has a first step that breaks it.
* `run_succeeds_along`: Such a run succeeds if its steps do.
* `along_of_forall`: A condition on the events alone.
* `loop_ends`, `loop_endless`: A loop that ends, and one that does not.
-/

namespace Iso21177

section

variable {σ ε : Type} (step : σ → ε → Option σ)

/-- The state after a list of events, or `none` once one is undefined. -/
def run : σ → List ε → Option σ
  | s, [] => some s
  | s, e :: es =>
    match step s e with
    | none => none
    | some s' => run s' es

/-- Every step the run takes meets `Ok`, a condition on the event and on the
    state it finds. -/
def Along (Ok : σ → ε → Prop) : σ → List ε → Prop
  | _, [] => True
  | s, e :: es => Ok s e ∧ ∀ s', step s e = some s' → Along Ok s' es

/-- The same as a test, for a condition that is one. -/
def checkAlong (ok : σ → ε → Bool) : σ → List ε → Bool
  | _, [] => true
  | s, e :: es =>
    ok s e && match step s e with
      | none => true
      | some s' => checkAlong ok s' es

theorem along_of_check (ok : σ → ε → Bool) (es : List ε) (s : σ)
    (h : checkAlong step ok s es = true) : Along step (fun s e => ok s e = true) s es := by
  induction es generalizing s with
  | nil => trivial
  | cons e es ih =>
      simp only [checkAlong, Bool.and_eq_true] at h
      refine ⟨h.1, fun s' hs => ih s' ?_⟩
      rw [hs] at h
      exact h.2

theorem run_append (es fs : List ε) (s t : σ) (h : run step s es = some t) :
    run step s (es ++ fs) = run step t fs := by
  induction es generalizing s with
  | nil =>
      simp only [run, Option.some.injEq] at h
      rw [List.nil_append, h]
  | cons e es ih =>
      simp only [run, List.cons_append] at h ⊢
      cases hs : step s e with
      | none => simp only [hs, reduceCtorEq] at h
      | some s' =>
          simp only [hs] at h
          exact ih s' h

/-- One more event is one more step. -/
theorem run_concat {es : List ε} {s t u : σ} (e : ε) (h : run step s es = some t) :
    run step s (es ++ [e]) = some u ↔ step t e = some u := by
  rw [run_append step es [e] s t h, run]
  cases step t e with
  | none => exact Iff.rfl
  | some v => exact Iff.rfl

/-- A run has no state after it exactly if one of its steps is undefined. -/
theorem run_none_iff {es : List ε} {s : σ} :
    run step s es = none ↔
      ∃ fs e gs t, es = fs ++ e :: gs ∧ run step s fs = some t ∧ step t e = none := by
  induction es generalizing s with
  | nil =>
      refine iff_of_false (Option.some_ne_none s) ?_
      rintro ⟨fs, e, gs, t, hes, -⟩
      exact absurd hes.symm (List.append_ne_nil_of_right_ne_nil fs (List.cons_ne_nil e gs))
  | cons e es ih =>
      simp only [run]
      cases hs : step s e with
      | none =>
          exact iff_of_true rfl ⟨[], e, es, s, rfl, rfl, hs⟩
      | some s' =>
          rw [ih]
          constructor
          · rintro ⟨fs, e', gs, t, hes, hrun, hnone⟩
            exact ⟨e :: fs, e', gs, t, by rw [hes, List.cons_append],
              by simp only [run, hs, hrun], hnone⟩
          · rintro ⟨fs, e', gs, t, hes, hrun, hnone⟩
            -- The first step is defined, so the other one comes later.
            cases fs with
            | nil =>
                rw [List.nil_append, List.cons.injEq] at hes
                rw [run, Option.some.injEq] at hrun
                rw [← hes.1, ← hrun, hs] at hnone
                exact absurd hnone (Option.some_ne_none s')
            | cons f fs =>
                rw [List.cons_append, List.cons.injEq] at hes
                rw [← hes.1] at hrun
                simp only [run, hs] at hrun
                exact ⟨fs, e', gs, t, hes.2, hrun, hnone⟩

/-- A run that succeeds succeeds up to any point, and goes on from there. -/
theorem run_split {es fs : List ε} {s u : σ}
    (h : run step s (es ++ fs) = some u) :
    ∃ t, run step s es = some t ∧ run step t fs = some u := by
  cases hes : run step s es with
  | none =>
      rcases (run_none_iff step).mp hes with ⟨gs, e, hs, t, rfl, hrun, hnone⟩
      have hn : run step s ((gs ++ e :: hs) ++ fs) = none :=
        (run_none_iff step).mpr ⟨gs, e, hs ++ fs, t, by simp only [List.append_assoc,
          List.cons_append], hrun, hnone⟩
      exact absurd (hn.symm.trans h) (Option.some_ne_none u).symm
  | some t => exact ⟨t, rfl, (run_append step es fs s t hes).symm.trans h⟩

/-- A condition on the steps of a run holds of the steps up to any point, and of the next. -/
theorem along_append (Ok : σ → ε → Prop) {fs gs : List ε} {s t : σ}
    (ha : Along step Ok s (fs ++ gs)) (h : run step s fs = some t) :
    Along step Ok s fs ∧ Along step Ok t gs := by
  induction fs generalizing s with
  | nil =>
      rw [run, Option.some.injEq] at h
      rw [← h]
      exact ⟨trivial, ha⟩
  | cons e fs ih =>
      simp only [run] at h
      cases hs : step s e with
      | none => simp only [hs, reduceCtorEq] at h
      | some s' =>
          simp only [hs] at h
          rcases ih (ha.2 s' hs) h with ⟨hfs, hgs⟩
          refine ⟨⟨ha.1, fun u hu => ?_⟩, hgs⟩
          rw [← Option.some.inj (hs.symm.trans hu)]
          exact hfs

/-- An invariant kept by the steps that meet a condition is kept by a run
    all of whose steps meet it. -/
theorem run_invariant_along (Ok : σ → ε → Prop) (Inv : σ → Prop)
    (hstep : ∀ s e s', Ok s e → Inv s → step s e = some s' → Inv s')
    (es : List ε) (s t : σ) (ha : Along step Ok s es) (hs : Inv s)
    (h : run step s es = some t) : Inv t := by
  induction es generalizing s with
  | nil =>
      simp only [run, Option.some.injEq] at h
      rwa [← h]
  | cons e es ih =>
      simp only [run] at h
      cases hse : step s e with
      | none => simp only [hse, reduceCtorEq] at h
      | some s' =>
          simp only [hse] at h
          exact ih s' (ha.2 s' hse) (hstep s e s' ha.1 hs hse) h

/-- If the steps that meet a condition succeed and keep an invariant, so does a run all of
    whose steps meet it. -/
theorem run_succeeds_along (Ok : σ → ε → Prop) (Inv : σ → Prop)
    (hstep : ∀ s e, Ok s e → Inv s → ∃ s', step s e = some s' ∧ Inv s')
    (es : List ε) (s : σ) (ha : Along step Ok s es) (hs : Inv s) :
    ∃ t, run step s es = some t ∧ Inv t := by
  induction es generalizing s with
  | nil => exact ⟨s, rfl, hs⟩
  | cons e es ih =>
      rcases hstep s e ha.1 hs with ⟨s', hse, hs'⟩
      rcases ih s' (ha.2 s' hse) hs' with ⟨t, ht, hinv⟩
      exact ⟨t, by rw [run, hse]; exact ht, hinv⟩

/-- A condition on the events alone holds along every run of such events. -/
theorem along_of_forall (P : ε → Prop) (es : List ε) (s : σ) (h : ∀ e ∈ es, P e) :
    Along step (fun _ e => P e) s es := by
  induction es generalizing s with
  | nil => trivial
  | cons e es ih =>
      exact ⟨h e (List.mem_cons_self ..),
        fun s' _ => ih s' (fun x hx => h x (List.mem_cons_of_mem e hx))⟩

/-- What holds at the start holds at the end, or some step of the run is the first to break
    it. -/
theorem run_first_break (Inv : σ → Prop) {es : List ε} {s t : σ} (hs : Inv s)
    (h : run step s es = some t) :
    Inv t ∨ ∃ fs e gs u v, es = fs ++ e :: gs ∧ run step s fs = some u ∧ Inv u ∧
      step u e = some v ∧ ¬ Inv v ∧ run step v gs = some t := by
  induction es generalizing s with
  | nil =>
      rw [run, Option.some.injEq] at h
      exact Or.inl (h ▸ hs)
  | cons e es ih =>
      simp only [run] at h
      cases hse : step s e with
      | none => simp only [hse, reduceCtorEq] at h
      | some s' =>
          simp only [hse] at h
          by_cases hs' : Inv s'
          · rcases ih hs' h with ht | ⟨fs, f, gs, u, v, hes, hrun, hrest⟩
            · exact Or.inl ht
            · exact Or.inr ⟨e :: fs, f, gs, u, v, by rw [hes, List.cons_append],
                by simp only [run, hse, hrun], hrest⟩
          · exact Or.inr ⟨[], e, es, s, s', rfl, rfl, hs, hse, hs', h⟩

/-- An invariant kept by every step is kept by every run. -/
theorem run_invariant (Inv : σ → Prop)
    (hstep : ∀ s e s', Inv s → step s e = some s' → Inv s')
    (es : List ε) (s t : σ) (hs : Inv s) (h : run step s es = some t) : Inv t :=
  run_invariant_along step (fun _ _ => True) Inv (fun s e s' _ => hstep s e s') es s t
    (along_of_forall step (fun _ => True) es s (fun _ _ => trivial)) hs h

end

section

variable {σ : Type} {step : σ → Option σ}

/-- A loop ends if a number goes down with each step, at a state with the invariant. -/
theorem loop_ends (Inv : σ → Prop) (μ : σ → Nat)
    (hstep : ∀ s s', Inv s → step s = some s' → Inv s' ∧ μ s' < μ s) {s : σ} (hs : Inv s) :
    ∃ t ∈ StateTransition.eval step s, Inv t ∧ step t = none := by
  -- The number bounds the steps that are left.
  induction hn : μ s using Nat.strong_induction_on generalizing s with
  | _ n ih =>
      cases hnext : step s with
      | none => exact ⟨s, StateTransition.mem_eval.mpr ⟨.refl, hnext⟩, hs, hnext⟩
      | some s' =>
          rcases hstep s s' hs hnext with ⟨hs', hlt⟩
          rcases ih (μ s') (hn ▸ hlt) hs' rfl with ⟨t, ht, hend⟩
          rw [← StateTransition.reaches_eval (.single hnext)] at ht
          exact ⟨t, ht, hend⟩

/-- A loop never ends if each state with the invariant has a next one. -/
theorem loop_endless (Inv : σ → Prop) (hstep : ∀ s, Inv s → ∃ s', step s = some s' ∧ Inv s')
    {s t : σ} (hs : Inv s) : t ∉ StateTransition.eval step s := by
  intro ht
  rcases StateTransition.mem_eval.mp ht with ⟨hreach, hnone⟩
  clear ht
  -- The end has the invariant like every state on the way, so it is no end.
  have hinv : Inv t := by
    clear hnone
    induction hreach with
    | refl => exact hs
    | tail _ hnext ih =>
        rcases hstep _ ih with ⟨u, hu, hinv⟩
        exact Option.mem_unique hu hnext ▸ hinv
  rcases hstep t hinv with ⟨u, hu, -⟩
  rw [hnone] at hu
  exact absurd hu (by simp only [reduceCtorEq, not_false_eq_true])

end

end Iso21177
