import Iso21177.Lib.Run

/-!
# Taking Turns

What several speakers say in turn. An automaton reads the lines, and in some of its states it is
the turn of one speaker: only a line of that speaker leads on (`TakesTurns`). A state in
which it is nobody's turn is open.

Each speaker knows the order of its own lines. As long as no open state is met, that is the
order of all of them: if in two accepted words of each speaker one has a beginning of what the
other has, one word is a beginning of the other, or they have a common beginning that leads to
an open state (`turns_agree`). If each speaker says the same in both they are one and the same
word, up to that (`turns_order`).

## Main definitions

* `TakesTurns`: Out of turn nothing leads on.
* `said`: The lines of one speaker.

## Theorems

* `said_cons_self`, `said_cons_ne`: One more line.
* `eq_nil_of_said`: Where nobody spoke there is no line.
* `turns_agree`: What each speaker said determines the order, also of a part.
* `eq_of_prefix_said`, `turns_order`: The same for words that say the same.
* `turns_meet`: Ends that wait for each other are open.
-/

namespace Iso21177

section

variable {σ α β : Type} [DecidableEq β] (speaker : α → β)

/-- The lines of one speaker, in order. -/
def said (b : β) (w : List α) : List α := w.filter (fun a => speaker a = b)

/-- Where it is someone's turn, nobody else's line leads on. -/
def TakesTurns (next : σ → α → Option σ) (turn : σ → Option β) : Prop :=
  ∀ q a q' b, next q a = some q' → turn q = some b → speaker a = b

theorem said_cons_self {b : β} {a : α} (h : speaker a = b) (w : List α) :
    said speaker b (a :: w) = a :: said speaker b w :=
  List.filter_cons_of_pos (decide_eq_true h)

theorem said_cons_ne {b : β} {a : α} (h : speaker a ≠ b) (w : List α) :
    said speaker b (a :: w) = said speaker b w :=
  List.filter_cons_of_neg (by rw [decide_eq_true_eq]; exact h)

theorem eq_nil_of_said {w : List α} (h : ∀ b, said speaker b w = []) : w = [] := by
  cases w with
  | nil => rfl
  | cons a w =>
      have ha := h (speaker a)
      rw [said_cons_self speaker rfl] at ha
      exact absurd ha (List.cons_ne_nil a _)

variable {speaker} {next : σ → α → Option σ} {turn : σ → Option β}

/-- If of each speaker one word has a beginning of what the other has, one word is a beginning of
    the other, up to an open state. -/
theorem turns_agree (ht : TakesTurns speaker next turn) {v w : List α} {q p r : σ}
    (hv : run next q v = some p) (hw : run next q w = some r)
    (hsaid : ∀ b, said speaker b v <+: said speaker b w ∨ said speaker b w <+: said speaker b v) :
    (v <+: w ∨ w <+: v) ∨
      ∃ u o, u <+: v ∧ u <+: w ∧ run next q u = some o ∧ turn o = none := by
  induction v generalizing q w with
  | nil => exact Or.inl (Or.inl List.nil_prefix)
  | cons a v ih =>
      cases hq : turn q with
      | none => exact Or.inr ⟨[], q, List.nil_prefix, List.nil_prefix, rfl, hq⟩
      | some b =>
          cases w with
          | nil => exact Or.inl (Or.inr List.nil_prefix)
          | cons c w =>
              simp only [run] at hv hw
              cases hna : next q a with
              | none => simp only [hna, reduceCtorEq] at hv
              | some q' =>
                  cases hnc : next q c with
                  | none => simp only [hnc, reduceCtorEq] at hw
                  | some q'' =>
                      simp only [hna] at hv
                      simp only [hnc] at hw
                      have ha := ht q a q' b hna hq
                      have hc := ht q c q'' b hnc hq
                      -- It is one speaker's turn, so both words go on with its next line.
                      have hb := hsaid b
                      rw [said_cons_self speaker ha, said_cons_self speaker hc,
                        List.cons_prefix_cons, List.cons_prefix_cons] at hb
                      have hac : a = c := hb.elim And.left (fun h => h.1.symm)
                      subst hac
                      rw [hna, Option.some.injEq] at hnc
                      subst hnc
                      have hrest : ∀ d, said speaker d v <+: said speaker d w ∨
                          said speaker d w <+: said speaker d v := by
                        intro d
                        by_cases hd : speaker a = d
                        · rw [← hd, ha]
                          exact hb.imp And.right And.right
                        · have hd' := hsaid d
                          rwa [said_cons_ne speaker hd, said_cons_ne speaker hd] at hd'
                      rcases ih hv hw hrest with h | ⟨u, o, huv, huw, hu, ho⟩
                      · left
                        rw [List.prefix_cons_inj, List.prefix_cons_inj]
                        exact h
                      · refine Or.inr ⟨a :: u, o, (List.prefix_cons_inj a).mpr huv,
                          (List.prefix_cons_inj a).mpr huw, ?_, ho⟩
                        simp only [run, hna, hu]

/-- A beginning that has everything each speaker said is the whole word. -/
theorem eq_of_prefix_said {v w : List α} (h : v <+: w)
    (hsaid : ∀ b, said speaker b v = said speaker b w) : v = w := by
  rcases h with ⟨r, rfl⟩
  have hr : r = [] := by
    refine eq_nil_of_said speaker (fun b => ?_)
    have hb := hsaid b
    rw [said, said, List.filter_append] at hb
    exact List.self_eq_append_right.mp hb
  rw [hr, List.append_nil]

/-- Words in which each speaker says the same are the same, up to an open state. -/
theorem turns_order (ht : TakesTurns speaker next turn) {v w : List α} {q p r : σ}
    (hv : run next q v = some p) (hw : run next q w = some r)
    (hsaid : ∀ b, said speaker b v = said speaker b w) :
    v = w ∨ ∃ u o, u <+: v ∧ u <+: w ∧ run next q u = some o ∧ turn o = none := by
  have heq : ∀ b, said speaker b v <+: said speaker b w ∨ said speaker b w <+: said speaker b v :=
    fun b => Or.inl (by rw [hsaid b])
  rcases turns_agree ht hv hw heq with (h | h) | h
  · exact Or.inl (eq_of_prefix_said h hsaid)
  · exact Or.inl (eq_of_prefix_said h (fun b => (hsaid b).symm)).symm
  · exact Or.inr h

/-- Two ends that have heard all the other said, neither of which has its own turn, have been in
    an open state together. -/
theorem turns_meet (ht : TakesTurns speaker next turn) {v w : List α} {q p r : σ} {b c : β}
    (hv : run next q v = some p) (hw : run next q w = some r)
    (hsaid : ∀ d, said speaker d v = said speaker d w) (hall : ∀ d, d = b ∨ d = c)
    (hp : turn p ≠ some b) (hr : turn r ≠ some c) :
    ∃ u o, u <+: v ∧ u <+: w ∧ run next q u = some o ∧ turn o = none := by
  rcases turns_order ht hv hw hsaid with rfl | h
  · rw [hv, Option.some.injEq] at hw
    subst hw
    refine ⟨v, p, List.prefix_rfl, List.prefix_rfl, hv, ?_⟩
    cases hturn : turn p with
    | none => rfl
    | some d =>
        rcases hall d with rfl | rfl
        · exact absurd hturn hp
        · exact absurd hturn hr
  · exact h

end

end Iso21177
