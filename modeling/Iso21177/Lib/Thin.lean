import Mathlib.Data.List.Chain
import Mathlib.Data.List.DropRight

/-!
# Greedy Thinning

A list of points is thinned by keeping the first one and then each that is far
from the one that was kept last. Nothing is assumed of what is far: it need not
be symmetric, and a point may be far from itself.

What the next point is compared with is the last point kept, so it does not
matter whether all the points kept before are still at hand. A list that has
only the last so many of them goes on as the whole list does (`keeps_rtake`),
which is why a bounded store can thin a stream of any length.

## Main definitions

* `keeps`: A point is far from the last one, or there is none.
* `thinFrom`, `thin`: Thinning a list.

## Theorems

* `thinFrom_far`, `thinFrom_near`: One step.
* `thin_append_singleton`: Thinning point by point.
* `thin_sublist`: Thinning leaves points out and does nothing else.
* `isChain_thin`: Neighbours are far.
* `keeps_rtake`: The last points decide.
* `rtake_of_length_le`, `rtake_eq_nil`, `rtake_rtake`, `rtake_append_singleton`: The last
  points, and after one more.
-/

namespace Iso21177

section

variable {α : Type} (far : α → α → Bool)

/-- A point is kept behind a list if it is far from the last one, or there is none. -/
def keeps (l : List α) (p : α) : Bool :=
  match l.getLast? with
  | none => true
  | some q => far q p

/-- The points of a list that are kept behind a point. -/
def thinFrom (q : α) : List α → List α
  | [] => []
  | p :: ps => if far q p then p :: thinFrom p ps else thinFrom q ps

/-- The first point, and then each that is far from the one kept last. -/
def thin : List α → List α
  | [] => []
  | p :: ps => p :: thinFrom far p ps

/-- Only the last point that was kept decides about the next. -/
theorem keeps_cons_cons (q p : α) (l : List α) (x : α) :
    keeps far (q :: p :: l) x = keeps far (p :: l) x := by
  rw [keeps, keeps, List.getLast?_cons_cons]

variable {far} in
theorem thinFrom_far {q p : α} (h : far q p = true) (ps : List α) :
    thinFrom far q (p :: ps) = p :: thinFrom far p ps := if_pos h

variable {far} in
theorem thinFrom_near {q p : α} (h : ¬ far q p = true) (ps : List α) :
    thinFrom far q (p :: ps) = thinFrom far q ps := if_neg h

/-- A point at the end is kept when it is far from the last one kept before it. -/
theorem thinFrom_append_singleton (q : α) (ps : List α) (p : α) :
    thinFrom far q (ps ++ [p]) =
      if keeps far (q :: thinFrom far q ps) p then thinFrom far q ps ++ [p]
      else thinFrom far q ps := by
  induction ps generalizing q with
  | nil => rfl
  | cons x ps ih =>
      rw [List.cons_append]
      by_cases hx : far q x = true
      · rw [thinFrom_far hx, thinFrom_far hx, ih, keeps_cons_cons]
        split <;> rfl
      · rw [thinFrom_near hx, thinFrom_near hx, ih]

/-- One more point is kept behind what was kept before, or left out. -/
theorem thin_append_singleton (ps : List α) (p : α) :
    thin far (ps ++ [p]) =
      if keeps far (thin far ps) p then thin far ps ++ [p] else thin far ps := by
  cases ps with
  | nil => rfl
  | cons x ps =>
      rw [List.cons_append, thin, thin, thinFrom_append_singleton]
      split <;> rfl

/-- Points are dropped, and none is moved. -/
theorem thinFrom_sublist (q : α) (ps : List α) : (thinFrom far q ps).Sublist ps := by
  induction ps generalizing q with
  | nil => exact List.Sublist.slnil
  | cons x ps ih =>
      rw [thinFrom]
      split
      · exact (ih x).cons_cons x
      · exact (ih q).cons x

/-- Thinning leaves points out and does nothing else. -/
theorem thin_sublist (ps : List α) : (thin far ps).Sublist ps := by
  cases ps with
  | nil => exact List.Sublist.slnil
  | cons x ps => exact (thinFrom_sublist far x ps).cons_cons x

/-- Points kept one after the other are far from each other. By induction on the points, each
    of which becomes the one to compare with or goes. -/
theorem isChain_thinFrom (q : α) (ps : List α) :
    List.IsChain (fun a b => far a b = true) (q :: thinFrom far q ps) := by
  induction ps generalizing q with
  | nil => exact List.isChain_singleton q
  | cons x ps ih =>
      rw [thinFrom]
      split
      · rename_i hx
        exact List.isChain_cons_cons.mpr ⟨hx, ih x⟩
      · exact ih q

/-- Neighbours are far. -/
theorem isChain_thin (ps : List α) :
    List.IsChain (fun a b => far a b = true) (thin far ps) := by
  cases ps with
  | nil => exact List.isChain_nil
  | cons x ps => exact isChain_thinFrom far x ps

/-- The last points decide whether a point is kept. -/
theorem keeps_rtake {n : Nat} (hn : 0 < n) (l : List α) (p : α) :
    keeps far (l.rtake n) p = keeps far l p := by
  rcases List.eq_nil_or_concat l with rfl | ⟨l, x, rfl⟩
  · rw [List.rtake_nil]
  · obtain ⟨m, rfl⟩ : ∃ m, n = m + 1 := ⟨n - 1, by omega⟩
    rw [List.concat_eq_append, List.rtake_concat_succ, keeps, keeps, List.getLast?_concat,
      List.getLast?_concat]

end

theorem rtake_of_length_le {α : Type} {n : Nat} {l : List α} (h : l.length ≤ n) :
    l.rtake n = l := by
  rw [List.rtake, Nat.sub_eq_zero_of_le h, List.drop_zero]

theorem rtake_eq_nil {α : Type} {n : Nat} (hn : 0 < n) {l : List α} (h : l.rtake n = []) :
    l = [] := by
  rw [List.rtake, List.drop_eq_nil_iff] at h
  exact List.length_eq_zero_iff.mp (by omega)

theorem rtake_rtake {α : Type} (n m : Nat) (l : List α) :
    (l.rtake m).rtake n = l.rtake (min n m) := by
  rw [List.rtake_eq_reverse_take_reverse, List.rtake_eq_reverse_take_reverse,
    List.rtake_eq_reverse_take_reverse, List.reverse_reverse, List.take_take]

/-- The last points after one more, from the last points before. -/
theorem rtake_append_singleton {α : Type} (n : Nat) (l : List α) (p : α) :
    (l.rtake n ++ [p]).rtake n = (l ++ [p]).rtake n := by
  cases n with
  | zero => rw [List.rtake_zero, List.rtake_zero]
  | succ n =>
      rw [List.rtake_concat_succ, List.rtake_concat_succ, rtake_rtake,
        Nat.min_eq_left (Nat.le_succ n)]

end Iso21177
