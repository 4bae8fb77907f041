import Iso21177.Lib.Heap

/-!
# Counting References

A heap counts the references to its objects, and a program holds them. The counts
back the program's references if at every address there are at least as many as the
program holds. A program that keeps it so never uses a dead address: what it holds can
be read, and every reference it holds can be dropped once.

The counts may be higher. A reference the program has lost keeps its object from ever
being released, which wastes memory and does no other harm.

The rules are those of an operation on the heap and what is held before and after it:
dropping a reference takes it off the list, taking one needs another to the same object
and puts it on the list, and a new object starts with one.

## Main definitions

* `Heap.refs`: The count at an address, none at a dead one.
* `Heap.Backs`: The counts back a list of references.

## Theorems

* `backs_nil`, `Backs.sublist`, `Backs.perm`: What is held.
* `read_of_backs`: What is held can be read.
* `backs_release`, `backs_upRef`, `backs_write`, `backs_alloc`: The operations.
-/

namespace Iso21177

namespace Heap

variable {α : Type}

/-- The references counted at an address. -/
def refs (h : Heap α) (a : Nat) : Nat :=
  match h.cell a with
  | none => 0
  | some (_, n) => n

/-- At every address there are at least as many references as are on the list. -/
def Backs (h : Heap α) (as : List Nat) : Prop := ∀ a, as.count a ≤ h.refs a

/-- The number of references is the one in the cell. -/
theorem refs_of_cell {h : Heap α} {a n : Nat} {v : α} (hc : h.cell a = some (v, n)) :
    h.refs a = n := by
  simp only [refs, hc]

theorem refs_put_self (h : Heap α) (a : Nat) (v : α) (n : Nat) : (h.put a v n).refs a = n :=
  refs_of_cell (cell_put_self h a v n)

/-- Putting an object somewhere leaves the count of other addresses. -/
theorem refs_put_ne (h : Heap α) (a b : Nat) (v : α) (n : Nat) (hne : b ≠ a) :
    (h.put a v n).refs b = h.refs b := by
  simp only [refs, cell_put_ne h a b v n hne]

/-- Ending an object leaves the count of other addresses. -/
theorem refs_erase_ne (h : Heap α) (a b : Nat) (hne : b ≠ a) :
    (h.erase a).refs b = h.refs b := by
  simp only [refs, cell_erase_ne h a b hne]

/-- An address with references is live. -/
theorem cell_of_refs {h : Heap α} {a : Nat} (hpos : 0 < h.refs a) :
    ∃ v, h.cell a = some (v, h.refs a) := by
  cases hc : h.cell a with
  | none => simp only [refs, hc, Nat.lt_irrefl] at hpos
  | some c => exact ⟨c.1, by rw [refs_of_cell hc]⟩

theorem backs_nil (h : Heap α) : h.Backs [] := by
  intro a
  rw [List.count_nil]
  exact Nat.zero_le _

/-- A heap that backs references backs any part of them. -/
theorem Backs.sublist {h : Heap α} {as bs : List Nat} (hb : h.Backs as) (hsub : bs.Sublist as) :
    h.Backs bs :=
  fun a => Nat.le_trans (hsub.count_le a) (hb a)

/-- In which order references are named does not matter. -/
theorem Backs.perm {h : Heap α} {as bs : List Nat} (hb : h.Backs as) (hp : as.Perm bs) :
    h.Backs bs := by
  intro a
  rw [← hp.count_eq a]
  exact hb a

/-- A reference that is backed is counted. -/
theorem Backs.refs_pos {h : Heap α} {as : List Nat} {a : Nat} (hb : h.Backs as) (ha : a ∈ as) :
    0 < h.refs a :=
  Nat.lt_of_lt_of_le (List.count_pos_iff.mpr ha) (hb a)

/-- What is held can be read. -/
theorem read_of_backs {h : Heap α} {as : List Nat} {a : Nat} (hb : h.Backs as) (ha : a ∈ as) :
    ∃ v, h.read a = some v := by
  rcases cell_of_refs (hb.refs_pos ha) with ⟨v, hc⟩
  exact ⟨v, by simp only [read, hc]⟩

/-- A reference that is held can be dropped, and the others are still backed. -/
theorem backs_release {h : Heap α} {as : List Nat} {a : Nat} (hb : h.Backs (a :: as)) :
    ∃ h', h.release a = some h' ∧ h'.Backs as := by
  rcases cell_of_refs (hb.refs_pos (List.mem_cons_self ..)) with ⟨v, hc⟩
  refine ⟨if h.refs a ≤ 1 then h.erase a else h.put a v (h.refs a - 1),
    by simp only [release, hc], fun b => ?_⟩
  have hcount := hb b
  by_cases hab : b = a
  · subst hab
    rw [List.count_cons_self] at hcount
    split
    · -- The last one: none is left on the list.
      omega
    · rw [refs_put_self]
      omega
  · rw [List.count_cons_of_ne (Ne.symm hab)] at hcount
    split
    · rw [refs_erase_ne h a b hab]
      exact hcount
    · rw [refs_put_ne h a b v _ hab]
      exact hcount

/-- Another reference can be taken to an object to which one is held. -/
theorem backs_upRef {h : Heap α} {as : List Nat} {a : Nat} (hb : h.Backs as) (ha : a ∈ as) :
    ∃ h', h.upRef a = some h' ∧ h'.Backs (a :: as) := by
  rcases cell_of_refs (hb.refs_pos ha) with ⟨v, hc⟩
  refine ⟨h.put a v (h.refs a + 1), by simp only [upRef, hc], fun b => ?_⟩
  have hcount := hb b
  by_cases hab : b = a
  · subst hab
    rw [List.count_cons_self, refs_put_self]
    omega
  · rw [List.count_cons_of_ne (Ne.symm hab), refs_put_ne h a b v _ hab]
    exact hcount

/-- Writing an object changes no count. -/
theorem refs_write (h : Heap α) (a b : Nat) (v : α) : (h.write a v).refs b = h.refs b := by
  unfold write
  cases hc : h.cell a with
  | none => rfl
  | some c =>
      by_cases hab : b = a
      · subst hab
        change (h.put b v c.2).refs b = h.refs b
        rw [refs_put_self, refs_of_cell hc]
      · exact refs_put_ne h a b v c.2 hab

/-- Changing an object changes no count. -/
theorem backs_write {h : Heap α} {as : List Nat} (hb : h.Backs as) (a : Nat) (v : α) :
    (h.write a v).Backs as := by
  intro b
  rw [refs_write]
  exact hb b

/-- A new object comes with one reference. -/
theorem backs_alloc (A : Allocator α) {h : Heap α} {as : List Nat} (hb : h.Backs as) (v : α) :
    (A.alloc h v).2.Backs ((A.alloc h v).1 :: as) := by
  intro b
  have hcount := hb b
  by_cases hb' : b = A.next h
  · subst hb'
    -- Nothing was held at an address that was dead.
    have hzero : h.refs (A.next h) = 0 := by simp only [refs, A.fresh h]
    simp only [Allocator.alloc, List.count_cons_self, refs_put_self]
    omega
  · simp only [Allocator.alloc, List.count_cons_of_ne (Ne.symm hb'),
      refs_put_ne h _ b v 1 hb']
    exact hcount

end Heap

end Iso21177
