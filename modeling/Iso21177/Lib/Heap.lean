import Mathlib.Order.Basic

/-!
# A Reference-Counted Heap

Objects at addresses, each with the number of references held on it. The
point of the model is what happens after the last reference is dropped: the
address is dead, reading it is undefined, and the allocator is free to hand it
out again. A program that keeps such an address and reads it later may
therefore find another object there, which a model without addresses cannot
say.

Which dead address a new object gets is the allocator's business. An
`Allocator` is any choice that never picks a live address, and that single law
is the only thing a caller may rely on. `topFit` is one such choice; it takes
the address after the highest live one, so an object released last is the
first to have its address reused.

Writing or allocating leaves every other live object alone (`read_write_ne`,
`read_alloc_of_live`), and so does dropping a reference to another object
(`read_release_ne`). These three are the frame a caller reasons with.

## Main definitions

* `Heap`: Objects with their reference counts, by address.
* `Heap.cell`: The object and count at a live address.
* `Heap.read`: The object at a live address.
* `Heap.write`: Changing the object at an address.
* `Heap.upRef`: Taking one more reference.
* `Heap.release`: Dropping a reference, the last one ending the object.
* `Allocator`: A choice of a dead address for a new object.
* `Allocator.alloc`: A new object with one reference.
* `topFit`: The allocator that takes the lowest address above all live ones.

## Theorems

* `read_write_self`: A written live object reads back.
* `read_write_ne`: A write leaves other addresses alone.
* `read_alloc_self`: A new object reads back.
* `read_alloc_of_live`: Allocation leaves live objects alone.
* `read_alloc_release`: A new object that is released is gone.
* `read_release_ne`: Dropping a reference leaves other addresses alone.
* `read_of_release`: Dropping a reference changes no object that is left.
* `read_upRef`: Taking a reference changes no object.
-/

namespace Iso21177

/-- Objects of type `α` by address, with their reference counts. The first
    entry of an address is the one that counts. -/
structure Heap (α : Type) where
  cells : List (Nat × α × Nat)

namespace Heap

variable {α : Type}

/-- A heap with no objects. -/
def empty : Heap α := ⟨[]⟩

/-- The object at a live address with its reference count. -/
def cell (h : Heap α) (a : Nat) : Option (α × Nat) := h.cells.lookup a

/-- The object at a live address. -/
def read (h : Heap α) (a : Nat) : Option α :=
  match h.cell a with
  | none => none
  | some (v, _) => some v

/-- Put an object and its count at an address. -/
def put (h : Heap α) (a : Nat) (v : α) (refs : Nat) : Heap α :=
  ⟨(a, v, refs) :: h.cells⟩

/-- End the object at an address. -/
def erase (h : Heap α) (a : Nat) : Heap α :=
  ⟨h.cells.filter (fun c => c.1 != a)⟩

/-- Change the object at a live address; a dead address is left dead. -/
def write (h : Heap α) (a : Nat) (v : α) : Heap α :=
  match h.cell a with
  | none => h
  | some (_, refs) => h.put a v refs

/-- One more reference to a live object; undefined at a dead address. -/
def upRef (h : Heap α) (a : Nat) : Option (Heap α) :=
  match h.cell a with
  | none => none
  | some (v, refs) => some (h.put a v (refs + 1))

/-- One reference fewer; the last one ends the object. Undefined at a dead
    address, which is what releasing twice comes to. -/
def release (h : Heap α) (a : Nat) : Option (Heap α) :=
  match h.cell a with
  | none => none
  | some (v, refs) => some (if refs ≤ 1 then h.erase a else h.put a v (refs - 1))

/-- What was put at an address is found there. -/
theorem cell_put_self (h : Heap α) (a : Nat) (v : α) (refs : Nat) :
    (h.put a v refs).cell a = some (v, refs) := by
  simp only [put, cell, List.lookup_cons, beq_self_eq_true]

/-- Putting an object at one address does not show at another. -/
theorem cell_put_ne (h : Heap α) (a b : Nat) (v : α) (refs : Nat) (hne : b ≠ a) :
    (h.put a v refs).cell b = h.cell b := by
  have hb : (b == a) = false := beq_eq_false_iff_ne.mpr hne
  simp only [put, cell, List.lookup_cons, hb]

/-- Ending an object does not show at another address. By induction on the cells, since the
    one looked for may stand behind those that go. -/
theorem cell_erase_ne (h : Heap α) (a b : Nat) (hne : b ≠ a) :
    (h.erase a).cell b = h.cell b := by
  rcases h with ⟨cs⟩
  simp only [erase, cell]
  induction cs with
  | nil => rfl
  | cons c cs ih =>
      by_cases hc : c.1 = a
      · -- A dropped entry is not the one `b` looks for.
        have hbc : (b == c.1) = false := beq_eq_false_iff_ne.mpr (by rw [hc]; exact hne)
        rw [List.filter_cons_of_neg (by simp only [hc, bne_self_eq_false, Bool.false_eq_true,
          not_false_eq_true]), ih, List.lookup_cons, hbc]
      · rw [List.filter_cons_of_pos (by simp only [bne_iff_ne, ne_eq, hc, not_false_eq_true]),
          List.lookup_cons, List.lookup_cons, ih]

theorem read_put_self (h : Heap α) (a : Nat) (v : α) (refs : Nat) :
    (h.put a v refs).read a = some v := by
  simp only [read, cell_put_self]

theorem read_put_ne (h : Heap α) (a b : Nat) (v : α) (refs : Nat) (hne : b ≠ a) :
    (h.put a v refs).read b = h.read b := by
  simp only [read, cell_put_ne h a b v refs hne]

/-- A live object that is written reads back as written. -/
theorem read_write_self {h : Heap α} {a : Nat} {u : α} (v : α) (hl : h.read a = some u) :
    (h.write a v).read a = some v := by
  unfold write
  cases hc : h.cell a with
  | none => simp only [read, hc, reduceCtorEq] at hl
  | some c => exact read_put_self ..

/-- A write leaves other addresses alone, whether they are live or not. -/
theorem read_write_ne (h : Heap α) (a b : Nat) (v : α) (hne : b ≠ a) :
    (h.write a v).read b = h.read b := by
  unfold write
  cases h.cell a with
  | none => rfl
  | some c => exact read_put_ne h a b v c.2 hne

/-- Taking a reference changes a count and no object. -/
theorem read_upRef {h h' : Heap α} {a : Nat} (b : Nat) (hu : h.upRef a = some h') :
    h'.read b = h.read b := by
  unfold upRef at hu
  cases hc : h.cell a with
  | none => simp only [hc, reduceCtorEq] at hu
  | some c =>
      simp only [hc, Option.some.injEq] at hu
      subst hu
      by_cases hb : b = a
      · subst hb
        simp only [read, cell_put_self, hc]
      · exact read_put_ne h a b c.1 _ hb

/-- Dropping a reference leaves other addresses alone, even when the object ends. -/
theorem read_release_ne {h h' : Heap α} {a b : Nat} (hr : h.release a = some h')
    (hne : b ≠ a) : h'.read b = h.read b := by
  unfold release at hr
  cases hc : h.cell a with
  | none => simp only [hc, reduceCtorEq] at hr
  | some c =>
      simp only [hc, Option.some.injEq] at hr
      subst hr
      by_cases hle : c.2 ≤ 1
      · rw [if_pos hle]
        simp only [read, cell_erase_ne h a b hne]
      · rw [if_neg hle]
        exact read_put_ne h a b c.1 _ hne

/-- An object that was ended is not found, also not behind an older entry of its address. -/
theorem cell_erase_self (h : Heap α) (a : Nat) : (h.erase a).cell a = none := by
  rcases h with ⟨cs⟩
  simp only [erase, cell]
  induction cs with
  | nil => rfl
  | cons c cs ih =>
      by_cases hc : c.1 = a
      · rw [List.filter_cons_of_neg (by simp only [hc, bne_self_eq_false, Bool.false_eq_true,
          not_false_eq_true]), ih]
      · have hac : (a == c.1) = false := beq_eq_false_iff_ne.mpr (Ne.symm hc)
        rw [List.filter_cons_of_pos (by simp only [bne_iff_ne, ne_eq, hc, not_false_eq_true]),
          List.lookup_cons, hac]
        exact ih

/-- What is live after a release was the same object before it. -/
theorem read_of_release {h h' : Heap α} {a b : Nat} {v : α} (hr : h.release b = some h')
    (hv : h'.read a = some v) : h.read a = some v := by
  by_cases hab : a = b
  · subst hab
    unfold release at hr
    cases hc : h.cell a with
    | none => simp only [hc, reduceCtorEq] at hr
    | some c =>
        simp only [hc, Option.some.injEq] at hr
        subst hr
        by_cases hle : c.2 ≤ 1
        · rw [if_pos hle] at hv
          simp only [read, cell_erase_self, reduceCtorEq] at hv
        · rw [if_neg hle, read_put_self] at hv
          simp only [read, hc]
          exact hv
  · rw [← read_release_ne hr hab]
    exact hv

end Heap

/-- A choice of address for the next object. It may be any address, one used
    before included, as long as no object lives there now. -/
structure Allocator (α : Type) where
  next : Heap α → Nat
  fresh : ∀ h : Heap α, h.cell (next h) = none

namespace Allocator

variable {α : Type}

/-- A new object with one reference. -/
def alloc (A : Allocator α) (h : Heap α) (v : α) : Nat × Heap α :=
  (A.next h, h.put (A.next h) v 1)

/-- A new object reads back. -/
theorem read_alloc_self (A : Allocator α) (h : Heap α) (v : α) :
    (A.alloc h v).2.read (A.alloc h v).1 = some v :=
  Heap.read_put_self ..

/-- A new object never takes the address of a live one. -/
theorem ne_next_of_live (A : Allocator α) {h : Heap α} {a : Nat} {u : α}
    (hl : h.read a = some u) : a ≠ A.next h := by
  intro ha
  rw [ha] at hl
  simp only [Heap.read, A.fresh h, reduceCtorEq] at hl

/-- Allocation leaves live objects alone. Of dead addresses this cannot be said, since the new
    object may be at one of them. -/
theorem read_alloc_of_live (A : Allocator α) {h : Heap α} {a : Nat} {u : α} (v : α)
    (hl : h.read a = some u) : (A.alloc h v).2.read a = some u := by
  rw [alloc, Heap.read_put_ne h _ a v 1 (A.ne_next_of_live hl)]
  exact hl

/-- An object whose only reference is dropped at once leaves its address dead. -/
theorem read_alloc_release (A : Allocator α) {h h' : Heap α} {v : α}
    (hr : (A.alloc h v).2.release (A.alloc h v).1 = some h') :
    h'.read (A.alloc h v).1 = none := by
  simp only [alloc, Heap.release, Heap.cell_put_self, Nat.le_refl, if_true,
    Option.some.injEq] at hr
  rw [← hr]
  simp only [alloc, Heap.read, Heap.cell_erase_self]

end Allocator

/-- Above the highest address used there is nothing. -/
theorem lookup_eq_none_of_lt {α : Type} (cs : List (Nat × α)) (a : Nat)
    (h : (cs.map Prod.fst).foldr max 0 < a) : cs.lookup a = none := by
  induction cs with
  | nil => rfl
  | cons c cs ih =>
      simp only [List.map_cons, List.foldr_cons] at h
      have hac : (a == c.1) = false := beq_eq_false_iff_ne.mpr (by omega)
      rw [List.lookup_cons, hac]
      exact ih (by omega)

/-- The allocator that takes the address just above every live one. An object
    that was placed last and released is the first to be replaced. -/
def topFit {α : Type} : Allocator α where
  next h := (h.cells.map Prod.fst).foldr max 0 + 1
  fresh h := lookup_eq_none_of_lt h.cells _ (Nat.lt_succ_self _)

end Iso21177
