import Mathlib.Data.List.Basic

/-!
# Memory

A memory of cells at addresses, written and read a stretch at a time. What a stretch holds
after a write depends on how the two lie: the stretch is what was written, a part of it,
or apart from it. A piece of code is framed by a stretch if it leaves every cell outside
of it alone, and frames compose.

## Main definitions

* `Memory`: A cell at every address.
* `Memory.store`, `Memory.load`: Writing and reading a stretch.
* `Memory.Framed`: Two memories differ in a stretch only.

## Theorems

* `store_apply_outside`, `store_apply_inside`: A cell after a write.
* `length_load`, `load_congr`: Reading a stretch.
* `load_store_inside`, `load_store_self`, `load_store_apart`, `load_store_replicate`: Reading
  after a write.
* `framed_refl`, `Framed.trans`, `Framed.mono`, `framed_store`, `Framed.load`: Frames.
-/

namespace Iso21177

/-- A cell at every address. -/
def Memory (α : Type*) := Nat → α

namespace Memory

variable {α : Type*}

/-- Write a stretch. -/
def store (m : Memory α) (a : Nat) (b : List α) : Memory α :=
  fun i => if a ≤ i then (b[i - a]?).getD (m i) else m i

/-- Read a stretch. -/
def load (m : Memory α) (a n : Nat) : List α := (List.range n).map (fun i => m (a + i))

/-- The second memory is the first but for `n` cells from `a` on. -/
def Framed (a n : Nat) (m m' : Memory α) : Prop := ∀ i, i < a ∨ a + n ≤ i → m' i = m i

theorem store_apply_outside {m : Memory α} {a i : Nat} {b : List α}
    (h : i < a ∨ a + b.length ≤ i) : m.store a b i = m i := by
  unfold store
  split
  · rw [List.getElem?_eq_none (by omega), Option.getD_none]
  · rfl

theorem store_apply_inside {m : Memory α} {a i : Nat} {b : List α} (h : i < b.length) :
    m.store a b (a + i) = b[i] := by
  unfold store
  have hi : a + i - a = i := by omega
  rw [if_pos (by omega), hi, List.getElem?_eq_getElem h, Option.getD_some]

@[simp]
theorem length_load (m : Memory α) (a n : Nat) : (m.load a n).length = n := by
  rw [load, List.length_map, List.length_range]

/-- A stretch is read alike where the cells are alike. -/
theorem load_congr {m m' : Memory α} {a n : Nat} (h : ∀ i, a ≤ i → i < a + n → m' i = m i) :
    m'.load a n = m.load a n := by
  unfold load
  refine List.map_congr_left (fun i hi => ?_)
  rw [List.mem_range] at hi
  exact h (a + i) (by omega) (by omega)

/-- A part of what was written. -/
theorem load_store_inside {m : Memory α} {a off n : Nat} {b : List α} (h : off + n ≤ b.length) :
    (m.store a b).load (a + off) n = (b.drop off).take n := by
  apply List.ext_getElem
  · rw [length_load, List.length_take, List.length_drop]
    omega
  · intro i hi hi'
    rw [length_load] at hi
    simp only [load, List.getElem_map, List.getElem_range, List.getElem_take, List.getElem_drop,
      Nat.add_assoc]
    exact store_apply_inside (show off + i < b.length by omega)

/-- What was written. -/
theorem load_store_self {m : Memory α} {a : Nat} {b : List α} :
    (m.store a b).load a b.length = b := by
  have h := @load_store_inside α m a 0 b.length b (by omega)
  rw [Nat.add_zero, List.drop_zero, List.take_length] at h
  exact h

/-- A stretch apart from what was written. -/
theorem load_store_apart {m : Memory α} {a a' n : Nat} {b : List α}
    (h : a' + n ≤ a ∨ a + b.length ≤ a') : (m.store a b).load a' n = m.load a' n :=
  load_congr (fun i hi hi' => store_apply_outside (by omega))

/-- A part of a stretch that was filled. -/
theorem load_store_replicate {m : Memory α} {a a' n k : Nat} {x : α} (h : a ≤ a')
    (h' : a' + n ≤ a + k) :
    (m.store a (List.replicate k x)).load a' n = List.replicate n x := by
  have hoff : a' = a + (a' - a) := by omega
  have hlen : a' - a + n ≤ (List.replicate k x).length := by
    rw [List.length_replicate]
    omega
  rw [hoff, load_store_inside hlen, List.drop_replicate, List.take_replicate]
  congr 1
  omega

theorem framed_refl (a n : Nat) (m : Memory α) : Framed a n m m := fun _ _ => rfl

theorem Framed.trans {a n : Nat} {m m' m'' : Memory α} (h : Framed a n m m')
    (h' : Framed a n m' m'') : Framed a n m m'' := by
  intro i hi
  rw [h' i hi, h i hi]

/-- A frame may be taken larger. -/
theorem Framed.mono {a n a' n' : Nat} {m m' : Memory α} (h : Framed a n m m') (ha : a' ≤ a)
    (hn : a + n ≤ a' + n') : Framed a' n' m m' :=
  fun i hi => h i (by omega)

/-- A write inside a stretch. -/
theorem framed_store {m : Memory α} {a n a' : Nat} {b : List α} (h : a ≤ a')
    (h' : a' + b.length ≤ a + n) : Framed a n m (m.store a' b) :=
  fun i hi => store_apply_outside (by omega)

/-- What lies apart from the frame reads as before. -/
theorem Framed.load {a n a' n' : Nat} {m m' : Memory α} (h : Framed a n m m')
    (hapart : a' + n' ≤ a ∨ a + n ≤ a') : m'.load a' n' = m.load a' n' :=
  load_congr (fun i hi hi' => h i (by omega))

end Memory

end Iso21177
