import Iso21177.Lib.Packet

/-!
# Partial Transfers

A loop that moves a given number of octets by calls that may each move fewer. A call
is asked for what is still missing and its result says how much of that it moved; a
result that is not positive ends the loop, and so does the end of what there is to
move. Writing a request and reading a reply are both of this kind.

The results are a list, one for each call, and a positive one that exceeds what was
asked for or what there is counts as the most that is possible. Every list is then a
way the calls can go, and every way is a list. Calls beyond the list fail.

`moves` is the octets of each call. Together they are a prefix of the source
(`flatten_moves_initial`), no longer than was asked for, and the loop ends with
everything moved exactly if no call failed (`moves_complete_iff`).

## Main definitions

* `moves`: The octets each call moves.

## Theorems

* `flatten_moves_initial`: What is moved is a prefix.
* `length_flatten_moves_le`: It is not more than was asked for.
* `moves_complete_iff`: A loop without a failed call moves everything.
* `flatten_moves_eq_take`: What a complete loop moved.
-/

namespace Iso21177

/-- The octets each call of the loop moves; a call that fails moves none and is the
    last. The arguments are the results to come, how much is missing, and the source. -/
def moves : List Int → Nat → Bytes → List Bytes
  | _, 0, _ => []
  | [], _ + 1, _ => [[]]
  | r :: rs, n + 1, src =>
    let b := src.take (min r.toNat (n + 1))
    if b = [] then [[]] else b :: moves rs (n + 1 - b.length) (src.drop b.length)

/-- A call moves what is at the start of the source, and the next one goes on behind it. -/
theorem take_append_drop_length (src : Bytes) (k : Nat) :
    src.take k ++ src.drop (src.take k).length = src := by
  rw [List.length_take]
  by_cases hk : k ≤ src.length
  · rw [Nat.min_eq_left hk, List.take_append_drop]
  · rw [Nat.min_eq_right (by omega), List.drop_length, List.append_nil,
      List.take_of_length_le (by omega)]

theorem flatten_moves_initial (rs : List Int) (n : Nat) (src : Bytes) :
    (moves rs n src).flatten <+: src := by
  -- The next call starts where this one stopped, on the rest of the source.
  induction rs generalizing n src with
  | nil =>
      cases n with
      | zero => exact List.nil_prefix
      | succ n => exact List.nil_prefix
  | cons r rs ih =>
      cases n with
      | zero => exact List.nil_prefix
      | succ n =>
          simp only [moves]
          by_cases hb : src.take (min r.toNat (n + 1)) = []
          · rw [if_pos hb]
            exact List.nil_prefix
          · rw [if_neg hb, List.flatten_cons]
            have hrest := ih (n + 1 - (src.take (min r.toNat (n + 1))).length)
              (src.drop (src.take (min r.toNat (n + 1))).length)
            rcases hrest with ⟨tail, htail⟩
            refine ⟨tail, ?_⟩
            rw [List.append_assoc, htail]
            exact take_append_drop_length src _

theorem length_flatten_moves_le (rs : List Int) (n : Nat) (src : Bytes) :
    (moves rs n src).flatten.length ≤ n := by
  induction rs generalizing n src with
  | nil =>
      cases n with
      | zero => exact Nat.le_refl _
      | succ n => exact Nat.zero_le _
  | cons r rs ih =>
      cases n with
      | zero => exact Nat.le_refl _
      | succ n =>
          simp only [moves]
          by_cases hb : src.take (min r.toNat (n + 1)) = []
          · rw [if_pos hb]
            exact Nat.zero_le _
          · rw [if_neg hb, List.flatten_cons, List.length_append]
            have hrest := ih (n + 1 - (src.take (min r.toNat (n + 1))).length)
              (src.drop (src.take (min r.toNat (n + 1))).length)
            -- A call is asked for what is left, and moves no more than that.
            have hone : (src.take (min r.toNat (n + 1))).length ≤ n + 1 := by
              rw [List.length_take]
              omega
            omega

/-- The loop moves everything it was asked for exactly if no call failed. -/
theorem moves_complete_iff (rs : List Int) (n : Nat) (src : Bytes) :
    (moves rs n src).flatten.length = n ↔ [] ∉ moves rs n src := by
  induction rs generalizing n src with
  | nil =>
      cases n with
      | zero => exact iff_of_true rfl (List.not_mem_nil)
      | succ n =>
          refine iff_of_false ?_ (fun h => h (List.mem_singleton.mpr rfl))
          simp only [moves, List.flatten_cons, List.flatten_nil, List.append_nil, List.length_nil]
          omega
  | cons r rs ih =>
      cases n with
      | zero => exact iff_of_true rfl (List.not_mem_nil)
      | succ n =>
          simp only [moves]
          by_cases hb : src.take (min r.toNat (n + 1)) = []
          · -- A call that moves nothing ends the loop, with something left to move.
            rw [if_pos hb]
            refine iff_of_false ?_ (fun h => h (List.mem_singleton.mpr rfl))
            simp only [List.flatten_cons, List.flatten_nil, List.append_nil, List.length_nil]
            omega
          · have hrest := ih (n + 1 - (src.take (min r.toNat (n + 1))).length)
              (src.drop (src.take (min r.toNat (n + 1))).length)
            have hone : (src.take (min r.toNat (n + 1))).length ≤ n + 1 := by
              rw [List.length_take]
              omega
            rw [if_neg hb, List.flatten_cons, List.length_append, List.mem_cons, not_or, ← hrest]
            constructor
            · intro h
              exact ⟨Ne.symm hb, by omega⟩
            · rintro ⟨-, h⟩
              omega

/-- What a complete loop moved is the start of the source. -/
theorem flatten_moves_eq_take {rs : List Int} {n : Nat} {src : Bytes}
    (h : [] ∉ moves rs n src) : (moves rs n src).flatten = src.take n ∧ n ≤ src.length := by
  have hlen := (moves_complete_iff rs n src).mpr h
  have hpre := flatten_moves_initial rs n src
  have htake := List.prefix_iff_eq_take.mp hpre
  have hle := hpre.length_le
  rw [hlen] at htake hle
  exact ⟨htake, hle⟩

end Iso21177
