import Mathlib.Data.List.Induction
import Mathlib.Tactic.Ring

/-!
# Byte Strings with Length Prefixes

Reading and writing the byte strings a record protocol exchanges. A packet is
a list of octets; every reader consumes a prefix of it and hands back the
rest, or fails and leaves the packet to the caller. Numbers travel in network
order, and a variable-length field is preceded by its length in `w` octets.

The two directions meet in `getLengthPrefixed_putSub`: reading a field back
from where it was written returns the field and exactly the octets that
followed it. That one fact is what a parser needs from a writer, and it holds
for every width, so the one-, two- and three-octet prefixes of a protocol are
all instances of it.

`tlvs` reads a block of type-length-value items one after the other. It keeps
what it read before the first framing error together with whether the block
was read to its end, since a caller that acts on each item as it arrives has
already acted on those by the time the error shows.

## Main definitions

* `beVal`: The number a byte string spells in network order.
* `beBytes`: A number spelled in a given count of octets.
* `getBytes`: The first octets of a packet and the rest.
* `getNet`: A number of a given width and the rest.
* `getLengthPrefixed`: A field preceded by its length.
* `putSub`: A field written behind its length.
* `Tlv`: One item of a type-length-value block.
* `tlvs`: The items of a block up to the first framing error.
* `putTlvs`: A block written from its items.

## Theorems

* `beVal_beBytes`, `beBytes_beVal`: Reading a number back from its octets, and the converse.
* `beVal_lt`: A byte string spells a number that fits its length.
* `length_beBytes`: A spelled number has the width asked for.
* `getBytes_append`: Reading exactly a known prefix.
* `getNet_beBytes`: Reading a number that was just written.
* `getLengthPrefixed_putSub`: Reading a field that was just written.
* `getNet_length`, `getLengthPrefixed_length`: What reading takes.
* `tlvs_putTlvs`: A written block reads back as its items.
* `find_tlv_map`: The first item of a type.
-/

namespace Iso21177

/-- Octets as they travel. -/
abbrev Bytes := List UInt8

namespace Packet

/-- The number a byte string spells, most significant octet first. -/
def beVal (b : Bytes) : Nat :=
  b.foldl (fun a x => a * 256 + x.toNat) 0

/-- The low `w` octets of a number, most significant first. -/
def beBytes : Nat → Nat → Bytes
  | 0, _ => []
  | w + 1, v => beBytes w (v / 256) ++ [UInt8.ofNat (v % 256)]

/-- The first `n` octets and what follows them. -/
def getBytes (n : Nat) (p : Bytes) : Option (Bytes × Bytes) :=
  if n ≤ p.length then some (p.take n, p.drop n) else none

/-- A number of `w` octets and what follows it. -/
def getNet (w : Nat) (p : Bytes) : Option (Nat × Bytes) :=
  match getBytes w p with
  | none => none
  | some (b, r) => some (beVal b, r)

/-- A field behind a length of `w` octets, and what follows it. -/
def getLengthPrefixed (w : Nat) (p : Bytes) : Option (Bytes × Bytes) :=
  match getNet w p with
  | none => none
  | some (n, r) => getBytes n r

/-- A field written behind its length, if the length fits the prefix. -/
def putSub (w : Nat) (b : Bytes) : Option Bytes :=
  if b.length < 256 ^ w then some (beBytes w b.length ++ b) else none

theorem length_beBytes (w v : Nat) : (beBytes w v).length = w := by
  induction w generalizing v with
  | zero => rfl
  | succ w ih =>
      simp only [beBytes, List.length_append, List.length_cons, List.length_nil, ih]

/-- The last octet is the lowest digit. -/
theorem beVal_append_singleton (b : Bytes) (x : UInt8) :
    beVal (b ++ [x]) = beVal b * 256 + x.toNat := by
  simp only [beVal, List.foldl_append, List.foldl_cons, List.foldl_nil]

/-- A byte string spells a number that fits its length. -/
theorem beVal_lt (b : Bytes) : beVal b < 256 ^ b.length := by
  induction b using List.reverseRecOn with
  | nil => decide
  | append_singleton b x ih =>
      have hx := x.toNat_lt
      rw [beVal_append_singleton, List.length_append, List.length_singleton, Nat.pow_succ]
      omega

/-- A number that fits its width reads back unchanged. -/
theorem beVal_beBytes (w v : Nat) (h : v < 256 ^ w) : beVal (beBytes w v) = v := by
  induction w generalizing v with
  | zero =>
      have hv : v = 0 := by simpa only [Nat.pow_zero, Nat.lt_one_iff] using h
      rw [hv]
      rfl
  | succ w ih =>
      have hdiv : v / 256 < 256 ^ w := by
        rw [Nat.pow_succ] at h
        exact Nat.div_lt_of_lt_mul (by rwa [Nat.mul_comm])
      have hlow : (UInt8.ofNat (v % 256)).toNat = v % 256 := by
        rw [UInt8.toNat_ofNat']
        exact Nat.mod_eq_of_lt (by omega)
      rw [beBytes, beVal_append_singleton, ih _ hdiv, hlow]
      omega

/-- A byte string is spelled by the number it spells. -/
theorem beBytes_beVal (b : Bytes) : beBytes b.length (beVal b) = b := by
  induction b using List.reverseRecOn with
  | nil => rfl
  | append_singleton b x ih =>
      have hx := x.toNat_lt
      have hdiv : (beVal b * 256 + x.toNat) / 256 = beVal b := by omega
      have hmod : (beVal b * 256 + x.toNat) % 256 = x.toNat := by omega
      rw [beVal_append_singleton, List.length_append, List.length_singleton, beBytes, hdiv, hmod,
        ih, UInt8.ofNat_toNat]

/-- What stands in front is read, and what follows is left. -/
theorem getBytes_append (b r : Bytes) : getBytes b.length (b ++ r) = some (b, r) := by
  have hle : b.length ≤ (b ++ r).length := by
    rw [List.length_append]
    omega
  rw [getBytes, if_pos hle, List.take_left, List.drop_left]

/-- What was read and what is left make up the packet. -/
theorem getBytes_some {n : Nat} {p b r : Bytes} (h : getBytes n p = some (b, r)) :
    p = b ++ r ∧ b.length = n := by
  unfold getBytes at h
  split at h
  · rename_i hle
    rw [Option.some.injEq, Prod.mk.injEq] at h
    refine ⟨?_, ?_⟩
    · rw [← h.1, ← h.2, List.take_append_drop]
    · rw [← h.1, List.length_take]
      omega
  · exact absurd h (by simp only [reduceCtorEq, not_false_eq_true])

theorem getNet_beBytes (w v : Nat) (r : Bytes) (h : v < 256 ^ w) :
    getNet w (beBytes w v ++ r) = some (v, r) := by
  have hget := getBytes_append (beBytes w v) r
  rw [length_beBytes] at hget
  simp only [getNet, hget, beVal_beBytes w v h]

theorem getLengthPrefixed_putSub {w : Nat} {b enc : Bytes} (r : Bytes)
    (h : putSub w b = some enc) : getLengthPrefixed w (enc ++ r) = some (b, r) := by
  unfold putSub at h
  split at h
  · rename_i hlt
    rw [Option.some.injEq] at h
    rw [← h, getLengthPrefixed, List.append_assoc, getNet_beBytes w _ _ hlt]
    exact getBytes_append b r
  · exact absurd h (by simp only [reduceCtorEq, not_false_eq_true])

/-- A number takes as many octets as it is wide. -/
theorem getNet_length {w n : Nat} {p r : Bytes} (h : getNet w p = some (n, r)) :
    p.length = w + r.length := by
  unfold getNet at h
  split at h
  · exact absurd h (by simp only [reduceCtorEq, not_false_eq_true])
  · rename_i b r' hb
    rcases getBytes_some hb with ⟨hp, hlen⟩
    rw [Option.some.injEq, Prod.mk.injEq] at h
    rw [hp, List.length_append, hlen, h.2]

/-- A field takes its length octets and its body. -/
theorem getLengthPrefixed_length {w : Nat} {p b r : Bytes}
    (h : getLengthPrefixed w p = some (b, r)) : p.length = w + b.length + r.length := by
  unfold getLengthPrefixed at h
  split at h
  · exact absurd h (by simp only [reduceCtorEq, not_false_eq_true])
  · rename_i n q hn
    rcases getBytes_some h with ⟨hq, -⟩
    have hlen := getNet_length hn
    rw [hq, List.length_append] at hlen
    omega

/-- One item of a block: its type, its value, and the octets after it. -/
structure Tlv where
  type : Nat
  body : Bytes
  rest : Bytes
  deriving DecidableEq

/-- The items of a block, with two-octet types and lengths. The flag says
    whether the block was read to its end; the first argument bounds the
    number of items and is always at least the block's length. -/
def tlvs : Nat → Bytes → List Tlv × Bool
  | _, [] => ([], true)
  | 0, _ :: _ => ([], false)
  | fuel + 1, x :: p =>
    match getNet 2 (x :: p) with
    | none => ([], false)
    | some (t, r) =>
      match getLengthPrefixed 2 r with
      | none => ([], false)
      | some (b, r') => (⟨t, b, r'⟩ :: (tlvs fuel r').1, (tlvs fuel r').2)

/-- A block written from its items, if every value fits its length. -/
def putTlvs : List (Nat × Bytes) → Option Bytes
  | [] => some []
  | (t, b) :: l =>
    match putSub 2 b, putTlvs l with
    | some enc, some rest => some (beBytes 2 t ++ enc ++ rest)
    | _, _ => none

/-- A written block reads back as its items, whatever the bound, as long as
    the types fit two octets. -/
theorem tlvs_putTlvs (l : List (Nat × Bytes)) (enc : Bytes) (fuel : Nat)
    (ht : ∀ x ∈ l, x.1 < 256 ^ 2) (h : putTlvs l = some enc) (hf : enc.length ≤ fuel) :
    (tlvs fuel enc).2 = true ∧
      (tlvs fuel enc).1.map (fun i => (i.type, i.body)) = l := by
  induction l generalizing enc fuel with
  | nil =>
      simp only [putTlvs, Option.some.injEq] at h
      subst h
      cases fuel <;> exact ⟨rfl, rfl⟩
  | cons x l ih =>
      rcases x with ⟨t, b⟩
      rw [putTlvs] at h
      cases hb : putSub 2 b with
      | none => simp only [hb, reduceCtorEq] at h
      | some eb =>
        cases hl : putTlvs l with
        | none => simp only [hb, hl, reduceCtorEq] at h
        | some el =>
          simp only [hb, hl, Option.some.injEq, List.append_assoc] at h
          -- The first item is two octets of type and then its field.
          have hnet : getNet 2 enc = some (t, eb ++ el) := by
            rw [← h]
            exact getNet_beBytes 2 t _ (ht (t, b) (List.mem_cons_self ..))
          have hpre := getLengthPrefixed_putSub el hb
          have hlen : enc.length = 2 + (eb ++ el).length := by
            rw [← h, List.length_append, length_beBytes]
          rw [List.length_append] at hlen
          cases henc : enc with
          | nil =>
              rw [henc] at hlen
              simp only [List.length_nil] at hlen
              omega
          | cons y ys =>
            cases fuel with
            | zero =>
                rw [henc] at hf
                simp only [List.length_cons] at hf
                omega
            | succ fuel =>
                have hrec := ih el fuel (fun z hz => ht z (List.mem_cons_of_mem _ hz)) hl
                  (by omega)
                rw [henc] at hnet
                simp only [tlvs, hnet, hpre, List.map_cons, hrec.1, hrec.2, and_self]

/-- The first item of a type, among items given as pairs. -/
theorem find_tlv_map (l : List Tlv) (k : Nat) :
    (l.find? (fun i => i.type == k)).map Tlv.body =
      (l.map (fun i => (i.type, i.body))).lookup k := by
  induction l with
  | nil => rfl
  | cons i l ih =>
      rw [List.find?_cons, List.map_cons, List.lookup_cons]
      by_cases hk : i.type = k
      · subst hk
        rw [beq_self_eq_true]
        rfl
      · rw [beq_false_of_ne hk, beq_false_of_ne (Ne.symm hk)]
        exact ih

end Packet

end Iso21177
