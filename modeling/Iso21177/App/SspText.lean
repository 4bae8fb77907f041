import Iso21177.Client.HttpGet

/-!
# Entering the Permissions

The permissions wanted are typed in as hexadecimal digits. `setSsp` takes the
text apart two characters at a time and refuses only a text of odd length.
`Character.digit` returns `-1` for a character that is no digit, and that enters
the byte like any other number. So a text that is no hexadecimal number is
accepted as some permissions, although the caller waits for an exception to say
that it is illegal.

A text of hexadecimal digits and the bytes it stands for determine each other, up
to the case of the letters. `sspText_iff` says for which texts all is as it should
be.

Strings are lists of UTF-16 units. `Character.digit` knows the digits of other
scripts as well; which units these are, and their values, is a parameter.

## Main definitions

* `characterDigit`: `Character.digit` for radix 16.
* `DatexFetchHttp.setSsp`: Entering the permissions.
* `IsHexDigit`, `upperCase`: ASCII digits and letters.
* `hexText`: The text that is printed for some bytes.
* `SspTextFaithful`: Texts and bytes correspond.

## Theorems

* `toNat_hexDigit`, `toNat_upperCase`: Digits as numbers.
* `characterDigit_hexDigit`, `hexDigit_characterDigit`: A digit and its value.
* `ofInt_halves`, `hexText_cons`, `length_hexText`: Two digits for a byte.
* `sspBytes_hexText`, `hexText_sspBytes`: The two directions.
* `setSsp_even`, `setSsp_odd`: Texts of either length.
* `sspText_iff`: When texts and bytes correspond.
-/

namespace Iso21177

open Packet

/-- A Java string. -/
abbrev JString := List UInt16

/-- A text of ASCII characters as a Java string. -/
def jstring (s : Bytes) : JString := s.map UInt8.toUInt16

/-- The unit is an ASCII hexadecimal digit. -/
def IsHexDigit (c : UInt16) : Prop :=
  (48 ≤ c.toNat ∧ c.toNat ≤ 57) ∨ (65 ≤ c.toNat ∧ c.toNat ≤ 70) ∨ (97 ≤ c.toNat ∧ c.toNat ≤ 102)

instance : DecidablePred IsHexDigit := fun c =>
  inferInstanceAs (Decidable ((48 ≤ c.toNat ∧ c.toNat ≤ 57) ∨ (65 ≤ c.toNat ∧ c.toNat ≤ 70) ∨
    (97 ≤ c.toNat ∧ c.toNat ≤ 102)))

/-- `Character.digit` for radix 16, given what it says of units that are not ASCII. -/
def characterDigit (other : UInt16 → Option (Fin 16)) (c : UInt16) : Int :=
  if 48 ≤ c.toNat ∧ c.toNat ≤ 57 then c.toNat - 48
  else if 65 ≤ c.toNat ∧ c.toNat ≤ 70 then c.toNat - 55
  else if 97 ≤ c.toNat ∧ c.toNat ≤ 102 then c.toNat - 87
  else if c.toNat < 128 then -1
  else
    match other c with
    | some d => d
    | none => -1

/-- The loop of `setSsp`: a byte from every two characters. -/
def sspBytes (other : UInt16 → Option (Fin 16)) : JString → Bytes
  | a :: b :: hex =>
    UInt8.ofInt (characterDigit other a * 16 + characterDigit other b) :: sspBytes other hex
  | _ => []

/-- `setSsp`, with `optSsp` before and after it. The message of the exception is kept. -/
def DatexFetchHttp.setSsp (other : UInt16 → Option (Fin 16)) (hex : JString) (optSsp : Bytes) :
    Except JString Unit × Bytes :=
  if hex.length % 2 ≠ 0 then
    (.error (jstring (ascii "Odd number of chars: len=" ++ decimal 0 hex.length ++
      ascii "  str='") ++ hex ++ [39]), optSsp)
  else (.ok (), sspBytes other hex)

/-- The upper case of an ASCII letter. -/
def upperCase (c : UInt16) : UInt16 := if 97 ≤ c.toNat ∧ c.toNat ≤ 122 then c - 32 else c

/-- The text `print_hex_array` gives for some bytes. -/
def hexText (b : Bytes) : JString := jstring (printHexArray b)

/-- A text is accepted if it is one of hexadecimal digits and then stands for the bytes it
    is printed from, and a text that is refused changes nothing. -/
structure SspTextFaithful (other : UInt16 → Option (Fin 16)) (hex : JString)
    (optSsp b : Bytes) : Prop where
  accepted : (DatexFetchHttp.setSsp other hex optSsp).1 = .ok () ↔
    hex.length % 2 = 0 ∧ ∀ c ∈ hex, IsHexDigit c
  printed : hex.length % 2 = 0 → (∀ c ∈ hex, IsHexDigit c) →
    (DatexFetchHttp.setSsp other hex optSsp).2.length = hex.length / 2 ∧
      hexText (DatexFetchHttp.setSsp other hex optSsp).2 = hex.map upperCase
  entered : DatexFetchHttp.setSsp other (hexText b) optSsp = (.ok (), b)
  refused : ∀ e, (DatexFetchHttp.setSsp other hex optSsp).1 = .error e →
    (DatexFetchHttp.setSsp other hex optSsp).2 = optSsp

theorem toNat_hexDigit {n : UInt8} (h : n.toNat < 16) :
    (hexDigit n).toNat = if n.toNat < 10 then 48 + n.toNat else 55 + n.toNat := by
  unfold hexDigit
  by_cases hn : n.toNat < 10
  · rw [if_pos hn, if_pos (UInt8.lt_iff_toNat_lt.mpr hn), UInt8.toNat_add]
    exact Nat.mod_eq_of_lt (by change 48 + n.toNat < 256; omega)
  · rw [if_neg hn, if_neg (fun hlt => hn (UInt8.lt_iff_toNat_lt.mp hlt)), UInt8.toNat_add]
    exact Nat.mod_eq_of_lt (by change 55 + n.toNat < 256; omega)

section
variable {other : UInt16 → Option (Fin 16)}

/-- A digit that is printed has the value it is printed for. -/
theorem characterDigit_hexDigit {n : UInt8} (h : n.toNat < 16) :
    characterDigit other (hexDigit n).toUInt16 = n.toNat := by
  have hd := toNat_hexDigit h
  unfold characterDigit
  rw [UInt8.toNat_toUInt16, hd]
  by_cases hn : n.toNat < 10
  · rw [if_pos hn, if_pos (by omega)]
    omega
  · rw [if_neg hn, if_neg (by omega), if_pos (by omega)]
    omega

/-- The upper case of a hexadecimal digit. -/
theorem toNat_upperCase {c : UInt16} (h : IsHexDigit c) :
    (upperCase c).toNat = if 97 ≤ c.toNat then c.toNat - 32 else c.toNat := by
  unfold upperCase IsHexDigit at *
  by_cases hc : 97 ≤ c.toNat
  · rw [if_pos (by omega), if_pos hc]
    exact UInt16.toNat_sub_of_le c 32 (UInt16.le_iff_toNat_le.mpr (by change 32 ≤ c.toNat; omega))
  · rw [if_neg (by omega), if_neg hc]

/-- The value of a hexadecimal digit, and the digit that is printed for it. -/
theorem hexDigit_characterDigit {c : UInt16} (h : IsHexDigit c) :
    ∃ n : UInt8, n.toNat < 16 ∧ characterDigit other c = n.toNat ∧
      (hexDigit n).toUInt16 = upperCase c := by
  -- The three ranges of digits give the values up to 9 and twice those from 10 on.
  obtain ⟨v, hv, hdigit, hprint⟩ : ∃ v < 16, characterDigit other c = (v : Nat) ∧
      (if v < 10 then 48 + v else 55 + v) = if 97 ≤ c.toNat then c.toNat - 32 else c.toNat := by
    unfold characterDigit
    rcases h with hc | hc | hc
    · refine ⟨c.toNat - 48, by omega, ?_, ?_⟩
      · rw [if_pos hc]
        omega
      · rw [if_pos (by omega), if_neg (by omega)]
        omega
    · refine ⟨c.toNat - 55, by omega, ?_, ?_⟩
      · rw [if_neg (by omega), if_pos hc]
        omega
      · rw [if_neg (by omega), if_neg (by omega)]
        omega
    · refine ⟨c.toNat - 87, by omega, ?_, ?_⟩
      · rw [if_neg (by omega), if_neg (by omega), if_pos hc]
        omega
      · rw [if_neg (by omega), if_pos (by omega)]
        omega
  have hn : (UInt8.ofNat v).toNat = v := UInt8.toNat_ofNat_of_lt' (by change v < 256; omega)
  refine ⟨UInt8.ofNat v, by rwa [hn], by rw [hdigit, hn], ?_⟩
  rw [← UInt16.toNat_inj, UInt8.toNat_toUInt16, toNat_hexDigit (by rwa [hn]), hn, hprint,
    toNat_upperCase h]

/-- Two digits make the byte whose halves they are. -/
theorem ofInt_halves {hi lo : UInt8} (hh : hi.toNat < 16) (hl : lo.toNat < 16) :
    (UInt8.ofInt ((hi.toNat : Int) * 16 + lo.toNat)).toNat = hi.toNat * 16 + lo.toNat := by
  have hnat : ((hi.toNat : Int) * 16 + lo.toNat) = (hi.toNat * 16 + lo.toNat : Nat) := by omega
  rw [hnat, UInt8.ofInt, UInt8.toNat_ofNat']
  omega

theorem hexText_cons (x : UInt8) (b : Bytes) :
    hexText (x :: b) =
      (hexDigit (x / 16)).toUInt16 :: (hexDigit (x % 16)).toUInt16 :: hexText b := rfl

/-- The bytes that are entered as they are printed. -/
theorem sspBytes_hexText (b : Bytes) : sspBytes other (hexText b) = b := by
  induction b with
  | nil => rfl
  | cons x b ih =>
      have hx := x.toNat_lt
      have hh : (x / 16).toNat < 16 := by
        rw [UInt8.toNat_div]
        change x.toNat / 16 < 16
        omega
      have hl : (x % 16).toNat < 16 := by
        rw [UInt8.toNat_mod]
        exact Nat.mod_lt _ (by decide)
      rw [hexText_cons, sspBytes, characterDigit_hexDigit hh, characterDigit_hexDigit hl, ih]
      congr 1
      rw [← UInt8.toNat_inj, ofInt_halves hh hl, UInt8.toNat_div, UInt8.toNat_mod]
      exact Nat.div_add_mod' x.toNat 16

theorem length_hexText (b : Bytes) : (hexText b).length = 2 * b.length := by
  induction b with
  | nil => rfl
  | cons x b ih =>
      rw [hexText_cons, List.length_cons, List.length_cons, ih, List.length_cons]
      omega

/-- The text that was entered is printed again in upper case. -/
theorem hexText_sspBytes {hex : JString} (heven : hex.length % 2 = 0)
    (hhex : ∀ c ∈ hex, IsHexDigit c) :
    (sspBytes other hex).length = hex.length / 2 ∧
      hexText (sspBytes other hex) = hex.map upperCase := by
  induction hex using sspBytes.induct with
  | case1 x y hex ih =>
      simp only [List.mem_cons, forall_eq_or_imp] at hhex
      rcases hhex with ⟨hx, hy, hrest⟩
      simp only [List.length_cons] at heven ⊢
      rcases ih (by omega) hrest with ⟨hlen, htext⟩
      rcases @hexDigit_characterDigit other _ hx with ⟨m, hm, hmd, hmp⟩
      rcases @hexDigit_characterDigit other _ hy with ⟨n, hn, hnd, hnp⟩
      have hbyte := ofInt_halves hm hn
      rw [sspBytes, hmd, hnd]
      refine ⟨by rw [List.length_cons, hlen]; omega, ?_⟩
      -- The halves of the byte are the two values again.
      have hhi : UInt8.ofInt ((m.toNat : Int) * 16 + n.toNat) / 16 = m := by
        rw [← UInt8.toNat_inj, UInt8.toNat_div, hbyte]
        change (m.toNat * 16 + n.toNat) / 16 = m.toNat
        omega
      have hlo : UInt8.ofInt ((m.toNat : Int) * 16 + n.toNat) % 16 = n := by
        rw [← UInt8.toNat_inj, UInt8.toNat_mod, hbyte]
        change (m.toNat * 16 + n.toNat) % 16 = n.toNat
        omega
      rw [hexText_cons, hhi, hlo, hmp, hnp, htext, List.map_cons, List.map_cons]
  | case2 hex hshort =>
      cases hex with
      | nil => exact ⟨rfl, rfl⟩
      | cons x hex =>
          cases hex with
          | nil => exact absurd heven (by simp)
          | cons y hex => exact absurd rfl (hshort x y hex)

theorem setSsp_even {hex : JString} (h : hex.length % 2 = 0) (optSsp : Bytes) :
    DatexFetchHttp.setSsp other hex optSsp = (.ok (), sspBytes other hex) := by
  rw [DatexFetchHttp.setSsp, if_neg (by omega)]

theorem setSsp_odd {hex : JString} (h : hex.length % 2 = 1) (optSsp : Bytes) :
    ∃ e, DatexFetchHttp.setSsp other hex optSsp = (.error e, optSsp) := by
  rw [DatexFetchHttp.setSsp, if_pos (by omega)]
  exact ⟨_, rfl⟩

end

/-- Texts and bytes correspond exactly if the text has odd length or only hexadecimal
    digits. -/
theorem sspText_iff (other : UInt16 → Option (Fin 16)) (hex : JString) (optSsp b : Bytes) :
    SspTextFaithful other hex optSsp b ↔ hex.length % 2 = 1 ∨ ∀ c ∈ hex, IsHexDigit c := by
  constructor
  · intro h
    rcases Nat.mod_two_eq_zero_or_one hex.length with heven | hodd
    · -- A text of even length is always accepted.
      exact Or.inr (h.accepted.mp (by rw [setSsp_even heven])).2
    · exact Or.inl hodd
  · intro h
    refine ⟨?_, fun heven hhex => ?_, ?_, ?_⟩
    · rcases Nat.mod_two_eq_zero_or_one hex.length with heven | hodd
      · rw [setSsp_even heven]
        exact iff_of_true rfl ⟨heven, h.resolve_left (by omega)⟩
      · rcases @setSsp_odd other _ hodd optSsp with ⟨e, he⟩
        rw [he]
        exact iff_of_false (by simp only [reduceCtorEq, not_false_eq_true]) (by omega)
    · rw [setSsp_even heven]
      exact hexText_sspBytes heven hhex
    · rw [setSsp_even (by rw [length_hexText]; omega), sspBytes_hexText]
    · intro e he
      rcases Nat.mod_two_eq_zero_or_one hex.length with heven | hodd
      · rw [setSsp_even heven] at he
        exact absurd he (by simp only [reduceCtorEq, not_false_eq_true])
      · rcases @setSsp_odd other _ hodd optSsp with ⟨e', he'⟩
        rw [he']

/-- Two letters that are no digits. -/
theorem letters_accepted :
    ¬ ∀ (other : UInt16 → Option (Fin 16)) (hex : JString) (optSsp b : Bytes),
      SspTextFaithful other hex optSsp b := by
  intro h
  have hdigits := (h (fun _ => none) (jstring (ascii "zz")) [] []).accepted.mp rfl
  exact absurd (hdigits.2 122 (by decide)) (by decide)

end Iso21177
