import Iso21177.Lib.Calendar
import Iso21177.SecEnt.Fields

/-!
# Dates of a Validity

The two dates that are shown of a certificate. The seven octets of a validity are a
start time, the unit of a duration and a count of it, and the dates are those of the
start and of the start with the duration added.

Both are made by one function. For the first it is called with a unit and a count of
zero, and for a unit of zero it adds one second, so the first date is a day late if the
start is the last second of a day. The duration is multiplied out in an `int` unless
the unit is a year, and sixty hours overflow it from a count of 9943 on.

`datesExact_iff` says exactly when the dates are those of the calendar.

## Main definitions

* `unitSeconds`: The units.
* `validityBytes`: The octets of a validity.
* `dateText`: A date in digits.
* `intProducts`: What is multiplied in an `int`.
* `DatesExact`: The dates are those of the calendar, and nothing overflows.

## Theorems

* `yearOfEra`, `eraYear`: Splitting the days of four centuries.
* `marchDay`, `gmDate_isAt`: `gmtime` gives the date of a second.
* `ofDigitChars_decimal`, `decimal_inj`, `hyphen_split`, `dateText_inj`: The digits determine
  the date.
* `sslTime32ToString_eq`: The text of a second.
* `readValidity_validityBytes`: What is read of a validity.
* `startTime_eq`, `endTime_eq`: The times the dates are made of.
* `startDay_iff`, `intProducts_fit`: When they are on the right day.
* `datesExact_iff`: When the dates are exact.
* `dates_shown_wrong`: Two validities whose dates are not.
-/

namespace Iso21177

open Packet

/-- The seconds of the units 2 to 6. -/
def unitSeconds : Nat → Nat
  | 2 => 1
  | 3 => 60
  | 4 => 60 * 60
  | 5 => 60 * 60 * 60
  | _ => 31556952

/-- A start time, a unit and a count as they are in a certificate. -/
def validityBytes (start unit count : Nat) : Bytes :=
  beBytes 4 start ++ UInt8.ofNat (0x80 + unit) :: beBytes 2 count

/-- Year, month and day of a date in digits. -/
def dateText (d : Date) : Bytes :=
  decimal 4 d.year ++ [45] ++ decimal 2 d.month ++ [45] ++ decimal 2 d.day

/-- The products `ssl_time32_to_time_t` makes in an `int`. -/
def intProducts (unit count : Nat) : List Nat :=
  match unit with
  | 3 => [count * 60]
  | 4 => [count * 60, count * 60 * 60]
  | 5 => [count * 60, count * 60 * 60, count * 60 * 60 * 60]
  | _ => []

/-- The dates made of a start time, a unit and a count, wherever they are in a certificate,
    are those of the calendar. No product overflows, and the first date is not after the
    second. -/
def DatesExact (start unit count : Nat) : Prop :=
  ∃ d e : Date, d.IsAt (start + epochToTaiEpochSec) ∧
    e.IsAt (start + epochToTaiEpochSec + count * unitSeconds unit) ∧
    (∀ p off, (p.drop off).take 7 = validityBytes start unit count →
      readValidity p off = some (some (dateText d, dateText e))) ∧
    (∀ x ∈ intProducts unit count, x < 2 ^ 31) ∧ d ≤ e

/-- Four centuries of years that start in March: centuries of 36524 days, in them four years
    of 1461, and in them years of 365. Only the last of each has one day more. -/
theorem yearOfEra {doe : Nat} (h : doe < 146097) :
    ∃ c q k doy, c ≤ 3 ∧ q ≤ 24 ∧ k ≤ 3 ∧ doy ≤ 365 ∧ (doy = 365 → k = 3 ∧ (q < 24 ∨ c = 3)) ∧
      doe = 36524 * c + 1461 * q + 365 * k + doy ∧
      (doe - doe / 1460 + doe / 36524 - doe / 146096) / 365 = 100 * c + 4 * q + k := by
  obtain ⟨c, r, hc, hr, hdoe, hlast⟩ : ∃ c r, c ≤ 3 ∧ r ≤ 36524 ∧ doe = 36524 * c + r ∧
      (r = 36524 → c = 3) := by
    refine ⟨min (doe / 36524) 3, doe - 36524 * min (doe / 36524) 3, ?_, ?_, ?_, ?_⟩
    all_goals omega
  obtain ⟨q, s, hq, hs, hr', hlast'⟩ : ∃ q s, q ≤ 24 ∧ s ≤ 1460 ∧ r = 1461 * q + s ∧
      (s = 1460 → q < 24 ∨ c = 3) := by
    refine ⟨r / 1461, r % 1461, ?_, ?_, ?_, ?_⟩
    all_goals omega
  -- The division by 1460 counts the leap days, and counts one too early at the end of
  -- some years, which are far from their first day then.
  obtain ⟨carry, hcarry⟩ : ∃ carry, carry = (24 * c + q + s) / 1460 := ⟨_, rfl⟩
  have hleap : doe / 1460 = 25 * c + q + carry := by
    have hsplit : doe = 1460 * (25 * c + q) + (24 * c + q + s) := by omega
    rw [hsplit, Nat.mul_add_div (by decide), hcarry]
  have hcentury : doe / 36524 = c + doe / 146096 := by
    interval_cases c
    all_goals omega
  have hyears : doe - doe / 1460 + doe / 36524 - doe / 146096 =
      365 * (100 * c + 4 * q) + (s - carry) := by
    have hsmall : carry ≤ s := by omega
    rw [hcentury, hleap, ← Nat.add_assoc, Nat.add_sub_cancel]
    clear hcarry hcentury hleap
    omega
  have hdays : (doe - doe / 1460 + doe / 36524 - doe / 146096) / 365 = 100 * c + 4 * q +
      min (s / 365) 3 := by
    have hin : (s - carry) / 365 = min (s / 365) 3 := by omega
    rw [hyears, Nat.mul_add_div (by decide), hin]
  refine ⟨c, q, min (s / 365) 3, s - 365 * min (s / 365) 3, hc, hq, ?_, ?_, ?_, ?_, hdays⟩
  all_goals omega

/-- A day of a month in a year that starts in March. -/
theorem marchDay {y mp doy : Nat} (hmp : mp = (5 * doy + 2) / 153) (hdoy : doy ≤ 365)
    (hleap : doy = 365 → IsLeap (y + 1)) :
    ∃ d : Date, d.month = (if mp < 10 then mp + 3 else mp - 9) ∧
      d.year = y + (if d.month ≤ 2 then 1 else 0) ∧ d.day = doy - (153 * mp + 2) / 5 + 1 ∧
      d.number + y / 100 = 365 * y + y / 4 + y / 400 + 60 + doy := by
  have hfirst : (153 * mp + 2) / 5 ≤ doy := by omega
  by_cases hearly : mp < 10
  · -- From March to December the year is the one the days are counted in.
    have hday : doy - (153 * mp + 2) / 5 + 1 ≤ monthLength y (mp + 3) := by
      interval_cases mp
      all_goals simp only [monthLength]
      all_goals omega
    obtain ⟨d, hyear, hmonth, hd⟩ : ∃ d : Date, d.year = y ∧ d.month = mp + 3 ∧
        d.day = doy - (153 * mp + 2) / 5 + 1 :=
      ⟨⟨y, mp + 3, _, by omega, by omega, by omega, hday⟩, rfl, rfl, rfl⟩
    refine ⟨d, by rw [hmonth, if_pos hearly], ?_, hd, ?_⟩
    · rw [hmonth, hyear, if_neg (by omega), Nat.add_zero]
    · have hmarch := before_march y
      rw [Date.number, Date.dayOfYear, hyear, hmonth, hd, Nat.add_sub_cancel,
        daysBeforeMonth_eq (by omega) (by omega), if_neg (by omega), Nat.add_sub_cancel]
      clear hmp hday
      omega
  · -- January and February are in the year behind it.
    have hday : doy - (153 * mp + 2) / 5 + 1 ≤ monthLength (y + 1) (mp - 9) := by
      obtain rfl | rfl : mp = 10 ∨ mp = 11 := by omega
      · simp only [monthLength]
        omega
      · simp only [monthLength]
        split
        · omega
        · rename_i hy
          have hne : doy ≠ 365 := fun h => hy (hleap h)
          omega
    obtain ⟨d, hyear, hmonth, hd⟩ : ∃ d : Date, d.year = y + 1 ∧ d.month = mp - 9 ∧
        d.day = doy - (153 * mp + 2) / 5 + 1 :=
      ⟨⟨y + 1, mp - 9, _, by omega, by omega, by omega, hday⟩, rfl, rfl, rfl⟩
    refine ⟨d, by rw [hmonth, if_neg hearly], ?_, hd, ?_⟩
    · rw [hmonth, hyear, if_pos (by omega)]
    · have hyears := before_yearLength_succ y
      have hbefore : 31 * (mp - 9 - 1) + 306 = (153 * mp + 2) / 5 := by omega
      rw [Date.number, Date.dayOfYear, hyear, hmonth, hd, Nat.add_sub_cancel,
        daysBeforeMonth_eq (by omega) (by omega), if_pos (by omega)]
      clear hmp hday
      omega

/-- The leap days before a year of an era. -/
theorem eraYear (era : Nat) {c q k : Nat} (hc : c ≤ 3) (hq : q ≤ 24) (hk : k ≤ 3) :
    (400 * era + (100 * c + 4 * q + k)) / 4 = 100 * era + 25 * c + q ∧
      (400 * era + (100 * c + 4 * q + k)) / 100 = 4 * era + c ∧
      (400 * era + (100 * c + 4 * q + k)) / 400 = era := by
  refine ⟨?_, ?_, ?_⟩
  · omega
  · omega
  · omega

/-- `gmtime` gives the date of a second. -/
theorem gmDate_isAt {t : Int} (ht : 0 ≤ t) :
    ∃ d : Date, gmDate t = (d.year, d.month, d.day) ∧ d.IsAt t := by
  -- Eras of four centuries, counted from March of the year 0.
  obtain ⟨days, hdays⟩ : ∃ days : Nat, t / 86400 = days :=
    Int.eq_ofNat_of_zero_le (Int.ediv_nonneg ht (by decide))
  obtain ⟨era, hera⟩ : ∃ era, era = (days + 719468) / 146097 := ⟨_, rfl⟩
  obtain ⟨doe, hdoe⟩ : ∃ doe, doe = (days + 719468) % 146097 := ⟨_, rfl⟩
  have hsplit : days + 719468 = 146097 * era + doe := by
    rw [hera, hdoe, Nat.div_add_mod]
  have hlt : doe < 146097 := hdoe ▸ Nat.mod_lt _ (by decide)
  rcases yearOfEra hlt with ⟨c, q, k, doy, hc, hq, hk, hdoy, hlast, hsum, hyoe⟩
  have hleap : doy = 365 → IsLeap (400 * era + (100 * c + 4 * q + k) + 1) := by
    intro h
    have hend := hlast h
    unfold IsLeap
    clear hera hdoe hyoe hsplit
    omega
  rcases marchDay (y := 400 * era + (100 * c + 4 * q + k)) rfl hdoy hleap with
    ⟨d, hmonth, hyear, hday, hnum⟩
  refine ⟨d, ?_, ?_⟩
  · have hz : t / 86400 + 719468 = (doe : Int) + 146097 * (era : Int) := by
      clear hera hdoe hyoe
      omega
    have hera' : (t / 86400 + 719468) / 146097 = (era : Int) := by
      rw [hz, Int.add_mul_ediv_left _ _ (by decide), Int.ediv_eq_zero_of_lt (by omega) (by omega),
        zero_add]
    have hdoe' : ((t / 86400 + 719468) % 146097).toNat = doe := by
      rw [hz, Int.add_mul_emod_self_left, Int.emod_eq_of_lt (by omega) (by omega),
        Int.toNat_natCast]
    have hin : doe - (365 * (100 * c + 4 * q + k) + (100 * c + 4 * q + k) / 4 -
        (100 * c + 4 * q + k) / 100) = doy := by
      have hera0 := eraYear 0 hc hq hk
      simp only [Nat.mul_zero, Nat.zero_add] at hera0
      rw [hera0.1, hera0.2.1, hsum]
      clear hera hdoe hyoe hera' hdoe'
      omega
    have hyears : (((100 * c + 4 * q + k : Nat) : Int) + (era : Int) * 400).toNat =
        400 * era + (100 * c + 4 * q + k) := by
      clear hera hdoe hyoe hera' hdoe'
      omega
    unfold gmDate
    simp only [hera', hdoe', hyoe, hin, hyears]
    rw [← hmonth, ← hday, hyear]
  · rcases eraYear era hc hq hk with ⟨h4, h100, h400⟩
    rw [h4, h100, h400] at hnum
    rw [Date.IsAt, epoch_number, hdays]
    clear hera hdoe hyoe hlast hleap h4 h100 h400
    omega

/-- The characters of a number in decimal are digits. -/
theorem toDigits_toNat {n : Nat} {c : Char} (hc : c ∈ Nat.toDigits 10 n) :
    48 ≤ c.toNat ∧ c.toNat ≤ 57 :=
  Char.isDigit_iff_toNat.mp (Nat.isDigit_of_mem_toDigits (by decide) (by decide) hc)

/-- A digit as an octet. -/
theorem digit_octet {n : Nat} {c : Char} (hc : c ∈ Nat.toDigits 10 n) :
    (UInt8.ofNat c.toNat).toNat = c.toNat := by
  have hdigit := toDigits_toNat hc
  exact UInt8.toNat_ofNat_of_lt' (show c.toNat < 256 by omega)

/-- No octet of a number in decimal is a hyphen. -/
theorem hyphen_not_mem_decimal (w n : Nat) : (45 : UInt8) ∉ decimal w n := by
  intro h
  rw [decimal, List.mem_append] at h
  rcases h with h | h
  · exact absurd (List.eq_of_mem_replicate h) (by decide)
  · rcases List.mem_map.mp h with ⟨c, hc, heq⟩
    have hdigit := toDigits_toNat hc
    have hnat := digit_octet hc
    rw [heq] at hnat
    have h45 : (45 : UInt8).toNat = 45 := rfl
    omega

/-- A number is read back from its digits. -/
theorem ofDigitChars_decimal (w n : Nat) :
    Nat.ofDigitChars 10 ((decimal w n).map (fun b => Char.ofNat b.toNat)) 0 = n := by
  have hdigits : ((Nat.toDigits 10 n).map (fun c => UInt8.ofNat c.toNat)).map
      (fun b => Char.ofNat b.toNat) = Nat.toDigits 10 n := by
    rw [List.map_map]
    refine (List.map_congr_left (fun c hc => ?_)).trans (List.map_id _)
    rw [Function.comp_apply, digit_octet hc, Char.ofNat_toNat, id_eq]
  have hzero : Char.ofNat (48 : UInt8).toNat = '0' := rfl
  unfold decimal
  simp only [List.map_append, List.map_replicate, hzero, hdigits, Nat.ofDigitChars_append,
    Nat.ofDigitChars_replicate_zero, Nat.mul_zero, Nat.ofDigitChars_ten_toDigits]

/-- The digits of a number determine it. -/
theorem decimal_inj {w m n : Nat} (h : decimal w m = decimal w n) : m = n := by
  rw [← ofDigitChars_decimal w m, h, ofDigitChars_decimal]

/-- What stands before the first hyphen and what stands behind it. -/
theorem hyphen_split {a a' r r' : Bytes} (ha : (45 : UInt8) ∉ a) (ha' : (45 : UInt8) ∉ a')
    (h : a ++ 45 :: r = a' ++ 45 :: r') : a = a' ∧ r = r' := by
  induction a generalizing a' with
  | nil =>
      cases a' with
      | nil => exact ⟨rfl, (List.cons.inj h).2⟩
      | cons b bs => exact absurd (List.cons.inj h).1 (fun hb => ha' (hb ▸ List.mem_cons_self))
  | cons b bs ih =>
      cases a' with
      | nil => exact absurd (List.cons.inj h).1.symm (fun hb => ha (hb ▸ List.mem_cons_self))
      | cons b' bs' =>
          have hcons := List.cons.inj h
          have htail := ih (fun hm => ha (List.mem_cons_of_mem _ hm))
            (fun hm => ha' (List.mem_cons_of_mem _ hm)) hcons.2
          exact ⟨by rw [hcons.1, htail.1], htail.2⟩

/-- The text of a date determines it. -/
theorem dateText_inj {d e : Date} (h : dateText d = dateText e) : d = e := by
  simp only [dateText, List.append_assoc, List.singleton_append] at h
  rcases hyphen_split (hyphen_not_mem_decimal _ _) (hyphen_not_mem_decimal _ _) h with
    ⟨hyear, hrest⟩
  rcases hyphen_split (hyphen_not_mem_decimal _ _) (hyphen_not_mem_decimal _ _) hrest with
    ⟨hmonth, hday⟩
  exact Date.ext (decimal_inj hyear) (decimal_inj hmonth) (decimal_inj hday)

/-- The text of a second is the text of its date. -/
theorem sslTime32ToString_eq {start : Int} {durType durCnt : Nat}
    (ht : 0 ≤ sslTime32ToTimeT start durType durCnt) :
    ∃ d : Date, sslTime32ToString start durType durCnt = dateText d ∧
      d.IsAt (sslTime32ToTimeT start durType durCnt) := by
  rcases gmDate_isAt ht with ⟨d, hd, hat⟩
  refine ⟨d, ?_, hat⟩
  unfold sslTime32ToString
  rw [hd]
  rfl

/-- A start time, a unit and a count are read as they are. -/
theorem readValidity_validityBytes {p : Bytes} {off start unit count : Nat}
    (hs : start < 2 ^ 32) (hu : 2 ≤ unit ∧ unit ≤ 6) (hc : count ≤ 65535)
    (h : (p.drop off).take 7 = validityBytes start unit count) :
    readValidity p off = some (some (datesOf (start, unit, count))) := by
  have hlen4 : (beBytes 4 start).length = 4 := length_beBytes 4 start
  have hend : off + 7 ≤ p.length := by
    have hlen := congrArg List.length h
    rw [validityBytes, List.length_append, List.length_cons, length_beBytes, length_beBytes,
      List.length_take, List.length_drop] at hlen
    omega
  have hoctet : (validityBytes start unit count).getD 4 0 = UInt8.ofNat (0x80 + unit) := by
    rw [validityBytes, List.getD_eq_getElem?_getD, List.getElem?_append_right hlen4.le, hlen4]
    rfl
  -- Each of the five units is a known one and is read as its number.
  have hunits : ∀ u, 2 ≤ u ∧ u ≤ 6 → (0x81 ≤ UInt8.ofNat (0x80 + u) ∧
      UInt8.ofNat (0x80 + u) ≤ 0x86) ∧ (UInt8.ofNat (0x80 + u) &&& 0x0f).toNat = u := by
    rintro u ⟨hlo, hhi⟩
    interval_cases u
    all_goals decide
  have hknown : unitKnown p off := by
    rw [unitKnown_window, h, unitKnown, hoctet]
    exact (hunits unit hu).1
  have htriple : tripleAt p off = (start, unit, count) := by
    have hstart : (validityBytes start unit count).take 4 = beBytes 4 start :=
      List.take_left' hlen4
    have hcount : ((validityBytes start unit count).drop 5).take 2 = beBytes 2 count := by
      rw [validityBytes, List.drop_append, hlen4, List.drop_eq_nil_of_le (by omega),
        List.nil_append]
      exact List.take_of_length_le (length_beBytes 2 count).le
    rw [tripleAt_window, h, tripleAt, hoctet, (hunits unit hu).2, List.drop_zero, Nat.zero_add,
      hstart, hcount, beVal_beBytes 4 start hs, beVal_beBytes 2 count (show count < 65536 by omega)]
  rw [readValidity_eq, readTriple_eq hend, if_pos hknown, htriple]
  rfl

/-- The time the first date is made of is a second too late. -/
theorem startTime_eq (start : Nat) :
    sslTime32ToTimeT start 0 0 = start + epochToTaiEpochSec + 1 := rfl

/-- The time the second date is made of is exact if the product is. -/
theorem endTime_eq (start : Nat) {unit count : Nat} (hu : 2 ≤ unit ∧ unit ≤ 6)
    (hfit : unit = 5 → count < 9943) :
    sslTime32ToTimeT start unit count =
      start + epochToTaiEpochSec + count * unitSeconds unit := by
  rcases hu with ⟨hlo, hhi⟩
  interval_cases unit
  · simp only [sslTime32ToTimeT, unitSeconds]
    omega
  · simp only [sslTime32ToTimeT, unitSeconds]
    omega
  · simp only [sslTime32ToTimeT, unitSeconds]
    omega
  · -- Sixty hours fit an `int`.
    have hcount := hfit rfl
    have hwrap : ssizeT 32 ((count : Int) * 60 * 60 * 60) = (count : Int) * 60 * 60 * 60 := by
      have hlt := ssizeT_of_lt (w := 32) (n := count * 60 * 60 * 60) (Or.inl rfl) (by omega)
      simpa only [Nat.cast_mul, Nat.cast_ofNat] using hlt
    simp only [sslTime32ToTimeT, unitSeconds, hwrap]
    omega
  · simp only [sslTime32ToTimeT, unitSeconds]
    omega

/-- The products fit an `int` exactly if sixty hours do. -/
theorem intProducts_fit {unit count : Nat} (hu : 2 ≤ unit ∧ unit ≤ 6) (hc : count ≤ 65535) :
    (∀ x ∈ intProducts unit count, x < 2 ^ 31) ↔ (unit = 5 → count < 9943) := by
  rcases hu with ⟨hlo, hhi⟩
  interval_cases unit
  all_goals simp only [intProducts, List.forall_mem_cons, List.not_mem_nil, false_implies,
    implies_true, and_true, iff_true, Nat.reduceEqDiff, forall_const]
  all_goals omega

/-- The start time and the second behind it are on one day exactly if the first is not the
    last of a day. -/
theorem startDay_iff (start : Nat) :
    ((start : Int) + epochToTaiEpochSec + 1) / 86400 = ((start : Int) + epochToTaiEpochSec) / 86400
      ↔ start % 86400 ≠ 86367 := by
  unfold epochToTaiEpochSec
  omega

/-- The dates are those of the calendar exactly if the certificate does not start in the last
    second of a day and the duration is not of too many times sixty hours. -/
theorem datesExact_iff (start unit count : Nat) (hs : start < 2 ^ 32) (hu : 2 ≤ unit ∧ unit ≤ 6)
    (hc : count ≤ 65535) :
    DatesExact start unit count ↔ start % 86400 ≠ 86367 ∧ (unit = 5 → count < 9943) := by
  have hstart : 0 ≤ (start : Int) + epochToTaiEpochSec := by
    unfold epochToTaiEpochSec
    omega
  have hpos : 0 ≤ sslTime32ToTimeT start 0 0 := by
    rw [startTime_eq]
    omega
  rcases sslTime32ToString_eq hpos with ⟨d, hdText, hd⟩
  rw [startTime_eq] at hd
  rw [← startDay_iff]
  constructor
  · rintro ⟨d', e', hd', -, hread, hfit, -⟩
    refine ⟨?_, (intProducts_fit hu hc).mp hfit⟩
    -- The certificate may be nothing but the validity.
    have hbytes : ((validityBytes start unit count).drop 0).take 7 =
        validityBytes start unit count := by
      refine List.take_of_length_le ?_
      rw [List.drop_zero, validityBytes, List.length_append, List.length_cons, length_beBytes,
        length_beBytes]
    have hsame := (readValidity_validityBytes hs hu hc hbytes).symm.trans (hread _ _ hbytes)
    rw [Option.some.injEq, Option.some.injEq, datesOf, Prod.mk.injEq] at hsame
    have hdate : d = d' := dateText_inj (hdText.symm.trans hsame.1)
    by_contra hday
    exact Date.isAt_ne hd hd' hday hdate
  · rintro ⟨hday, hfit⟩
    have htime := endTime_eq start hu hfit
    have hle : (start : Int) + epochToTaiEpochSec ≤
        start + epochToTaiEpochSec + count * unitSeconds unit := by
      have hdur : (0 : Int) ≤ (count : Int) * (unitSeconds unit : Int) := by positivity
      omega
    have hpos' : 0 ≤ sslTime32ToTimeT start unit count := by
      rw [htime]
      exact hstart.trans hle
    rcases sslTime32ToString_eq hpos' with ⟨e, heText, he⟩
    rw [htime] at he
    -- The second that is added does not lead to another date.
    rcases gmDate_isAt (t := (start : Int) + epochToTaiEpochSec) hstart with ⟨d', -, hd'⟩
    have hsame : d' = d := Date.isAt_unique hd' hd hday.symm
    refine ⟨d', e, hd', he, fun p off h => ?_, (intProducts_fit hu hc).mpr hfit,
      Date.isAt_le hd' he hle⟩
    rw [readValidity_validityBytes hs hu hc h, datesOf, hdText, heText, hsame]

theorem datesExact_one_day : DatesExact 0 4 24 :=
  (datesExact_iff 0 4 24 (by decide) (by decide) (by decide)).mpr ⟨by decide, by decide⟩

/-- A certificate that starts in the last second of a day is shown to start on the next, and
    one that lasts too many times sixty hours to end before it starts. -/
theorem dates_shown_wrong :
    datesOf (86367, 2, 0) = (dateText ⟨2004, 1, 2, by decide, by decide, by decide, by decide⟩,
      dateText ⟨2004, 1, 1, by decide, by decide, by decide, by decide⟩) ∧
    datesOf (0, 5, 9943) = (dateText ⟨2004, 1, 1, by decide, by decide, by decide, by decide⟩,
      dateText ⟨1935, 12, 16, by decide, by decide, by decide, by decide⟩) ∧
    ¬ DatesExact 86367 2 0 ∧ ¬ DatesExact 0 5 9943 := by
  have hnext : datesOf (86367, 2, 0) =
      (dateText ⟨2004, 1, 2, by decide, by decide, by decide, by decide⟩,
        dateText ⟨2004, 1, 1, by decide, by decide, by decide, by decide⟩) := by
    decide
  refine ⟨hnext, by decide, ?_, ?_⟩
  · rintro ⟨d, e, -, -, hread, -, hle⟩
    have hsame := (@readValidity_validityBytes (validityBytes 86367 2 0) 0 86367 2 0
      (by decide) (by decide) (by decide) (by decide)).symm.trans (hread _ 0 (by decide))
    rw [hnext, Option.some.injEq, Option.some.injEq, Prod.mk.injEq] at hsame
    rw [← dateText_inj hsame.1, ← dateText_inj hsame.2] at hle
    exact absurd hle (by rw [Date.le_def]; decide)
  · rintro ⟨d, e, -, -, -, hfit, -⟩
    exact absurd (hfit (9943 * 60 * 60 * 60) (by decide)) (by decide)

end Iso21177
