import Mathlib.Tactic.IntervalCases

/-!
# Calendar Dates

Dates of the Gregorian calendar, continued to the year 0, and the number of days
before a date.

Years and months are both stretches of days that follow one another, and a day in
one of them comes before every day of a later one (`before_add_lt`). Counting the
days of the years before a date, of the months before it in its year, and of the
days before it in its month is therefore counting in order: the number of a date
determines it (`number_inj`), and an earlier date has a smaller number
(`number_le_iff`).

## Main definitions

* `before`: What comes before a stretch.
* `IsLeap`, `yearLength`, `monthLength`: The lengths of years and months.
* `Date`: A day there is.
* `daysBeforeMonth`: The days before a month in its year.
* `Date.dayOfYear`, `Date.number`: The days before a date in its year, and in all.
* `epoch`: The first day of 1970.
* `Date.IsAt`: The date of a second since then.

## Theorems

* `before_mono`, `before_add_lt`: Stretches in order.
* `before_monthLength`: The months of a year.
* `daysBeforeMonth_eq`, `before_yearLength_succ`, `before_march`: The days before a month,
  a year and a March in one expression.
* `Date.dayOfYear_lt`, `Date.number_lt`: Dates in order.
* `Date.number_inj`, `Date.number_le_iff`: The number of a date determines it and its place.
* `epoch_number`, `Date.isAt_unique`, `Date.isAt_ne`, `Date.isAt_le`: The date of a second.
-/

namespace Iso21177

/-- The lengths of the stretches before the `n`-th, together. -/
def before (w : Nat → Nat) : Nat → Nat
  | 0 => 0
  | n + 1 => before w n + w n

theorem before_mono (w : Nat → Nat) {m n : Nat} (h : m ≤ n) : before w m ≤ before w n := by
  induction h with
  | refl => exact le_rfl
  | step _ ih => exact ih.trans (Nat.le_add_right _ _)

/-- What is in a stretch comes before what is in a later one. -/
theorem before_add_lt (w : Nat → Nat) {m n x : Nat} (h : m < n) (hx : x < w m) (y : Nat) :
    before w m + x < before w n + y := by
  have hend : before w m + w m ≤ before w n := before_mono w h
  omega

/-- The year has a day more. -/
def IsLeap (y : Nat) : Prop := y % 4 = 0 ∧ (y % 100 ≠ 0 ∨ y % 400 = 0)

instance (y : Nat) : Decidable (IsLeap y) := inferInstanceAs (Decidable (_ ∧ _))

/-- The days of a year. -/
def yearLength (y : Nat) : Nat := if IsLeap y then 366 else 365

/-- The days of a month. -/
def monthLength (y : Nat) : Nat → Nat
  | 2 => if IsLeap y then 29 else 28
  | 4 | 6 | 9 | 11 => 30
  | _ => 31

/-- A date there is. -/
@[ext]
structure Date where
  year : Nat
  month : Nat
  day : Nat
  month_pos : 1 ≤ month
  month_le : month ≤ 12
  day_pos : 1 ≤ day
  day_le : day ≤ monthLength year month

/-- The days before a month in its year. -/
def daysBeforeMonth (y m : Nat) : Nat := before (fun i => monthLength y (i + 1)) (m - 1)

/-- The days before a month, counted out. The months from March on repeat after five. -/
theorem daysBeforeMonth_eq {y m : Nat} (hpos : 1 ≤ m) (hle : m ≤ 12) :
    daysBeforeMonth y m =
      if m ≤ 2 then 31 * (m - 1) else (if IsLeap y then 60 else 59) + (153 * (m - 3) + 2) / 5 := by
  unfold daysBeforeMonth
  by_cases hleap : IsLeap y
  · interval_cases m
    all_goals simp only [before, monthLength, hleap, if_true]
    all_goals rfl
  · interval_cases m
    all_goals simp only [before, monthLength, hleap, if_false]
    all_goals rfl

/-- The months of a year are the year. -/
theorem before_monthLength (y : Nat) :
    before (fun i => monthLength y (i + 1)) 12 = yearLength y := by
  simp only [before, monthLength, yearLength]
  split
  · rfl
  · rfl

/-- The days before the year behind a year. -/
theorem before_yearLength_succ (y : Nat) :
    before yearLength (y + 1) + y / 100 = 365 * y + y / 4 + y / 400 + 366 := by
  induction y with
  | zero => rfl
  | succ y ih =>
      have hlen : yearLength (y + 1) =
          if (y + 1) % 4 = 0 ∧ ((y + 1) % 100 ≠ 0 ∨ (y + 1) % 400 = 0) then 366 else 365 := rfl
      rw [before, hlen]
      -- Each of the three counts of years goes up by one if the new year is divisible.
      by_cases h4 : (y + 1) % 4 = 0
      · by_cases h100 : (y + 1) % 100 = 0
        · by_cases h400 : (y + 1) % 400 = 0
          · rw [if_pos ⟨h4, Or.inr h400⟩]
            omega
          · rw [if_neg (fun h => h.2.elim (fun hne => hne h100) h400)]
            omega
        · rw [if_pos ⟨h4, Or.inl h100⟩]
          omega
      · rw [if_neg (fun h => h4 h.1)]
        omega

/-- The days before the March of a year. -/
theorem before_march (y : Nat) :
    before yearLength y + (if IsLeap y then 60 else 59) + y / 100 =
      365 * y + y / 4 + y / 400 + 60 := by
  have hyears := before_yearLength_succ y
  have hlen : yearLength y = if IsLeap y then 366 else 365 := rfl
  rw [before, hlen] at hyears
  split at hyears
  · rename_i hleap
    rw [if_pos hleap]
    omega
  · rename_i hleap
    rw [if_neg hleap]
    omega

namespace Date

/-- The days before a date in its year. -/
def dayOfYear (d : Date) : Nat := daysBeforeMonth d.year d.month + (d.day - 1)

/-- The days before a date. -/
def number (d : Date) : Nat := before yearLength d.year + d.dayOfYear

instance : LE Date where
  le d e := d.year < e.year ∨ d.year = e.year ∧
    (d.month < e.month ∨ d.month = e.month ∧ d.day ≤ e.day)

theorem le_def (d e : Date) :
    d ≤ e ↔ d.year < e.year ∨ d.year = e.year ∧
      (d.month < e.month ∨ d.month = e.month ∧ d.day ≤ e.day) := Iff.rfl

/-- The day is in the month. -/
theorem day_lt (d : Date) : d.day - 1 < monthLength d.year (d.month - 1 + 1) := by
  have hpos := d.day_pos
  have hle := d.day_le
  rw [Nat.sub_add_cancel d.month_pos]
  omega

/-- The day is in the year. -/
theorem dayOfYear_lt (d : Date) : d.dayOfYear < yearLength d.year := by
  have hle := d.month_le
  have hpos := d.month_pos
  have hlt := before_add_lt (fun i => monthLength d.year (i + 1)) (n := 12) (by omega) d.day_lt 0
  rw [before_monthLength, Nat.add_zero] at hlt
  exact hlt

/-- An earlier date has fewer days before it. -/
theorem number_lt {d e : Date} (h : ¬ e ≤ d) : d.number < e.number := by
  rw [le_def] at h
  rcases Nat.lt_trichotomy d.year e.year with hyear | hyear | hyear
  · exact before_add_lt yearLength hyear d.dayOfYear_lt _
  · -- In one year the months decide, and in one month the days.
    have hin : d.dayOfYear < e.dayOfYear := by
      rcases Nat.lt_trichotomy d.month e.month with hmonth | hmonth | hmonth
      · have hpos := d.month_pos
        unfold dayOfYear daysBeforeMonth
        rw [← hyear]
        exact before_add_lt (fun i => monthLength d.year (i + 1)) (by omega) d.day_lt _
      · have hpos := d.day_pos
        unfold dayOfYear
        rw [hyear, hmonth]
        omega
      · omega
    unfold number
    rw [hyear]
    omega
  · omega

/-- The order of dates is the order of their numbers. -/
theorem number_le_iff {d e : Date} : d.number ≤ e.number ↔ d ≤ e := by
  constructor
  · intro h
    by_contra hc
    have hlt := number_lt hc
    omega
  · intro h
    by_cases hd : e ≤ d
    · -- Each is not after the other, so they have the same fields.
      rw [le_def] at h hd
      have hsame : d = e := by
        ext
        · omega
        · omega
        · omega
      rw [hsame]
    · exact (number_lt hd).le

/-- The number of a date determines it. -/
theorem number_inj {d e : Date} (h : d.number = e.number) : d = e := by
  have hde := number_le_iff.mp h.le
  have hed := number_le_iff.mp h.ge
  rw [le_def] at hde hed
  ext
  · omega
  · omega
  · omega

end Date

/-- The first day of 1970. -/
def epoch : Date where
  year := 1970
  month := 1
  day := 1
  month_pos := by decide
  month_le := by decide
  day_pos := by decide
  day_le := by decide

theorem epoch_number : epoch.number = 719528 := by
  have hyears : before yearLength 1970 + 1969 / 100 = 365 * 1969 + 1969 / 4 + 1969 / 400 + 366 :=
    before_yearLength_succ 1969
  have hyear : epoch.year = 1970 := rfl
  have hin : epoch.dayOfYear = 0 := rfl
  rw [Date.number, hyear, hin]
  omega

namespace Date

/-- The date is the one of a second, counted from the start of 1970. -/
def IsAt (d : Date) (t : Int) : Prop := (d.number : Int) = epoch.number + t / 86400

/-- There is one date of a second. -/
theorem isAt_unique {d e : Date} {t u : Int} (hd : d.IsAt t) (he : e.IsAt u)
    (h : t / 86400 = u / 86400) : d = e := by
  unfold IsAt at hd he
  exact number_inj (by omega)

/-- Dates on different days are different. -/
theorem isAt_ne {d e : Date} {t u : Int} (hd : d.IsAt t) (he : e.IsAt u)
    (h : t / 86400 ≠ u / 86400) : d ≠ e := by
  rintro rfl
  unfold IsAt at hd he
  omega

/-- A later second is on no earlier day. -/
theorem isAt_le {d e : Date} {t u : Int} (hd : d.IsAt t) (he : e.IsAt u) (h : t ≤ u) : d ≤ e := by
  have hdays : t / 86400 ≤ u / 86400 := Int.ediv_le_ediv (by decide) h
  unfold IsAt at hd he
  exact number_le_iff.mp (by omega)

end Date

end Iso21177
