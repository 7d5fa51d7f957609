import DocStore.Time.Calendar
import Mathlib.Algebra.GroupWithZero.Nat

/-!
# Dates and their numbers

`dateOf` and `dayNumber` are inverse: every day has a date of the calendar
(`isValid_dateOf`), and the number of that date is the day (`dayNumber_dateOf`).

A day is taken apart into four hundred years, centuries, four years, years and the
rest of the year (`Split`).  The rest is shorter than the year, since the divisions
stop at three centuries and three years where a leap day is left over.
-/

namespace DocStore.Calendar

/-! ## The months of a year -/

/-- The day of the year is found in the month that it falls in: behind the months before it and
within its own length. -/
theorem monthOf_spec {lengths : List Nat} {rest : Nat} (h : rest < lengths.sum) (month : Nat) :
    ∃ k, k < lengths.length ∧ (monthOf lengths month rest).1 = month + k ∧
      1 ≤ (monthOf lengths month rest).2 ∧
      (monthOf lengths month rest).2 ≤ lengths[k]?.getD 0 ∧
      (lengths.take k).sum + (monthOf lengths month rest).2 = rest + 1 := by
  induction lengths generalizing month rest with
  | nil => simp at h
  | cons length lengths ih =>
    rw [List.sum_cons] at h
    rw [monthOf]
    by_cases hrest : rest < length
    · rw [if_pos hrest]
      exact ⟨0, by simp, rfl, by omega, by simpa using Nat.succ_le_of_lt hrest, by simp⟩
    · have hbehind : rest - length < lengths.sum := by omega
      obtain ⟨k, hk, hmonth, hfirst, hlast, hsum⟩ := ih hbehind (month + 1)
      rw [if_neg hrest]
      refine ⟨k + 1, by simpa using hk, by omega, hfirst, by simpa using hlast, ?_⟩
      rw [List.take_succ_cons, List.sum_cons]
      omega

theorem sum_monthLengths (leap : Bool) :
    (monthLengths leap).sum = if leap then 366 else 365 := by
  cases leap <;> rfl

theorem isLeap_iff {year : Int} :
    isLeap year = true ↔ year % 4 = 0 ∧ (year % 100 ≠ 0 ∨ year % 400 = 0) := by
  simp [isLeap]

/-! ## The years of a day -/

/-- A day of the calendar by the parts of its year: `eras` of four hundred years, `centuries`,
`quads` of four years, `years`, and the days behind the start of the year. -/
structure Split where
  eras : Int
  centuries : Nat
  quads : Nat
  years : Nat
  rest : Nat

/-- The parts of a day that is counted from the first of January of year 1. -/
def split (day : Int) : Split :=
  let inEra := (day % 146097).toNat
  let centuries := min 3 (inEra / 36524)
  let inCentury := inEra - centuries * 36524
  let quads := inCentury / 1461
  let inQuad := inCentury - quads * 1461
  let years := min 3 (inQuad / 365)
  ⟨day / 146097, centuries, quads, years, inQuad - years * 365⟩

namespace Split

def year (s : Split) : Int :=
  400 * s.eras + (100 * s.centuries + 4 * s.quads + s.years + 1 : Nat)

/-- The parts stay below what they are parts of, and the rest below the length of the year. -/
structure IsProper (s : Split) : Prop where
  centuries : s.centuries ≤ 3
  quads : s.quads ≤ 24
  years : s.years ≤ 3
  rest : s.rest < 365 ∨ s.rest = 365 ∧ s.years = 3 ∧ (s.quads = 24 → s.centuries = 3)

/-- The days before the year of a split, by its parts. -/
theorem daysBefore_year {s : Split} (h : s.IsProper) :
    daysBefore s.year = 146097 * s.eras + 36524 * s.centuries + 1461 * s.quads + 365 * s.years := by
  have hcenturies := h.centuries
  have hquads := h.quads
  have hyears := h.years
  rw [daysBefore, year]
  omega

/-- A leap year is the last of four, but for the last of a century that is not the last of four
centuries. -/
theorem isLeap_year {s : Split} (h : s.IsProper) :
    isLeap s.year = true ↔ s.years = 3 ∧ (s.quads = 24 → s.centuries = 3) := by
  have hcenturies := h.centuries
  have hquads := h.quads
  have hyears := h.years
  rw [isLeap_iff, year]
  omega

/-- The rest is a day of the year. -/
theorem rest_lt {s : Split} (h : s.IsProper) :
    s.rest < (monthLengths (isLeap s.year)).sum := by
  rw [sum_monthLengths]
  rcases h.rest with hrest | ⟨hrest, hleap⟩
  · split <;> omega
  · rw [if_pos ((isLeap_year h).2 hleap)]
    omega

end Split

theorem isProper_split (day : Int) : (split day).IsProper := by
  have hera : (day % 146097).toNat < 146097 := by omega
  constructor <;> simp only [split] <;> omega

/-- A day is the sum of its parts. -/
theorem eq_sum_split (day : Int) :
    day = 146097 * (split day).eras + 36524 * (split day).centuries + 1461 * (split day).quads +
      365 * (split day).years + (split day).rest := by
  simp only [split]
  omega

theorem dateOf_eq (n : Int) :
    dateOf n =
      let s := split (n + epoch)
      ⟨s.year, (monthOf (monthLengths (isLeap s.year)) 1 s.rest).1,
        (monthOf (monthLengths (isLeap s.year)) 1 s.rest).2⟩ := rfl

/-! ## Dates -/

/-- Every day has a date of the calendar. -/
theorem isValid_dateOf (n : Int) : (dateOf n).isValid = true := by
  obtain ⟨k, hk, hmonth, hfirst, hlast, -⟩ :=
    monthOf_spec (Split.rest_lt (isProper_split (n + epoch))) 1
  have htwelve : ∀ leap, (monthLengths leap).length = 12 := fun leap => rfl
  rw [htwelve] at hk
  rw [dateOf_eq, Date.isValid]
  simp only [hmonth, Nat.add_sub_cancel_left, Bool.and_eq_true, decide_eq_true_eq]
  exact ⟨⟨⟨by omega, by omega⟩, hfirst⟩, hlast⟩

/-- No month has more than 31 days. -/
theorem bounds_of_isValid {date : Date} (h : date.isValid = true) :
    (1 ≤ date.month ∧ date.month ≤ 12) ∧ 1 ≤ date.day ∧ date.day ≤ 31 := by
  have hlongest : ∀ leap, ∀ length ∈ monthLengths leap, length ≤ 31 := by decide
  simp only [Date.isValid, Bool.and_eq_true, decide_eq_true_eq] at h
  obtain ⟨⟨⟨hfirst, hlast⟩, hday⟩, hlength⟩ := h
  refine ⟨⟨hfirst, hlast⟩, hday, ?_⟩
  cases hmonth : (monthLengths (isLeap date.year))[date.month - 1]? with
  | none =>
    rw [hmonth, Option.getD_none] at hlength
    omega
  | some length =>
    rw [hmonth, Option.getD_some] at hlength
    exact Nat.le_trans hlength (hlongest _ length (List.mem_of_getElem? hmonth))

/-- The number of the date of a day is the day. -/
theorem dayNumber_dateOf (n : Int) : dayNumber (dateOf n) = n := by
  have hproper := isProper_split (n + epoch)
  have hsum := eq_sum_split (n + epoch)
  obtain ⟨k, -, hmonth, -, -, hday⟩ := monthOf_spec (Split.rest_lt hproper) 1
  rw [dateOf_eq, dayNumber]
  simp only [hmonth, Nat.add_sub_cancel_left, ← List.sum_eq_foldl, Split.daysBefore_year hproper]
  omega

end DocStore.Calendar
