/-! Months and years of the calendar, counted without end in both directions. Days are counted from
the first day of year 1, which is day 1, and months so that month `12 * y + m` is the one `m`
months into year `y`. Months follow each other without a gap, and each day lies in one. -/

set_option autoImplicit false

namespace Arrears.Calendar

def isLeap (year : Int) : Bool := year % 4 == 0 && (year % 100 != 0 || year % 400 == 0)

def yearStart (year : Int) : Int :=
  365 * (year - 1) + (year - 1) / 4 - (year - 1) / 100 + (year - 1) / 400 + 1

def daysBefore (leap : Bool) (month : Int) : Int :=
  let extra := if leap then 1 else 0
  if month ≤ 0 then 0
  else if month = 1 then 31
  else if month = 2 then 59 + extra
  else if month = 3 then 90 + extra
  else if month = 4 then 120 + extra
  else if month = 5 then 151 + extra
  else if month = 6 then 181 + extra
  else if month = 7 then 212 + extra
  else if month = 8 then 243 + extra
  else if month = 9 then 273 + extra
  else if month = 10 then 304 + extra
  else if month = 11 then 334 + extra
  else 365 + extra

def monthStart (index : Int) : Int :=
  yearStart (index / 12) + daysBefore (isLeap (index / 12)) (index % 12)

def monthLength (index : Int) : Int := monthStart (index + 1) - monthStart index

/-- The year of a day. A year has 365.2425 days in the mean, so the guess is at most one too small. -/
def yearOf (day : Int) : Int :=
  let guess := (day - 1) * 400 / 146097 + 1
  if yearStart (guess + 1) ≤ day then guess + 1 else guess

def monthOfOffset (leap : Bool) (offset : Int) : Int :=
  if offset < daysBefore leap 1 then 0
  else if offset < daysBefore leap 2 then 1
  else if offset < daysBefore leap 3 then 2
  else if offset < daysBefore leap 4 then 3
  else if offset < daysBefore leap 5 then 4
  else if offset < daysBefore leap 6 then 5
  else if offset < daysBefore leap 7 then 6
  else if offset < daysBefore leap 8 then 7
  else if offset < daysBefore leap 9 then 8
  else if offset < daysBefore leap 10 then 9
  else if offset < daysBefore leap 11 then 10
  else 11

def monthOf (day : Int) : Int :=
  12 * yearOf day + monthOfOffset (isLeap (yearOf day)) (day - yearStart (yearOf day))

theorem yearStart_succ (year : Int) :
    yearStart (year + 1) = yearStart year + if isLeap year then 366 else 365 := by
  have shift : year + 1 - 1 = year := by omega
  by_cases four : year % 4 = 0 <;> by_cases hundred : year % 100 = 0 <;>
    by_cases cycle : year % 400 = 0 <;> simp [yearStart, isLeap, four, hundred, cycle, shift] <;> omega

def lengthInYear (leap : Bool) (month : Int) : Int :=
  if month = 1 then (if leap then 29 else 28)
  else if month = 3 ∨ month = 5 ∨ month = 8 ∨ month = 10 then 30
  else 31

theorem monthLength_eq (index : Int) :
    monthLength index = lengthInYear (isLeap (index / 12)) (index % 12) := by
  have cases : index % 12 = 0 ∨ index % 12 = 1 ∨ index % 12 = 2 ∨ index % 12 = 3 ∨ index % 12 = 4 ∨
      index % 12 = 5 ∨ index % 12 = 6 ∨ index % 12 = 7 ∨ index % 12 = 8 ∨ index % 12 = 9 ∨
      index % 12 = 10 ∨ index % 12 = 11 := by omega
  by_cases last : index % 12 = 11
  · have year : (index + 1) / 12 = index / 12 + 1 := by omega
    have month : (index + 1) % 12 = 0 := by omega
    simp only [monthLength, monthStart, year, month, last, yearStart_succ]
    cases isLeap (index / 12) <;> grind [daysBefore, lengthInYear]
  · have year : (index + 1) / 12 = index / 12 := by omega
    have month : (index + 1) % 12 = index % 12 + 1 := by omega
    simp only [monthLength, monthStart, year, month]
    rcases cases with h | h | h | h | h | h | h | h | h | h | h | h <;> rw [h] <;>
      cases isLeap (index / 12) <;> grind [daysBefore, lengthInYear]

theorem monthLength_le (index : Int) : monthLength index ≤ 31 := by
  rw [monthLength_eq]; unfold lengthInYear; repeat' split
  all_goals omega

theorem le_monthLength (index : Int) : 28 ≤ monthLength index := by
  rw [monthLength_eq]; unfold lengthInYear; repeat' split
  all_goals omega

theorem yearStart_yearOf_le (day : Int) : yearStart (yearOf day) ≤ day := by
  unfold yearOf
  dsimp only
  split
  · assumption
  · unfold yearStart; omega

theorem lt_yearStart_yearOf (day : Int) : day < yearStart (yearOf day + 1) := by
  unfold yearOf
  dsimp only
  split
  · unfold yearStart; omega
  · omega

/-- A month of a year, counted from zero, and a day of it, counted from the first of the year. -/
structure InMonth (leap : Bool) (offset month : Int) : Prop where
  nonneg : 0 ≤ month
  le : month ≤ 11
  reached : daysBefore leap month ≤ offset
  before : offset < daysBefore leap (month + 1)

theorem inMonth_monthOfOffset {leap : Bool} {offset : Int} (first : 0 ≤ offset)
    (last : offset < if leap then 366 else 365) : InMonth leap offset (monthOfOffset leap offset) := by
  have reached : daysBefore leap 0 ≤ offset := first
  have whole : daysBefore leap 12 = if leap then 366 else 365 := by cases leap <;> rfl
  unfold monthOfOffset
  iterate 11
    refine iteInduction (fun before => ⟨by decide, by decide, reached, before⟩) fun behind => ?_
    replace reached := Int.not_lt.1 behind
  exact ⟨by decide, by decide, reached, whole ▸ last⟩

theorem mem_monthOf (day : Int) : monthStart (monthOf day) ≤ day ∧ day < monthStart (monthOf day + 1) := by
  have first := yearStart_yearOf_le day
  have next := lt_yearStart_yearOf day
  rw [yearStart_succ] at next
  obtain ⟨nonneg, le, reached, before⟩ : InMonth (isLeap (yearOf day)) (day - yearStart (yearOf day))
      (monthOfOffset (isLeap (yearOf day)) (day - yearStart (yearOf day))) :=
    inMonth_monthOfOffset (by omega) (by omega)
  unfold monthOf at *
  generalize monthOfOffset (isLeap (yearOf day)) (day - yearStart (yearOf day)) = month at *
  have year : (12 * yearOf day + month) / 12 = yearOf day := by omega
  have place : (12 * yearOf day + month) % 12 = month := by omega
  have starts : monthStart (12 * yearOf day + month) = yearStart (yearOf day) + daysBefore (isLeap (yearOf day)) month := by
    rw [monthStart, year, place]
  refine ⟨by omega, ?_⟩
  by_cases final : month = 11
  · have year : (12 * yearOf day + month + 1) / 12 = yearOf day + 1 := by omega
    have place : (12 * yearOf day + month + 1) % 12 = 0 := by omega
    rw [monthStart, year, place, yearStart_succ]
    have none : daysBefore (isLeap (yearOf day + 1)) 0 = 0 := rfl
    omega
  · have year : (12 * yearOf day + month + 1) / 12 = yearOf day := by omega
    have place : (12 * yearOf day + month + 1) % 12 = month + 1 := by omega
    rw [monthStart, year, place]
    omega

end Arrears.Calendar
