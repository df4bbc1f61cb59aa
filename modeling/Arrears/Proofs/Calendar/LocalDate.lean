import Arrears.Calendar.Moment
import Arrears.Proofs.Cycle.Alignment

/-! Local dates in a zone at a fixed distance from universal time. They depend on the instant alone and
follow it, and lie at most a day from the universal date, across the ends of months and years. -/

set_option autoImplicit false

namespace Arrears

/-! ## Days behind each other -/

namespace Date

/-- The day behind another: the next of its month, or behind the last of a month the first of the next
one. -/
structure Follows (next date : Date) : Prop where
  month : next.monthIndex =
    if date.day = Calendar.monthLength date.monthIndex then date.monthIndex + 1 else date.monthIndex
  day : next.day = if date.day = Calendar.monthLength date.monthIndex then 1 else date.day + 1

theorem follows_of_number {next date : Date} (number : next.number = date.number + 1) :
    next.Follows date := by
  obtain ⟨reached, before⟩ := Calendar.mem_monthOf date.number
  have month_of {index : Int} (from_first : Calendar.monthStart index ≤ next.number)
      (to_last : next.number < Calendar.monthStart (index + 1)) : next.monthIndex = index :=
    Calendar.monthOf_eq from_first to_last
  have length : Calendar.monthLength date.monthIndex =
    Calendar.monthStart (date.monthIndex + 1) - Calendar.monthStart date.monthIndex := rfl
  have placed : date.day = date.number - Calendar.monthStart date.monthIndex + 1 := rfl
  have next_placed : next.day = next.number - Calendar.monthStart next.monthIndex + 1 := rfl
  change Calendar.monthStart date.monthIndex ≤ date.number at reached
  change date.number < Calendar.monthStart (date.monthIndex + 1) at before
  by_cases last : date.day = Calendar.monthLength date.monthIndex
  · have some_days := Calendar.le_monthLength (date.monthIndex + 1)
    unfold Calendar.monthLength at some_days
    have month : next.monthIndex = date.monthIndex + 1 := month_of (by omega) (by omega)
    rw [month] at next_placed
    exact ⟨by rw [if_pos last, month], by rw [if_pos last]; omega⟩
  · have month : next.monthIndex = date.monthIndex := month_of (by omega) (by omega)
    rw [month] at next_placed
    exact ⟨by rw [if_neg last, month], by rw [if_neg last]; omega⟩

end Date

/-! ## Instants and dates -/

namespace Timestamp

def InYears (instant : Int) : Prop := dayMicros ≤ instant ∧ instant < 3652060 * dayMicros

variable {instant later : Int} {date other : Date}

theorem dateAt_eq_ok_iff : dateAt instant = .ok date ↔
    date.number * dayMicros ≤ instant ∧ instant < (date.number + 1) * dayMicros := by
  have number : dateAt instant = .ok date ↔ date.number = instant / dayMicros := by
    rw [← Date.ofNumber?_eq_some, dateAt]
    cases Date.ofNumber? (instant / dayMicros) <;> simp
  rw [number, dayMicros]
  omega

theorem exists_dateAt_iff : (∃ date, dateAt instant = .ok date) ↔ InYears instant := by
  unfold InYears
  constructor
  · rintro ⟨date, found⟩
    have bounds := dateAt_eq_ok_iff.1 found
    have first := date.first_le
    have last := date.le_last
    rw [dayMicros] at bounds ⊢
    omega
  · rw [dayMicros]
    intro bounds
    have first : 1 ≤ instant / 86400000000 := by omega
    have last : instant / 86400000000 ≤ 3652059 := by omega
    exact ⟨⟨instant / 86400000000, first, last⟩, dateAt_eq_ok_iff.2 (by simp only [dayMicros]; omega)⟩

theorem dateAt_mono (order : instant ≤ later) (found : dateAt instant = .ok date)
    (behind : dateAt later = .ok other) : date ≤ other := by
  have bounds := dateAt_eq_ok_iff.1 found
  have other_bounds := dateAt_eq_ok_iff.1 behind
  rw [dayMicros] at bounds other_bounds
  rw [Date.le_def]
  omega

variable {time : Timestamp} {micros : Int}

theorem localDate_fixed_eq_ok_iff : time.localDate (.fixed micros) = .ok date ↔
    InYears time.instant ∧ dateAt (time.instant + micros) = .ok date := by
  rw [localDate, bind_eq_ok, ← exists_dateAt_iff]
  constructor
  · rintro ⟨day, found, shown⟩
    exact ⟨⟨day, found⟩, shown⟩
  · rintro ⟨⟨day, found⟩, shown⟩
    exact ⟨day, found, shown⟩

theorem localDate_congr {first second : Timestamp} (same : first.instant = second.instant) (zone : Zone) :
    first.localDate zone = second.localDate zone := by
  simp only [localDate, same]

/-- The date and the time of day that clocks in the zone show, beside those of universal time. -/
theorem shifted (within_day : -dayMicros < micros ∧ micros < dayMicros)
    (found : time.localDate (.fixed micros) = .ok date) :
    ∃ day clock, time.localDate .universal = .ok day ∧ time.instant = day.number * dayMicros + clock ∧
      0 ≤ clock ∧ clock < dayMicros ∧
      (clock + micros < 0 → day.Follows date) ∧
      (0 ≤ clock + micros → clock + micros < dayMicros → date = day) ∧
      (dayMicros ≤ clock + micros → date.Follows day) := by
  obtain ⟨in_years, shown⟩ := localDate_fixed_eq_ok_iff.1 found
  obtain ⟨day, universal⟩ := exists_dateAt_iff.2 in_years
  have here : time.localDate .universal = .ok day :=
    localDate_fixed_eq_ok_iff.2 ⟨in_years, by rwa [Int.add_zero]⟩
  have bounds := dateAt_eq_ok_iff.1 universal
  have shown_bounds := dateAt_eq_ok_iff.1 shown
  rw [dayMicros] at within_day
  refine ⟨day, time.instant - day.number * dayMicros, here, by omega, by omega, ?_, ?_, ?_, ?_⟩ <;>
    rw [dayMicros] at bounds shown_bounds ⊢
  · omega
  · intro before
    exact Date.follows_of_number (by omega)
  · intro from_start to_end
    exact Date.ext_number (by omega)
  · intro behind
    exact Date.follows_of_number (by omega)

end Timestamp

namespace Moment

/-- Local dates follow the instant. At a fixed distance of less than a day from universal time, a time
has a local date just where both clocks stay in the years 1 to 9999. Times of one instant have one
local date, and a time without an offset has that of universal time; a later instant has no earlier
date; and the date is the universal one, or the day before or behind it where the time of day and
the distance lead out of the day. -/
theorem local_date_follows_instant (micros : Int)
    (within_day : -dayMicros < micros ∧ micros < dayMicros) :
    (∀ time : Timestamp, (∃ date, (stamp time).localDate (.fixed micros) = .ok date) ↔
      Timestamp.InYears time.instant ∧ Timestamp.InYears (time.instant + micros)) ∧
    (∀ one other : Timestamp, one.instant = other.instant →
      (stamp one).localDate (.fixed micros) = (stamp other).localDate (.fixed micros)) ∧
    (∀ time : Timestamp, (stamp { time with offset := none }).localDate (.fixed micros) =
      (stamp { time with offset := some 0 }).localDate (.fixed micros)) ∧
    (∀ (one other : Timestamp) (first second : Date), one.instant ≤ other.instant →
      (stamp one).localDate (.fixed micros) = .ok first →
      (stamp other).localDate (.fixed micros) = .ok second → first ≤ second) ∧
    (∀ (time : Timestamp) (date : Date), (stamp time).localDate (.fixed micros) = .ok date →
      ∃ day clock, (stamp time).localDate .universal = .ok day ∧
        time.instant = day.number * dayMicros + clock ∧ 0 ≤ clock ∧ clock < dayMicros ∧
        (clock + micros < 0 → day.Follows date) ∧
        (0 ≤ clock + micros → clock + micros < dayMicros → date = day) ∧
        (dayMicros ≤ clock + micros → date.Follows day)) := by
  refine ⟨fun time => ?_, fun one other same => Timestamp.localDate_congr same _,
    fun time => Timestamp.localDate_congr rfl _, ?_, fun time date => Timestamp.shifted within_day⟩
  · simp only [localDate, Timestamp.localDate_fixed_eq_ok_iff, exists_and_left,
      Timestamp.exists_dateAt_iff]
  · intro one other first second order found behind
    obtain ⟨_, shown⟩ := Timestamp.localDate_fixed_eq_ok_iff.1 found
    obtain ⟨_, shown_behind⟩ := Timestamp.localDate_fixed_eq_ok_iff.1 behind
    exact Timestamp.dateAt_mono (by omega) shown shown_behind

/-! The evening of a leap day in universal time is midnight where clocks are 5:45 ahead, and the next
morning where they are 9:00 ahead. -/

def LeapNight.leapDay : Date := ⟨765243, by decide, by decide⟩

def LeapNight.nextDay : Date := ⟨765244, by decide, by decide⟩

def LeapNight.evening : Timestamp := ⟨leapDay, 65700000000, by decide, by decide, none⟩

def LeapNight.morning : Timestamp := ⟨nextDay, 11700000000, by decide, by decide, some 32400000000⟩

theorem local_date_follows_instant_leapNight :
    (stamp LeapNight.evening).localDate (.fixed 20700000000) = .ok LeapNight.nextDay ∧
      (stamp LeapNight.evening).localDate (.fixed 20700000000) =
        (stamp LeapNight.morning).localDate (.fixed 20700000000) ∧
      LeapNight.nextDay.Follows LeapNight.leapDay := by
  have within_day : -dayMicros < 20700000000 ∧ 20700000000 < dayMicros := by decide
  have shown : (stamp LeapNight.evening).localDate (.fixed 20700000000) = .ok LeapNight.nextDay := by
    decide +kernel
  have universal : (stamp LeapNight.evening).localDate .universal = .ok LeapNight.leapDay := by
    decide +kernel
  obtain ⟨_, congruent, _, _, shifted⟩ := local_date_follows_instant 20700000000 within_day
  obtain ⟨day, clock, found, instant, _, _, _, _, behind⟩ := shifted _ _ shown
  cases universal.symm.trans found
  refine ⟨shown, congruent _ _ (by decide), behind ?_⟩
  have value : LeapNight.evening.instant = LeapNight.leapDay.number * dayMicros + 65700000000 := by decide
  rw [dayMicros]
  omega

end Moment

end Arrears
