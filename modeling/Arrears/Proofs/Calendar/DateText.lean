import Arrears.Calendar.DateText
import Arrears.Proofs.Cycle.Alignment
import Arrears.Proofs.Decimal.RoundTrip

/-! Dates and their written form. A date is the one that its year, month and day name, each of them
fits the digits it is written with, and so every date is read back as it was written. -/

set_option autoImplicit false

namespace Arrears.Date

open Text

/-! ## Year, month and day -/

theorem year_bounds (date : Date) : 1 ≤ date.year ∧ date.year ≤ 9999 := by
  have := date.monthIndex_bounds
  rw [year_eq]
  omega

theorem month_bounds (date : Date) : 1 ≤ date.month ∧ date.month ≤ 12 := by
  unfold month
  omega

theorem day_bounds (date : Date) :
    1 ≤ date.day ∧ date.day ≤ Calendar.monthLength date.monthIndex := by
  obtain ⟨reached, before⟩ := Calendar.mem_monthOf date.number
  unfold day Calendar.monthLength monthIndex
  omega

theorem ofParts?_parts (date : Date) : ofParts? date.year date.month date.day = some date := by
  have month := date.month_bounds
  have day := date.day_bounds
  rw [ofParts?, ← monthIndex_eq, if_pos ⟨month.1, month.2, day⟩, ofNumber?_eq_some, Date.day]
  omega

/-! ## Numbers of a fixed width -/

variable {width n : Nat}

theorem isDigit_of_mem_padded {c : Char} (member : c ∈ padded width n) : c.isDigit = true := by
  rcases List.mem_append.1 member with zero | digit
  · exact List.eq_of_mem_replicate zero ▸ rfl
  · exact isDigit_of_mem_digits digit

theorem length_padded (positive : 0 < width) (fits : n < Nat.pow 10 width) :
    (padded width n).length = width := by
  have short : (digits n).length ≤ width := (Decimal.digitCount_le_iff positive).2 fits
  rw [padded, List.length_append, List.length_replicate, Nat.sub_add_cancel short]

theorem ofDigits_padded (width n : Nat) : ofDigits (padded width n) = n := by
  unfold padded
  cases width - (digits n).length with
  | zero => exact ofDigits_digits n
  | succ zeros =>
    rw [List.replicate_succ, List.cons_append, Decimal.ofDigits_padded, ofDigits_digits]

theorem takeNumber?_padded (positive : 0 < width) (fits : n < Nat.pow 10 width) (rest : List Char) :
    takeNumber? width (padded width n ++ rest) = some (n, rest) := by
  have size := length_padded positive fits
  have front : (padded width n ++ rest).take width = padded width n := List.take_left' size
  have back : (padded width n ++ rest).drop width = rest := List.drop_left' size
  have all : (padded width n).all Char.isDigit = true := List.all_eq_true.2 fun _ => isDigit_of_mem_padded
  unfold takeNumber?
  rw [front, back, if_pos ⟨size, all⟩, ofDigits_padded]

/-! ## Reading what was written -/

theorem utf8Size_of_mem_chars {date : Date} {c : Char} (member : c ∈ date.chars) : c.utf8Size = 1 := by
  have digit {width n : Nat} (among : c ∈ padded width n) : c.utf8Size = 1 := by
    have small : c.toNat ≤ 127 :=
      (Decimal.digit_bounds (isDigit_of_mem_padded among)).2.trans (by decide)
    exact Char.utf8Size_eq_one_iff.2 (UInt32.le_iff_toNat_le.2 small)
  simp only [chars, List.mem_append, List.mem_cons] at member
  rcases member with (year | rfl | month) | rfl | day
  · exact digit year
  · rfl
  · exact digit month
  · rfl
  · exact digit day

theorem fits_year (date : Date) : date.year.natAbs < Nat.pow 10 4 := by
  have := date.year_bounds
  have width : Nat.pow 10 4 = 10000 := rfl
  omega

theorem fits_month (date : Date) : date.month.natAbs < Nat.pow 10 2 := by
  have := date.month_bounds
  have width : Nat.pow 10 2 = 100 := rfl
  omega

theorem fits_day (date : Date) : date.day.natAbs < Nat.pow 10 2 := by
  have := date.day_bounds
  have := Calendar.monthLength_le date.monthIndex
  have width : Nat.pow 10 2 = 100 := rfl
  omega

theorem hasDateSize_chars (date : Date) : hasDateSize date.chars = true := by
  have count (cs : List Char) (size : Nat) (single : ∀ c ∈ cs, c.utf8Size = 1) :
      cs.foldl (fun size c => size + c.utf8Size) size = size + cs.length := by
    induction cs generalizing size with
    | nil => rfl
    | cons c cs ih =>
      obtain ⟨one, others⟩ := List.forall_mem_cons.1 single
      rw [List.foldl_cons, ih _ others, one, List.length_cons]
      omega
  have ten : date.chars.length = 10 := by
    simp only [chars, List.length_append, List.length_cons, length_padded (by decide) date.fits_year,
      length_padded (by decide) date.fits_month, length_padded (by decide) date.fits_day]
  rw [hasDateSize, count _ 0 fun _ => utf8Size_of_mem_chars, ten]
  rfl

theorem readMonthDay?_padded {month day : Nat} (year : Nat) (month_fits : month < Nat.pow 10 2)
    (day_fits : day < Nat.pow 10 2) :
    readMonthDay? year true (padded 2 month ++ '-' :: padded 2 day) = ofParts? year month day := by
  have read := takeNumber?_padded (by decide) day_fits []
  rw [List.append_nil] at read
  simp only [readMonthDay?, takeNumber?_padded (by decide) month_fits, Option.bind_eq_bind,
    Option.bind_some, if_true, takeDash?, read]

theorem ofText?_toText (date : Date) : ofText? date.toText = some date := by
  have year := date.year_bounds
  have month := date.month_bounds
  have day := date.day_bounds
  -- the month begins with a digit, so that no week is read
  obtain ⟨c, rest, first⟩ : ∃ c rest, padded 2 date.month.natAbs = c :: rest :=
    List.exists_cons_of_length_pos (by rw [length_padded (by decide) date.fits_month]; decide)
  have no_week : c ≠ 'W' := by
    rintro rfl
    have digit : 'W'.isDigit = true := isDigit_of_mem_padded (first ▸ List.mem_cons_self)
    exact absurd digit (by decide)
  have read := readMonthDay?_padded date.year.natAbs date.fits_month date.fits_day
  rw [Int.natAbs_of_nonneg (by omega), Int.natAbs_of_nonneg (by omega), Int.natAbs_of_nonneg (by omega),
    ofParts?_parts, first] at read
  rw [ofText?, toText, String.toList_ofList, readChars?, if_pos date.hasDateSize_chars, chars,
    List.append_assoc, takeNumber?_padded (by decide) date.fits_year, first]
  simpa [no_week] using read

end Arrears.Date
