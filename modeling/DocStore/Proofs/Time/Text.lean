import DocStore.Proofs.Time.Calendar
import DocStore.Time.Instant

/-!
# Instants and their texts

The text of an instant in the years 0 to 9999 without a leap second is read back as
the instant, but for what the places cut off (`Instant.read_textWith`):

* `Instant.read_text`: the text with as many places as needed is exact.
* `Instant.read_millisText`: the text with milliseconds stands for the start of the
  millisecond.

Each reader takes the numeral that was written for it off the front, whatever stands
behind (`IsNumeral`).
-/

namespace DocStore

open Calendar (dateOf)
open Text (trimFront isBlank)

/-! ## Numerals -/

/-- So many digits that stand for a number. -/
structure IsNumeral (width n : Nat) (digits : List Char) : Prop where
  length_eq : digits.length = width
  isDigit : ∀ c ∈ digits, c.isDigit = true
  value : Nat.ofDigitChars 10 digits 0 = n

theorem ofDigitChars_zeros (n : Nat) (digits : List Char) :
    Nat.ofDigitChars 10 (List.replicate n '0' ++ digits) 0 = Nat.ofDigitChars 10 digits 0 := by
  induction n with
  | zero => rfl
  | succ n ih =>
    rw [List.replicate_succ, List.cons_append, Nat.ofDigitChars_cons]
    exact ih

theorem isNumeral_padded {width n : Nat} (hwidth : 0 < width) (hn : n < 10 ^ width) :
    IsNumeral width n (Instant.padded width n).toList := by
  have hlength := (Nat.length_toDigits_le_iff (b := 10) (by decide) hwidth).2 hn
  rw [Instant.padded, String.toList_ofList]
  constructor
  · rw [List.length_append, List.length_replicate]
    omega
  · intro c hc
    rcases List.mem_append.1 hc with hzero | hdigit
    · rw [List.eq_of_mem_replicate hzero]
      rfl
    · exact Nat.isDigit_of_mem_toDigits (by decide) (by decide) hdigit
  · rw [ofDigitChars_zeros, Nat.ofDigitChars_ten_toDigits]

theorem isBlank_of_isDigit {c : Char} (h : c.isDigit = true) : isBlank c = false := by
  have hrange : 48 ≤ c.toNat ∧ c.toNat ≤ 57 := by
    simpa [Char.isDigit, UInt32.le_iff_toNat_le] using h
  simp only [isBlank, Bool.or_eq_false_iff, Bool.and_eq_false_iff, decide_eq_false_iff_not]
  omega

theorem trimFront_cons {c : Char} (h : isBlank c = false) (rest : List Char) :
    trimFront (c :: rest) = c :: rest := by
  rw [trimFront, List.dropWhile_cons, h]
  rfl

section Numeral

variable {width n : Nat} {digits : List Char} (h : IsNumeral width n digits)

include h

theorem IsNumeral.exists_cons (hwidth : 0 < width) :
    ∃ c rest, digits = c :: rest ∧ c.isDigit = true := by
  cases digits with
  | nil => exact absurd h.length_eq (Nat.ne_of_lt hwidth)
  | cons c rest => exact ⟨c, rest, rfl, h.isDigit c List.mem_cons_self⟩

theorem IsNumeral.trimFront_append (hwidth : 0 < width) (rest : List Char) :
    trimFront (digits ++ rest) = digits ++ rest := by
  obtain ⟨c, tail, rfl, hc⟩ := h.exists_cons hwidth
  exact trimFront_cons (isBlank_of_isDigit hc) _

end Numeral

namespace Instant

/-! ## The readers -/

theorem ok_bind {α β : Type} (a : α) (f : α → Except TextFault β) :
    (Except.ok a >>= f) = f a := rfl

theorem expect_trimFront {c : Char} (h : isBlank c = false) (rest : List Char) :
    expect c (trimFront (c :: rest)) = .ok rest := by
  rw [trimFront_cons h, expect, if_pos rfl]

section Numeral

variable {width n : Nat} {digits : List Char} (h : IsNumeral width n digits)

include h

/-- A numeral is read in full, and nothing behind it, when no more digits are allowed or none
follow. -/
theorem readDigits_numeral (hwidth : 0 < width) {most : Nat} {rest : List Char}
    (hmost : width = most ∨ width < most ∧ rest.takeWhile Char.isDigit = [])
    (hn : n < 0x8000000000000000) : readDigits most (digits ++ rest) = .ok (n, rest) := by
  have htaken : ((digits ++ rest).takeWhile Char.isDigit).take most = digits := by
    rw [List.takeWhile_append_of_pos h.isDigit]
    rcases hmost with hmost | ⟨hmost, hrest⟩
    · rw [List.take_append_of_le_length (by rw [h.length_eq]; omega)]
      exact List.take_of_length_le (by rw [h.length_eq]; omega)
    · rw [hrest, List.append_nil]
      exact List.take_of_length_le (by rw [h.length_eq]; omega)
  obtain ⟨c, tail, hcons, -⟩ := h.exists_cons hwidth
  have hvalue : digits.foldl (fun n c => 10 * n + (c.toNat - '0'.toNat)) 0 = n := h.value
  have hne : digits ≠ [] := by simp [hcons]
  rw [readDigits, htaken, hvalue, List.drop_left]
  simp [hne, Nat.not_le.2 hn]

theorem readYear_numeral (hwidth : width = 4) (hn : n ≤ 9999) (rest : List Char) :
    readYear (digits ++ rest) = .ok ((n : Int), rest) := by
  have hread : readDigits 4 (digits ++ rest) = .ok (n, rest) :=
    readDigits_numeral h (by omega) (.inl hwidth) (by omega)
  obtain ⟨c, tail, rfl, hc⟩ := h.exists_cons (by omega)
  have hminus : c ≠ '-' := by
    rintro rfl
    simp at hc
  have hplus : c ≠ '+' := by
    rintro rfl
    simp at hc
  have hbounds : -0x80000000 ≤ (n : Int) ∧ (n : Int) < 0x80000000 := by omega
  rw [readYear, h.trimFront_append (by omega)]
  simp only [List.cons_append] at hread ⊢
  split
  · rename_i heq
    exact absurd (List.cons.inj heq).1 hminus
  · rename_i heq
    exact absurd (List.cons.inj heq).1 hplus
  · rw [hread, ok_bind, ok_bind]
    exact if_pos hbounds

theorem readPart_numeral (hwidth : width = 2) {low high : Nat} (hlow : low ≤ n)
    (hhigh : n ≤ high) (hn : n < 100) (rest : List Char) :
    readPart low high (digits ++ rest) = .ok (n, rest) := by
  rw [readPart, h.trimFront_append (by omega),
    readDigits_numeral h (by omega) (.inl hwidth) (by omega), ok_bind]
  exact if_pos ⟨hlow, hhigh⟩

theorem readFraction_numeral (hwidth : 0 < width) (hplaces : width ≤ 9) (hn : n < 1000000000)
    {rest : List Char} (hrest : rest.takeWhile Char.isDigit = []) :
    readFraction ('.' :: (digits ++ rest)) = .ok (n * Decimal.tenTo (9 - width), rest) := by
  have hread : readDigits 9 (digits ++ rest) = .ok (n, rest) := by
    refine readDigits_numeral h hwidth ?_ (by omega)
    rcases Nat.lt_or_eq_of_le hplaces with hlt | heq
    · exact .inr ⟨hlt, hrest⟩
    · exact .inl heq
  have hdrop : rest.dropWhile Char.isDigit = rest := by
    have hwhole := List.takeWhile_append_dropWhile (p := Char.isDigit) (l := rest)
    rwa [hrest, List.nil_append] at hwhole
  have hlength : (digits ++ rest).length - rest.length = width := by
    rw [List.length_append, h.length_eq, Nat.add_sub_cancel]
  rw [readFraction, hread, ok_bind]
  show Except.ok (n * Decimal.tenTo (9 - ((digits ++ rest).length - rest.length)),
    rest.dropWhile Char.isDigit) = _
  rw [hlength, hdrop]

end Numeral

/-! ## The text of an instant -/

/-- In the years that are written with four digits. -/
def HasPlainYear (at' : Instant) : Prop :=
  0 ≤ (dateOf (at'.seconds / (perDay : Int))).year ∧
    (dateOf (at'.seconds / (perDay : Int))).year ≤ 9999

instance (at' : Instant) : Decidable at'.HasPlainYear := inferInstanceAs (Decidable (_ ∧ _))

/-- The digits of a fraction of a second behind a point; no places, no point. -/
def fractionText (places nanos : Nat) : List Char :=
  if places = 0 then [] else '.' :: (padded places (nanos / Decimal.tenTo (9 - places))).toList

theorem toList_textWith {at' : Instant} (hyear : at'.HasPlainYear) (hnanos : at'.nanos < 1000000000)
    (places : Nat) :
    let date := dateOf (at'.seconds / (perDay : Int))
    let second := (at'.seconds % (perDay : Int)).toNat
    (textWith places at').toList =
      (padded 4 date.year.toNat).toList ++ '-' :: ((padded 2 date.month).toList ++
      '-' :: ((padded 2 date.day).toList ++ 'T' :: ((padded 2 (second / 3600)).toList ++
      ':' :: ((padded 2 (second / 60 % 60)).toList ++ ':' :: ((padded 2 (second % 60)).toList ++
      (fractionText places at'.nanos ++ ['Z'])))))) := by
  intro date second
  unfold HasPlainYear at hyear
  have hleap : at'.nanos / 1000000000 = 0 := by omega
  have hpart : at'.nanos % 1000000000 = at'.nanos := by omega
  have hpoint : (if places = 0 then "" else
      "." ++ padded places (at'.nanos / Decimal.tenTo (9 - places))).toList =
        fractionText places at'.nanos := by
    rw [fractionText]
    split
    · rfl
    · rw [String.toList_append]
      rfl
  have hmarks : "-".toList = ['-'] ∧ "T".toList = ['T'] ∧ ":".toList = [':'] ∧
      "Z".toList = ['Z'] := by decide
  obtain ⟨hminus, htime, hcolon, hzulu⟩ := hmarks
  simp only [textWith, yearText, if_pos hyear, hleap, hpart, Nat.add_zero, String.toList_append,
    hpoint, hminus, htime, hcolon, hzulu, List.append_assoc, List.singleton_append]
  rfl

theorem readFraction_fractionText {places nanos : Nat} (hplaces : places ≤ 9)
    (hnanos : nanos < 1000000000) (rest : List Char) :
    readFraction (fractionText places nanos ++ 'Z' :: rest) =
      .ok (nanos / Decimal.tenTo (9 - places) * Decimal.tenTo (9 - places), 'Z' :: rest) := by
  rw [fractionText]
  split
  · rename_i hzero
    have hnone : nanos / Decimal.tenTo (9 - 0) = 0 := Nat.div_eq_of_lt hnanos
    rw [hzero, hnone, Nat.zero_mul]
    rfl
  · rename_i hplace
    have hpow : Decimal.tenTo (9 - places) * 10 ^ places = 1000000000 := by
      show 10 ^ (9 - places) * 10 ^ places = 10 ^ 9
      rw [← Nat.pow_add, Nat.sub_add_cancel hplaces]
    have hpart : nanos / Decimal.tenTo (9 - places) < 10 ^ places := by
      have hpos : 0 < Decimal.tenTo (9 - places) := Nat.pow_pos (by decide)
      rw [Nat.div_lt_iff_lt_mul hpos, Nat.mul_comm, hpow]
      exact hnanos
    have hle : 10 ^ places ≤ 10 ^ 9 := Nat.pow_le_pow_right (by decide) hplaces
    exact readFraction_numeral (isNumeral_padded (by omega) hpart) (by omega) hplaces
      (by omega) rfl

theorem readOffset_zulu (rest : List Char) : readOffset ('Z' :: rest) = .ok (0, rest) := rfl

/-- The end of reading: a date and a time of day, taken to UTC. -/
def ofReading (date : Calendar.Date) (hour minute second nanos : Nat) (offset : Int) :
    Except TextFault Instant :=
  if !(date.isValid && firstYear ≤ date.year && date.year ≤ lastYear) then .error .outOfRange
  else if offset.natAbs ≥ perDay then .error .outOfRange
  else
    let (second, nanos) := if second = 60 then (59, nanos + 1000000000) else (second, nanos)
    let local' := Calendar.dayNumber date * (perDay : Int) +
      (hour * 3600 + minute * 60 + second : Nat)
    let seconds := local' - offset
    let utcYear := (dateOf (seconds / (perDay : Int))).year
    if firstYear ≤ utcYear ∧ utcYear ≤ lastYear then .ok ⟨seconds, nanos⟩
    else .error .impossible

/-- A day and a second of it make the instant that they were taken from. -/
theorem ofReading_dateOf {day : Int} {second : Nat} (hsecond : second < 86400)
    (hyear : firstYear ≤ (dateOf day).year ∧ (dateOf day).year ≤ lastYear) (nanos : Nat) :
    ofReading (dateOf day) (second / 3600) (second / 60 % 60) (second % 60) nanos 0 =
      .ok ⟨day * 86400 + second, nanos⟩ := by
  have hvalid : ((dateOf day).isValid && firstYear ≤ (dateOf day).year &&
      (dateOf day).year ≤ lastYear) = true := by
    simp [Calendar.isValid_dateOf, hyear]
  have hclock : second / 3600 * 3600 + second / 60 % 60 * 60 + second % 60 = second := by omega
  have hday : (day * (perDay : Int) + second) / (perDay : Int) = day := by
    unfold perDay
    omega
  have hnotLeap : ¬ second % 60 = 60 := by omega
  rw [ofReading, hvalid, if_neg (by decide), if_neg (by decide), if_neg hnotLeap]
  simp only [Calendar.dayNumber_dateOf, hclock, Int.sub_zero, hday, if_pos hyear]
  rfl

/-- A text with places is read as the instant whose finer digits are zeros. -/
theorem read_textWith {at' : Instant} (hplain : at'.HasPlainYear)
    (hnanos : at'.nanos < 1000000000) {places : Nat} (hplaces : places ≤ 9) :
    read (textWith places at') =
      .ok ⟨at'.seconds,
        at'.nanos / Decimal.tenTo (9 - places) * Decimal.tenTo (9 - places)⟩ := by
  have htext := toList_textWith hplain hnanos places
  simp only at htext
  unfold HasPlainYear at hplain
  have hseconds : at'.seconds / (perDay : Int) * 86400 + (at'.seconds % (perDay : Int)).toNat =
      at'.seconds := by
    unfold perDay
    omega
  have hsecond : (at'.seconds % (perDay : Int)).toNat < 86400 := by
    unfold perDay
    omega
  generalize at'.seconds / (perDay : Int) = day at *
  generalize (at'.seconds % (perDay : Int)).toNat = second at *
  have hend := ofReading_dateOf hsecond
    (show firstYear ≤ (dateOf day).year ∧ (dateOf day).year ≤ lastYear by
      unfold firstYear lastYear
      omega)
    (at'.nanos / Decimal.tenTo (9 - places) * Decimal.tenTo (9 - places))
  obtain ⟨hmonth, hday⟩ := Calendar.bounds_of_isValid (Calendar.isValid_dateOf day)
  generalize dateOf day = date at *
  have ryear : ∀ rest, readYear ((padded 4 date.year.toNat).toList ++ rest) =
      .ok (date.year, rest) := by
    intro rest
    rw [readYear_numeral (isNumeral_padded (by decide) (by omega)) rfl (by omega),
      Int.toNat_of_nonneg hplain.1]
  have rpart : ∀ {n low high : Nat}, low ≤ n ∧ n ≤ high → n < 100 → ∀ rest,
      readPart low high ((padded 2 n).toList ++ rest) = .ok (n, rest) :=
    fun hbounds hn rest =>
      readPart_numeral (isNumeral_padded (by decide) hn) rfl hbounds.1 hbounds.2 hn rest
  have rhour := rpart (show 0 ≤ second / 3600 ∧ second / 3600 ≤ 23 by omega) (by omega)
  have rminute := rpart (show 0 ≤ second / 60 % 60 ∧ second / 60 % 60 ≤ 59 by omega) (by omega)
  have rsecond := rpart (show 0 ≤ second % 60 ∧ second % 60 ≤ 60 by omega) (by omega)
  have hminus : isBlank '-' = false := by decide
  have hcolon : isBlank ':' = false := by decide
  have hzulu : isBlank 'Z' = false := by decide
  simp only [read, htext, ok_bind, ryear, expect_trimFront hminus, rpart hmonth (by omega),
    rpart hday (by omega), true_or, if_true, rhour, expect_trimFront hcolon, rminute, rsecond,
    readFraction_fractionText hplaces hnanos, trimFront_cons hzulu, readOffset_zulu]
  rw [if_neg (by decide)]
  rw [hseconds] at hend
  exact hend

/-- The text with milliseconds stands for the start of the millisecond. -/
theorem read_millisText {at' : Instant} (hplain : at'.HasPlainYear)
    (hnanos : at'.nanos < 1000000000) :
    read at'.millisText = .ok ⟨at'.seconds, at'.nanos / 1000000 * 1000000⟩ :=
  read_textWith hplain hnanos (by decide)

/-- The text with as many places as needed is exact. -/
theorem read_text {at' : Instant} (hplain : at'.HasPlainYear) (hnanos : at'.nanos < 1000000000) :
    read at'.text = .ok at' := by
  have hpart : at'.nanos % 1000000000 = at'.nanos := Nat.mod_eq_of_lt hnanos
  have hread : ∀ places ≤ 9, at'.nanos % Decimal.tenTo (9 - places) = 0 →
      read (textWith places at') = .ok at' := by
    intro places hplaces hzeros
    rw [read_textWith hplain hnanos hplaces, Nat.div_mul_cancel (Nat.dvd_of_mod_eq_zero hzeros)]
  rw [text, hpart]
  by_cases hwhole : at'.nanos = 0
  · rw [if_pos hwhole]
    exact hread 0 (by decide) (by rw [hwhole]; rfl)
  · rw [if_neg hwhole]
    by_cases hmillis : at'.nanos % 1000000 = 0
    · rw [if_pos hmillis]
      exact hread 3 (by decide) hmillis
    · rw [if_neg hmillis]
      by_cases hmicros : at'.nanos % 1000 = 0
      · rw [if_pos hmicros]
        exact hread 6 (by decide) hmicros
      · rw [if_neg hmicros]
        exact hread 9 (by decide) (Nat.mod_one _)

end Instant

end DocStore
