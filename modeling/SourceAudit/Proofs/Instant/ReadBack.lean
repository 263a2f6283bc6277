import SourceAudit.Instant
import SourceAudit.Proofs.Text.Reader

/-!
# Instants are read back

The date of a day exists, and it is the date of that day and of no other (`toDays_ofDays`). Years are
taken from March to February here, as they are in the conversions; a year with 29 February has day
365.

An instant that a clock can show is read back from its text, to the nanosecond (`parse?_render`).
-/

/-! ## Days and dates -/

namespace SourceAudit.Date

/-- The year that a day of a cycle of 400 years is in. -/
def yearOfCycle (day : Int) : Int :=
  (day - day / 1460 + day / 36524 - day / 146096) / 365

/-- The days of a cycle in front of a year. -/
def daysBefore (year : Int) : Int :=
  365 * year + year / 4 - year / 100

/-- The month, from March, that a day of a year is in. -/
def monthOfYear (day : Int) : Int :=
  (5 * day + 2) / 153

/-- The days of a year in front of a month, from March. -/
def daysBeforeMonth (month : Int) : Int :=
  (153 * month + 2) / 5

variable {day : Int}

/-- A day of a cycle is in one of its years, and is beyond the 365 days of that only if the year has
29 February. -/
theorem yearOfCycle_spec (hlow : 0 ≤ day) (hhigh : day < 146097) :
    0 ≤ yearOfCycle day ∧ yearOfCycle day < 400 ∧ daysBefore (yearOfCycle day) ≤ day ∧
      day ≤ daysBefore (yearOfCycle day) + 365 ∧
      (day = daysBefore (yearOfCycle day) + 365 → (yearOfCycle day + 1) % 4 = 0 ∧
        ((yearOfCycle day + 1) % 100 ≠ 0 ∨ (yearOfCycle day + 1) % 400 = 0)) := by
  by_cases hlast : day = 146096
  · rw [hlast]
    decide
  -- Any other day is in one of four centuries, and there in a group of four years.
  have hcentury : day / 36524 = 0 ∨ day / 36524 = 1 ∨ day / 36524 = 2 ∨ day / 36524 = 3 := by omega
  have hcycle : day / 146096 = 0 := by omega
  rw [yearOfCycle, hcycle, Int.sub_zero, daysBefore]
  generalize hc : day / 36524 = century at hcentury
  generalize hg : (day - 36524 * century) / 1461 = group
  generalize hy : (day - day / 1460 + century) / 365 = year
  have hyears : 100 * century ≤ year ∧ year < 100 * century + 100 := by
    rcases hcentury with rfl | rfl | rfl | rfl <;> omega
  have hhundreds : year / 100 = century := by omega
  have hfours : year / 4 = 25 * century + group := by
    rcases hcentury with rfl | rfl | rfl | rfl <;> omega
  -- Only the last year of a group can have the day.
  have hleap : day = 365 * year + (25 * century + group) - century + 365 →
      year - 100 * century - 4 * group = 3 := by
    intro heq
    obtain ⟨place, hplace⟩ : ∃ place, year = 100 * century + 4 * group + place :=
      ⟨year - 100 * century - 4 * group, by omega⟩
    have hfour : place = 0 ∨ place = 1 ∨ place = 2 ∨ place = 3 := by omega
    rcases hcentury with rfl | rfl | rfl | rfl <;> rcases hfour with rfl | rfl | rfl | rfl <;> omega
  rw [hhundreds, hfours]
  refine ⟨by omega, by omega, ?_⟩
  rcases hcentury with rfl | rfl | rfl | rfl <;> omega

/-- A day of a year is in one of its months. -/
theorem monthOfYear_spec (hlow : 0 ≤ day) (hhigh : day ≤ 365) :
    0 ≤ monthOfYear day ∧ monthOfYear day ≤ 11 ∧ daysBeforeMonth (monthOfYear day) ≤ day := by
  rw [monthOfYear, daysBeforeMonth]
  omega

/-- The calendar month for a month from March. -/
def calendarMonth (month : Int) : Int :=
  if month < 10 then month + 3 else month - 9

theorem ofDays_eq (days : Int) :
    ofDays days =
      let cycle := (days + 719468) / 146097
      let dayOfCycle := days + 719468 - cycle * 146097
      let year := yearOfCycle dayOfCycle
      let dayOfYear := dayOfCycle - daysBefore year
      let month := monthOfYear dayOfYear
      ⟨year + cycle * 400 + if calendarMonth month ≤ 2 then 1 else 0, (calendarMonth month).toNat,
        (dayOfYear - daysBeforeMonth month + 1).toNat⟩ := rfl

/-- Every month but February is as long as the months in front of it say. -/
theorem monthLength_eq {year month : Int} (hlow : 0 ≤ month) (hhigh : month ≤ 10) :
    (monthLength year (calendarMonth month).toNat : Int) =
      daysBeforeMonth (month + 1) - daysBeforeMonth month := by
  have hmonths : month = 0 ∨ month = 1 ∨ month = 2 ∨ month = 3 ∨ month = 4 ∨ month = 5 ∨
      month = 6 ∨ month = 7 ∨ month = 8 ∨ month = 9 ∨ month = 10 := by omega
  rcases hmonths with rfl | rfl | rfl | rfl | rfl | rfl | rfl | rfl | rfl | rfl | rfl <;> rfl

/-- No month has more than 31 days. -/
theorem monthLength_le (year : Int) (month : Nat) : monthLength year month ≤ 31 := by
  rw [monthLength]
  split
  · split <;> decide
  · split <;> decide

/-- A day of a month is no later than the month is long, if a day beyond 365 is only in a leap
year. -/
theorem day_le_monthLength {year : Int} (hlow : 0 ≤ day) (hhigh : day ≤ 365)
    (hleap : day = 365 → isLeapYear year = true) :
    day - daysBeforeMonth (monthOfYear day) + 1 ≤
      monthLength year (calendarMonth (monthOfYear day)).toNat := by
  obtain ⟨hm0, hm11, -⟩ := monthOfYear_spec hlow hhigh
  by_cases hfebruary : monthOfYear day = 11
  · rw [hfebruary]
    have hlength : monthLength year (calendarMonth 11).toNat = if isLeapYear year then 29 else 28 :=
      rfl
    have hbefore : daysBeforeMonth 11 = 337 := rfl
    rw [hlength, hbefore]
    split
    · omega
    · have hshort : day ≠ 365 := fun h => absurd (hleap h) (by assumption)
      omega
  · rw [monthLength_eq hm0 (by omega)]
    simp only [monthOfYear, daysBeforeMonth] at hm0 hm11 hfebruary ⊢
    omega

/-- The month is one of the calendar, and January and February are the last two of a year from
March. -/
theorem calendarMonth_spec {month : Int} (hlow : 0 ≤ month) (hhigh : month ≤ 11) :
    1 ≤ calendarMonth month ∧ calendarMonth month ≤ 12 ∧
      (calendarMonth month + 9) % 12 = month := by
  rw [calendarMonth]
  split
  · omega
  · omega

/-- The date of a day in terms of the year that starts in March. -/
theorem exists_ofDays (days : Int) :
    ∃ cycle year day : Int, days = cycle * 146097 + (daysBefore year + day) - 719468 ∧
      0 ≤ year ∧ year < 400 ∧ 0 ≤ day ∧ day ≤ 365 ∧
      (day = 365 → isLeapYear (year + cycle * 400 + 1) = true) ∧
      ofDays days = ⟨year + cycle * 400 + if calendarMonth (monthOfYear day) ≤ 2 then 1 else 0,
        (calendarMonth (monthOfYear day)).toNat,
        (day - daysBeforeMonth (monthOfYear day) + 1).toNat⟩ := by
  generalize hcycle : (days + 719468) / 146097 = cycle
  obtain ⟨hyear0, hyear, hbefore, hafter, hleap⟩ :=
    @yearOfCycle_spec (days + 719468 - cycle * 146097) (by omega) (by omega)
  refine ⟨cycle, yearOfCycle (days + 719468 - cycle * 146097),
    days + 719468 - cycle * 146097 - daysBefore (yearOfCycle (days + 719468 - cycle * 146097)),
    by omega, hyear0, hyear, by omega, by omega, fun hday => ?_, ?_⟩
  · obtain ⟨hfour, hhundred⟩ := hleap (by omega)
    simp only [isLeapYear, Bool.and_eq_true, Bool.or_eq_true, decide_eq_true_eq]
    omega
  · rw [ofDays_eq, hcycle]

/-- The date of a day exists. -/
theorem isValid_ofDays (days : Int) : (ofDays days).isValid = true := by
  obtain ⟨cycle, year, day, -, -, -, hday0, hday, hleap, hdate⟩ := exists_ofDays days
  obtain ⟨hmonth0, hmonth11, hbefore⟩ := monthOfYear_spec hday0 hday
  obtain ⟨hcalendar1, hcalendar12, -⟩ := calendarMonth_spec hmonth0 hmonth11
  rw [hdate]
  generalize hyear : (year + cycle * 400 + if calendarMonth (monthOfYear day) ≤ 2 then 1 else 0 :
    Int) = calendarYear
  have hlength : day - daysBeforeMonth (monthOfYear day) + 1 ≤
      monthLength calendarYear (calendarMonth (monthOfYear day)).toNat := by
    refine day_le_monthLength hday0 hday fun hlast => ?_
    -- Day 365 is in February, so it is in the calendar year that follows.
    have hfebruary : calendarMonth (monthOfYear day) = 2 := by rw [hlast]; rfl
    rw [← hyear, hfebruary]
    exact hleap hlast
  simp only [isValid, Bool.and_eq_true, decide_eq_true_eq]
  omega

/-- The date of a day is the date of that day. -/
theorem toDays_ofDays (days : Int) : (ofDays days).toDays = days := by
  obtain ⟨cycle, year, day, hdays, hyear0, hyear, hday0, hday, -, hdate⟩ := exists_ofDays days
  obtain ⟨hmonth0, hmonth11, hbefore⟩ := monthOfYear_spec hday0 hday
  obtain ⟨hcalendar1, -, hcalendar⟩ := calendarMonth_spec hmonth0 hmonth11
  generalize monthOfYear day = month at hdate hmonth0 hmonth11 hbefore hcalendar hcalendar1
  generalize hm : calendarMonth month = m at hdate hcalendar hcalendar1
  -- The year from March, and the month from March, are found again.
  have hback : (if m.toNat ≤ 2 then (year + cycle * 400 + if m ≤ 2 then 1 else 0) - 1
      else year + cycle * 400 + if m ≤ 2 then 1 else 0) = year + cycle * 400 := by
    by_cases hsmall : m ≤ 2
    · rw [if_pos hsmall, if_pos (by omega)]
      omega
    · rw [if_neg hsmall, if_neg (by omega)]
      omega
  have hmonth : (((m.toNat + 9) % 12 : Nat) : Int) = month := by omega
  rw [hdate, toDays]
  simp only [hback, hmonth]
  rw [hdays]
  simp only [daysBefore, daysBeforeMonth] at hbefore ⊢
  omega

end SourceAudit.Date

/-! ## Instants are read back -/

namespace SourceAudit.Instant

open Reader Text

/-- The instant is one that a clock can show: it is within a day, its year is within the calendar,
and nanoseconds beyond a second are those of a leap second, which is the last one of its minute. -/
structure IsValid (t : Instant) : Prop where
  second : t.second < 86400
  nano : t.nano < 1000000000 ∨ t.nano < 2000000000 ∧ t.second % 60 = 59
  year : isYear (Date.ofDays t.day).year = true

instance (t : Instant) : Decidable t.IsValid :=
  decidable_of_iff (t.second < 86400 ∧
      (t.nano < 1000000000 ∨ t.nano < 2000000000 ∧ t.second % 60 = 59) ∧
      isYear (Date.ofDays t.day).year = true)
    ⟨fun h => ⟨h.1, h.2.1, h.2.2⟩, fun h => ⟨h.second, h.nano, h.year⟩⟩

variable {rest s : List Char}

/-! ### Gaps and numbers -/

/-- A digit is no white space. -/
theorem isBlank_of_isDigit {c : Char} (h : c.isDigit = true) : isBlank c = false := by
  have hall : ∀ i : Fin 10, isBlank (Char.ofNat (48 + i)) = false := by decide
  have hrange : 48 ≤ c.toNat ∧ c.toNat ≤ 57 := by
    simpa [Char.isDigit, UInt32.le_iff_toNat_le] using h
  have hc := hall ⟨c.toNat - 48, by omega⟩
  have hnat : 48 + (c.toNat - 48) = c.toNat := by omega
  rwa [hnat, Char.ofNat_toNat] at hc

/-- Where there is no white space, there is no gap. -/
theorem gap_of_tight (h : ∀ c ∈ s.head?, isBlank c = false) : gap s = some ((), s) := by
  have hnothing : takeWhile isBlank s = some ([], s) := takeWhile_append (List.forall_mem_nil _) h
  rw [gap, bind_of_eq hnothing]
  rfl

/-- A number is read back from as many digits as it may have. -/
theorem digitsUpTo_append {width : Nat} {digits : List Char} (hlength : digits.length = width)
    (hne : digits ≠ []) (hdigits : ∀ c ∈ digits, c.isDigit = true) :
    digitsUpTo width (digits ++ rest) = some (natOfDigits 10 digits, rest) := by
  have hgap : gap (digits ++ rest) = some ((), digits ++ rest) := by
    refine gap_of_tight fun c hc => ?_
    rw [List.head?_append, Option.or_of_isSome (by simpa using hne)] at hc
    exact isBlank_of_isDigit (hdigits c (List.mem_of_mem_head? hc))
  have hall : digits.takeWhile Char.isDigit = digits := by
    have h : (digits ++ []).takeWhile Char.isDigit = digits ++ [].takeWhile Char.isDigit :=
      List.takeWhile_append_of_pos hdigits
    simpa using h
  have htake : digitsUpTo.takeWithin width (digits ++ rest) = some (digits, rest) := by
    simp only [digitsUpTo.takeWithin, ← hlength, List.take_left, hall, List.drop_left]
  have hfull : digits.isEmpty = false := by simpa using hne
  rw [digitsUpTo, bind_of_eq hgap, bind_of_eq htake, hfull]
  rfl

theorem digitsUpTo_decimalPadded {width n : Nat} (hpos : 0 < width) (h : n < 10 ^ width) :
    digitsUpTo width (decimalPadded width n ++ rest) = some (n, rest) := by
  rw [digitsUpTo_append (length_decimalPadded hpos h) (decimalPadded_ne_nil width n)
    fun c hc => isDigit_of_mem_decimalPadded hc, natOfDigits_decimalPadded]

theorem divider_cons {c : Char} (h : isBlank c = false) (rest : List Char) :
    divider c (c :: rest) = some ((), rest) := by
  rw [divider, bind_of_eq (gap_of_tight (by rintro d ⟨⟩; exact h)), char_cons]

/-! ### Parts -/

/-- A year without a sign is the number of its digits. -/
theorem year_cons_of_isDigit {c : Char} (hc : c.isDigit = true) {n : Nat}
    (h : digitsUpTo 4 (c :: s) = some (n, rest)) : year (c :: s) = some ((n : Int), rest) := by
  have htight : gap (c :: s) = some ((), c :: s) :=
    gap_of_tight (by rintro d ⟨⟩; exact isBlank_of_isDigit hc)
  have hread : (Nat.cast <$> digitsUpTo 4 : Reader Int) (c :: s) = some ((n : Int), rest) :=
    map_of_eq h
  rw [year, bind_of_eq htight, bind_of_eq (a := some c) rfl, ← hread]
  refine congrFun (g := Nat.cast <$> digitsUpTo 4) ?_ _
  split
  next hsign => cases hsign; exact absurd hc (by decide)
  next hsign => cases hsign; exact absurd hc (by decide)
  next => rfl

/-- A year is read back in front of anything but a digit. -/
theorem year_append (y : Int) (hrest : ∀ c ∈ rest.head?, c.isDigit = false) :
    year (yearText y ++ rest) = some (y, rest) := by
  rw [yearText]
  split
  next hshort =>
    have hdigits : digitsUpTo 4 (decimalPadded 4 y.toNat ++ rest) = some (y.toNat, rest) :=
      digitsUpTo_decimalPadded (by omega) (by omega)
    obtain ⟨c, digits, heq⟩ := List.exists_cons_of_ne_nil (decimalPadded_ne_nil 4 y.toNat)
    have hc : c.isDigit = true :=
      isDigit_of_mem_decimalPadded (heq ▸ List.mem_cons_self : c ∈ decimalPadded 4 y.toNat)
    rw [heq, List.cons_append] at hdigits ⊢
    rw [year_cons_of_isDigit hc hdigits, Int.toNat_of_nonneg hshort.1]
  next hlong =>
    have hdigits : takeWhile1 Char.isDigit (decimalPadded 4 y.natAbs ++ rest) =
        some (decimalPadded 4 y.natAbs, rest) :=
      takeWhile1_append (decimalPadded_ne_nil 4 y.natAbs)
        (fun c hc => isDigit_of_mem_decimalPadded hc) hrest
    by_cases hneg : y < 0
    · have hminus (s : List Char) : year ('-' :: s) =
          (do pure (-(natOfDigits 10 (← takeWhile1 Char.isDigit) : Int)) : Reader Int) s := rfl
      rw [if_pos hneg, List.cons_append, hminus, bind_of_eq hdigits, pure_apply,
        natOfDigits_decimalPadded, Int.ofNat_natAbs_of_nonpos (by omega), Int.neg_neg]
    · have hplus (s : List Char) : year ('+' :: s) =
          (do pure (natOfDigits 10 (← takeWhile1 Char.isDigit) : Int) : Reader Int) s := rfl
      rw [if_neg hneg, List.cons_append, hplus, bind_of_eq hdigits, pure_apply,
        natOfDigits_decimalPadded, Int.natAbs_of_nonneg (by omega)]

/-- Up to nine digits of a fraction are read back. -/
theorem fraction_append {width n : Nat} (hpos : 0 < width) (hwidth : width ≤ 9)
    (hn : n < 10 ^ width) (hrest : ∀ c ∈ rest.head?, c.isDigit = false) :
    fraction ('.' :: decimalPadded width n ++ rest) = some (n * 10 ^ (9 - width), rest) := by
  have hdigits : takeWhile1 Char.isDigit (decimalPadded width n ++ rest) =
      some (decimalPadded width n, rest) :=
    takeWhile1_append (decimalPadded_ne_nil width n) (fun c hc => isDigit_of_mem_decimalPadded hc)
      hrest
  have hlength := length_decimalPadded hpos hn
  have hkept : (decimalPadded width n).take 9 = decimalPadded width n :=
    List.take_of_length_le (by omega)
  rw [fraction, List.cons_append, bind_of_eq (char_cons _ _), bind_of_eq hdigits, hkept,
    natOfDigits_decimalPadded, hlength]
  rfl

/-- The fraction of a second is read back, and where there is none it counts as zero. -/
theorem maybe_fraction_append (t : Instant) (hdigit : ∀ c ∈ rest.head?, c.isDigit = false)
    (hpoint : rest.head? ≠ some '.') :
    ∃ nano, maybe fraction (t.fractionText ++ rest) = some (nano, rest) ∧
      nano.getD 0 = t.nano % 1000000000 := by
  have hlt : t.nano % 1000000000 < 1000000000 := Nat.mod_lt _ (by omega)
  rw [fractionText]
  generalize t.nano % 1000000000 = n at hlt ⊢
  split
  next hzero =>
    have hnone : fraction rest = none := by rw [fraction, bind_of_eq_none (char_eq_none hpoint)]
    exact ⟨none, maybe_of_eq_none hnone, hzero.symm⟩
  next =>
  split
  next hthree =>
    have h := maybe_of_eq (fraction_append (n := n / 1000000) (by omega)
      (by omega : 3 ≤ 9) (by omega) hdigit)
    exact ⟨_, h, by simp only [Option.getD_some]; omega⟩
  next =>
  split
  next hsix =>
    have h := maybe_of_eq (fraction_append (n := n / 1000) (by omega)
      (by omega : 6 ≤ 9) (by omega) hdigit)
    exact ⟨_, h, by simp only [Option.getD_some]; omega⟩
  next =>
    have h := maybe_of_eq (fraction_append (n := n) (by omega) (by omega : 9 ≤ 9)
      (by omega) hdigit)
    exact ⟨_, h, by simp only [Option.getD_some]; omega⟩

theorem zone_utc : zone ['Z'] = some (0, []) := by decide

/-! ### Instants -/

/-- An instant that a clock can show is read back from its text in records. -/
theorem parse?_render {t : Instant} (h : t.IsValid) : parse? t.render = some t := by
  obtain ⟨nano, hnano, hvalue⟩ : ∃ nano,
      maybe fraction (t.fractionText ++ ['Z']) = some (nano, ['Z']) ∧
        nano.getD 0 = t.nano % 1000000000 :=
    maybe_fraction_append t (by rintro c ⟨⟩; rfl) (by decide)
  have hvalid := Date.isValid_ofDays t.day
  have hdays := Date.toDays_ofDays t.day
  have hyear := h.year
  have hsecond := h.second
  generalize hd : Date.ofDays t.day = d at hvalid hdays hyear
  have hparts := hvalid
  simp only [Date.isValid, Bool.and_eq_true, decide_eq_true_eq] at hparts
  have hlength : Date.monthLength d.year d.month ≤ 31 := Date.monthLength_le d.year d.month
  have hlast : t.second % 60 + t.nano / 1000000000 ≤ 60 := by
    have hnano := h.nano
    omega
  have htext : t.render.toList = yearText d.year ++ '-' :: (decimalPadded 2 d.month ++
      '-' :: (decimalPadded 2 d.day ++ 'T' :: (decimalPadded 2 (t.second / 3600) ++
      ':' :: (decimalPadded 2 (t.second / 60 % 60) ++
      ':' :: (decimalPadded 2 (t.second % 60 + t.nano / 1000000000) ++
      (t.fractionText ++ ['Z'])))))) := by
    simp [render, textWith, dateText, timeText, hd]
  have hread : read t.render.toList = some (t, []) := by
    rw [htext, read, bind_of_eq (year_append _ (by rintro c ⟨⟩; rfl)),
      bind_of_eq (divider_cons (by decide) _),
      bind_of_eq (digitsUpTo_decimalPadded (by omega) (by omega)),
      bind_of_eq (divider_cons (by decide) _),
      bind_of_eq (digitsUpTo_decimalPadded (by omega) (by omega)),
      bind_of_eq (satisfy_cons (by decide)),
      bind_of_eq (digitsUpTo_decimalPadded (by omega) (by omega)),
      bind_of_eq (divider_cons (by decide) _),
      bind_of_eq (digitsUpTo_decimalPadded (by omega) (by omega)),
      bind_of_eq (divider_cons (by decide) _),
      bind_of_eq (digitsUpTo_decimalPadded (by omega) (by omega)),
      bind_of_eq hnano, bind_of_eq (gap_of_tight (by rintro c ⟨⟩; rfl)), bind_of_eq zone_utc,
      bind_of_eq (gap_of_tight (by rintro c ⟨⟩))]
    have hchecks : (d.isValid && isYear d.year && decide (t.second / 3600 < 24) &&
        decide (t.second / 60 % 60 < 60) &&
        decide (t.second % 60 + t.nano / 1000000000 ≤ 60)) = true := by
      simp only [hvalid, hyear, Bool.and_eq_true, decide_eq_true_eq, true_and]
      omega
    have hminutes : t.day * 1440 + ((t.second / 3600 * 60 + t.second / 60 % 60 : Nat) : Int) - 0 =
        t.day * 1440 + (t.second / 60 : Nat) := by omega
    have hday : (t.day * 1440 + ((t.second / 60 : Nat) : Int)) / 1440 = t.day := by omega
    have hminute : ((t.day * 1440 + ((t.second / 60 : Nat) : Int)) % 1440).toNat * 60 =
        t.second / 60 * 60 := by omega
    -- The second is the sixtieth exactly where the nanoseconds are those of a leap second.
    obtain ⟨hsixty, hleft⟩ : t.second / 60 * 60 + (t.second % 60 + t.nano / 1000000000 -
          if t.second % 60 + t.nano / 1000000000 = 60 then 1 else 0) = t.second ∧
        t.nano % 1000000000 + (if t.second % 60 + t.nano / 1000000000 = 60 then 1 else 0) *
          1000000000 = t.nano := by
      have hnano := h.nano
      split <;> omega
    rw [if_pos hchecks]
    simp only [hdays, hminutes, hday, hd, hyear, hminute, hvalue, hsixty, hleft, if_true]
    rfl
  rw [parse?, all, hread]

end SourceAudit.Instant
