import SurveyGate.Proofs.Text.Digits
import SurveyGate.Proofs.Text.Trim
import SurveyGate.Proofs.Time.Calendar
import SurveyGate.Time.Rfc3339

/-!
# `SurveyGate.Proofs.Time.Rfc3339`: the text of an instant reads back

Each reader takes back what its writer wrote and leaves what follows: numbers (`number?_digits`),
dates (`date?_text`), the fraction (`fraction?_text`) and the clock (`clock?_clockText`). Together
they read an instant back from its text (`parse?_rfc3339`), unless it is a leap second that does not
end a minute: then the text is that of another instant. No text is read as a leap second of that
kind (`writable_of_parse?`), whatever offset or spelling it has, so an instant that was read once is
read back ever after.
-/

set_option autoImplicit false

namespace SurveyGate

open SurveyGate.Text

namespace Instant

variable {cs ds rest : List Char} {c : Char} {width n : Nat}

/-! ### Numbers -/

/-- Digits are read up to the width or up to what is not a digit. -/
theorem number?_digits (hne : ds ≠ []) (hds : ∀ c ∈ ds, isDigit c = true)
    (hwidth : ds.length ≤ width)
    (hstop : ds.length = width ∨ ∀ c, rest.head? = some c → isDigit c = false) :
    number? width (ds ++ rest) = some (ofDigits ds, rest) := by
  have hdigits : ((ds ++ rest).take width).takeWhile isDigit = ds := by
    rw [List.take_append, List.take_of_length_le hwidth, List.takeWhile_append_of_pos hds,
      takeWhile_isDigit_of_front, List.append_nil]
    -- Behind the digits nothing is taken, or something that is no digit.
    intro c hc
    rw [List.head?_take] at hc
    split at hc
    · cases hc
    · rename_i hmore
      exact hstop.resolve_left (by omega) c hc
  have hnonempty : ds.isEmpty = false := List.isEmpty_eq_false_iff.2 hne
  simp only [number?, hdigits, hnonempty, Bool.false_eq_true, if_false, List.drop_left]

/-- A padded number is read up to its width, whatever follows. -/
theorem number?_padded (hwidth : 0 < width) (h : n < 10 ^ width) :
    number? width (padded width n ++ rest) = some (n, rest) := by
  have hlength := length_padded hwidth h
  rw [number?_digits (padded_ne_nil width n) (fun _ => isDigit_of_mem_padded) hlength.le
    (.inl hlength), ofDigits_padded]

/-- No blank stands in front of a number. -/
theorem trimLeft_padded (width n : Nat) (rest : List Char) :
    trimLeft (padded width n ++ rest) = padded width n ++ rest := by
  refine trimLeft_of_front fun c hc => isBlank_of_isDigit ?_
  rw [List.head?_append_of_ne_nil _ (padded_ne_nil width n)] at hc
  exact isDigit_of_mem_padded (List.mem_of_head? hc)

/-- A character that is expected is read. -/
theorem literal?_cons (hc : isBlank c = false) : literal? c (c :: rest) = some rest := by
  have hfront : trimLeft (c :: rest) = c :: rest :=
    List.dropWhile_cons_of_neg (by simp [hc])
  simp [literal?, hfront]

/-! ### Dates -/

/-- A year that begins with a digit has no sign. -/
theorem year?_of_isDigit (hc : isDigit c = true) :
    year? (c :: cs) = (number? 4 (c :: cs)).map fun (n, rest) => ((n : Int), rest) := by
  unfold year?
  split
  · rename_i heq
    obtain ⟨rfl, -⟩ := List.cons.inj heq
    cases hc
  · rename_i heq
    obtain ⟨rfl, -⟩ := List.cons.inj heq
    cases hc
  · rfl

/-- A number of any length is read up to the dash behind it. -/
theorem number?_to_dash (width n : Nat) (rest : List Char) :
    number? (padded width n ++ '-' :: rest).length (padded width n ++ '-' :: rest) =
      some (n, '-' :: rest) := by
  have hlength : (padded width n).length ≤ (padded width n ++ '-' :: rest).length := by
    rw [List.length_append]
    omega
  have hdash : ∀ c, ('-' :: rest).head? = some c → isDigit c = false := fun c hc => by
    obtain rfl := Option.some.inj hc
    rfl
  rw [number?_digits (padded_ne_nil width n) (fun _ => isDigit_of_mem_padded) hlength
    (.inr hdash), ofDigits_padded]

/-- Years read back, with or without a sign. -/
theorem year?_yearText (year : Int) :
    year? (yearText year ++ '-' :: rest) = some (year, '-' :: rest) := by
  unfold yearText
  split
  · -- Four digits stand without a sign, and no digit is taken for one.
    rename_i hfour
    obtain ⟨c, cs, hcs⟩ := List.exists_cons_of_ne_nil (padded_ne_nil 4 year.toNat)
    have hc : isDigit c = true := isDigit_of_mem_padded (hcs ▸ List.mem_cons_self)
    rw [hcs, List.cons_append, year?_of_isDigit hc, ← List.cons_append, ← hcs,
      number?_padded (by decide) (by omega)]
    simp only [Option.map_some, Int.toNat_of_nonneg hfour.1]
  · split
    · rename_i hpos
      simp only [List.cons_append, year?, number?_to_dash, Option.map_some,
        Int.toNat_of_nonneg hpos]
    · rename_i hneg
      have hsize : (((-year).toNat : Nat) : Int) = -year := Int.toNat_of_nonneg (by omega)
      simp only [List.cons_append, year?, number?_to_dash, Option.map_some, hsize, Int.neg_neg]

/-- A year does not begin with a blank. -/
theorem trimLeft_yearText (year : Int) (rest : List Char) :
    trimLeft (yearText year ++ rest) = yearText year ++ rest := by
  unfold yearText
  split
  · exact trimLeft_padded 4 year.toNat rest
  · split
    · exact List.dropWhile_cons_of_neg (by decide)
    · exact List.dropWhile_cons_of_neg (by decide)

/-- A date of the calendar reads back, if its year is on the clock. -/
theorem date?_text {d : Date} (hvalid : d.isValid = true) (hfirst : -262143 ≤ d.year)
    (hlast : d.year ≤ 262142) : date? (d.text ++ rest) = some (d, rest) := by
  have hmonth : d.month < 10 ^ 2 := by
    have := (d.isValid_iff.1 hvalid).1
    omega
  have hday : d.day < 10 ^ 2 := by
    have hle := (d.isValid_iff.1 hvalid).2
    have hdays := Date.daysInMonth_le d.year d.month
    omega
  have htext : d.text ++ rest =
      yearText d.year ++ '-' :: (padded 2 d.month ++ '-' :: (padded 2 d.day ++ rest)) := by
    simp [Date.text]
  have hdash : isBlank '-' = false := by decide
  simp only [date?, htext, trimLeft_yearText, year?_yearText, literal?_cons hdash, trimLeft_padded,
    number?_padded (Nat.succ_pos 1) hmonth, number?_padded (Nat.succ_pos 1) hday,
    Option.bind_eq_bind, Option.bind_some]
  simp [hvalid, hfirst, hlast]

/-! ### The clock -/

/-- What ends a fraction: neither a digit nor a point. -/
def EndsFraction (rest : List Char) : Prop :=
  ∀ c, rest.head? = some c → isDigit c = false ∧ c ≠ '.'

/-- A fraction of nine digits at most is read as nanoseconds. -/
theorem fraction?_digits (hne : ds ≠ []) (hds : ∀ c ∈ ds, isDigit c = true)
    (hlength : ds.length ≤ 9) (hrest : EndsFraction rest) :
    fraction? ('.' :: ds ++ rest) = some (ofDigits ds * 10 ^ (9 - ds.length), rest) := by
  have hspan := spanDigits_append hds fun c hc => (hrest c hc).1
  have hnonempty : ds.isEmpty = false := List.isEmpty_eq_false_iff.2 hne
  simp only [List.cons_append, fraction?, hspan, List.take_of_length_le hlength, hnonempty,
    Bool.false_eq_true, if_false]
  rfl

/-- A fraction of so many digits reads back, the digits that are left out as zeros. -/
theorem fraction?_padded {nano : Nat} (hwidth : 0 < width) (hwidth' : width ≤ 9)
    (h : n < 10 ^ width) (hnano : n * 10 ^ (9 - width) = nano) (hrest : EndsFraction rest) :
    fraction? ('.' :: padded width n ++ rest) = some (nano, rest) := by
  have hlength := length_padded hwidth h
  rw [fraction?_digits (padded_ne_nil width n) (fun _ => isDigit_of_mem_padded)
    (hlength.trans_le hwidth') hrest, ofDigits_padded, hlength, hnano]

/-- Where no fraction follows there are no nanoseconds. -/
theorem fraction?_none (hrest : EndsFraction rest) : fraction? rest = some (0, rest) := by
  unfold fraction?
  split
  · rename_i r
    exact absurd rfl (hrest '.' rfl).2
  · rfl

/-- The nanoseconds of a second read back from as few digits as are exact. -/
theorem fraction?_text (h : n < nanosPerSecond) (hrest : EndsFraction rest) :
    fraction? (fractionText n ++ rest) = some (n, rest) := by
  unfold nanosPerSecond at h
  unfold fractionText
  split
  · rename_i hzero
    rw [List.nil_append, fraction?_none hrest, hzero]
  · split
    · exact fraction?_padded (by decide) (by decide) (by omega) (by omega) hrest
    · split
      · exact fraction?_padded (by decide) (by decide) (by omega) (by omega) hrest
      · exact fraction?_padded (by decide) (by decide) (by omega) (by omega) hrest

/-- Hours, minutes and seconds read back, the second 60 as the leap second after second 59. -/
theorem clock?_padded {hour minute second nano : Nat} (hhour : hour ≤ 23) (hminute : minute ≤ 59)
    (hsecond : second ≤ 60) (hnano : nano < nanosPerSecond) (hrest : EndsFraction rest) :
    clock? (padded 2 hour ++ ':' :: padded 2 minute ++ ':' :: padded 2 second
        ++ fractionText nano ++ rest) =
      if second = 60 then some (hour * 3600 + minute * 60 + 59, nanosPerSecond + nano, rest)
      else some (hour * 3600 + minute * 60 + second, nano, rest) := by
  have hcolon : isBlank ':' = false := by decide
  have hwidth : 0 < 2 := Nat.succ_pos 1
  have hhour' : hour < 10 ^ 2 := by omega
  have hminute' : minute < 10 ^ 2 := by omega
  have hsecond' : second < 10 ^ 2 := by omega
  have hrange : (decide (23 < hour) || decide (59 < minute) || decide (60 < second)) = false := by
    simp only [Bool.or_eq_false_iff, decide_eq_false_iff_not]
    omega
  simp only [clock?, List.append_assoc, List.cons_append, trimLeft_padded,
    number?_padded hwidth hhour', number?_padded hwidth hminute', number?_padded hwidth hsecond',
    literal?_cons hcolon, fraction?_text hnano hrest, Option.bind_eq_bind, Option.bind_some, hrange,
    Bool.false_eq_true, if_false]

/-- An instant whose text is its own. A leap second has to be the last second of a minute, since
only there a second 60 is written. -/
def Writable (t : Instant) : Prop := t.isLeap = true → t.second % 60 = 59

/-- The time of day of an instant reads back as its second of the day and its nanoseconds. -/
theorem clock?_clockText {t : Instant} (h : t.Writable) (hrest : EndsFraction rest) :
    clock? (t.clockText ++ rest) = some ((t.second % 86400).toNat, t.nano, rest) := by
  have hnano := t.nano_lt
  have hday : (t.second % 86400).toNat < 86400 := by omega
  unfold clockText
  dsimp only
  cases hleap : t.isLeap with
  | true =>
    -- The second is written as 60.
    have hfull : nanosPerSecond ≤ t.nano := of_decide_eq_true hleap
    have hlast : (t.second % 86400).toNat % 60 = 59 := by
      have := h hleap
      omega
    generalize (t.second % 86400).toNat = second at hday hlast ⊢
    have hparts : second / 3600 * 3600 + second / 60 % 60 * 60 + 59 = second := by omega
    simp only [if_true, Nat.one_mul]
    rw [clock?_padded (by omega) (by omega) (by omega) (by omega) hrest, if_pos (by omega), hparts,
      Nat.add_sub_cancel' hfull]
  | false =>
    have hpart : t.nano < nanosPerSecond := by simpa [isLeap] using hleap
    generalize (t.second % 86400).toNat = second at hday ⊢
    have hparts : second / 3600 * 3600 + second / 60 % 60 * 60 + second % 60 = second := by omega
    simp only [Bool.false_eq_true, if_false, Nat.zero_mul, Nat.sub_zero, Nat.add_zero]
    rw [clock?_padded (by omega) (by omega) (by omega) hpart hrest, if_neg (by omega), hparts]

/-! ### Instants -/

/-- The dates of the clock lie in the years that are read. -/
theorem year_date_range (t : Instant) : -262143 ≤ t.date.year ∧ t.date.year ≤ 262142 := by
  have hfirst := t.minSecond_le
  have hlast := t.le_maxSecond
  unfold minSecond at hfirst
  unfold maxSecond at hlast
  have hfirstDay : Date.toDays ⟨-262143, 1, 1⟩ = -96465292 := by decide
  have hlastDay : Date.toDays ⟨262143, 1, 1⟩ = 95026237 := by decide
  have hfrom := Date.le_year_ofDays_iff (-262143) (t.second / 86400)
  have hto := Date.le_year_ofDays_iff 262143 (t.second / 86400)
  rw [hfirstDay] at hfrom
  rw [hlastDay] at hto
  unfold date
  omega

/-- The text of an instant reads back, if its second has one. -/
theorem parse?_rfc3339 {t : Instant} (h : t.Writable) : parse? t.rfc3339 = some t := by
  obtain ⟨hfirst, hlast⟩ := t.year_date_range
  have hvalid : t.date.isValid = true := Date.isValid_ofDays _
  have hzone : EndsFraction ['Z'] := fun c hc => by
    obtain rfl := Option.some.inj hc
    decide
  have hdays : t.date.toDays * 86400 + ((t.second % 86400).toNat : Int) = t.second := by
    rw [date, Date.toDays_ofDays]
    omega
  have htext : t.rfc3339.toList = t.date.text ++ 'T' :: (t.clockText ++ ['Z']) := by
    simp [rfc3339, rfc3339With]
  have hreading : ofReading? t.second t.nano = some t :=
    dif_pos ⟨⟨t.minSecond_le, t.le_maxSecond⟩, t.nano_lt⟩
  simp only [parse?, htext, date?_text hvalid hfirst hlast, clock?_clockText h hzone,
    Option.bind_eq_bind, Option.bind_some]
  have hoffset : offset? (trimLeft ['Z']) = some (0, []) := by decide
  simp only [hoffset, Option.bind_some]
  rw [if_pos (by decide), if_pos (by decide), Int.sub_zero, hdays, hreading]

/-! ### What is read -/

/-- A fraction is less than a second. -/
theorem fraction?_lt {nano : Nat} (h : fraction? cs = some (nano, rest)) :
    nano < nanosPerSecond := by
  unfold fraction? at h
  split at h
  · rename_i r
    dsimp only at h
    split at h
    · cases h
    · obtain ⟨rfl, -⟩ := Prod.mk.inj (Option.some.inj h)
      have hdigits : ∀ c ∈ (spanDigits r).1.take 9, isDigit c = true := fun c hc =>
        List.all_eq_true.1 List.all_takeWhile c (List.mem_of_mem_take hc)
      have hkept := (spanDigits r).1.length_take_le 9
      generalize (spanDigits r).1.take 9 = kept at hdigits hkept
      -- The digits that are not there stand for zeros.
      calc ofDigits kept * 10 ^ (9 - kept.length)
          < 10 ^ kept.length * 10 ^ (9 - kept.length) :=
            Nat.mul_lt_mul_of_pos_right (ofDigits_lt_pow hdigits) (Nat.pow_pos (by decide))
        _ = nanosPerSecond := by
            rw [← Nat.pow_add, Nat.add_sub_cancel' hkept]
            rfl
  · obtain ⟨rfl, -⟩ := Prod.mk.inj (Option.some.inj h)
    decide

/-- Nanoseconds of a second and more are read in a leap second only, the last one of a minute. -/
theorem clock?_leap {second nano : Nat} (h : clock? cs = some (second, nano, rest))
    (hleap : nanosPerSecond ≤ nano) : second % 60 = 59 := by
  simp only [clock?, Option.bind_eq_bind, Option.bind_eq_some_iff] at h
  obtain ⟨⟨hour, _⟩, -, _, -, ⟨minute, _⟩, -, _, -, ⟨s, _⟩, -, ⟨fraction, _⟩, hfraction, h⟩ := h
  have hpart := fraction?_lt hfraction
  dsimp only at h
  split at h
  · cases h
  · split at h
    · obtain ⟨rfl, -⟩ := Prod.mk.inj (Option.some.inj h)
      omega
    · -- Outside a leap second the nanoseconds are those of the fraction.
      simp only [Option.some.injEq, Prod.mk.injEq] at h
      omega

/-- An offset is one of whole minutes. -/
theorem offsetClock?_mod {seconds : Nat} (h : offsetClock? cs = some (seconds, rest)) :
    seconds % 60 = 0 := by
  unfold offsetClock? at h
  split at h
  · split at h
    · split at h
      · obtain ⟨rfl, -⟩ := Prod.mk.inj (Option.some.inj h)
        omega
      · cases h
    · cases h
  · cases h

/-- Offsets are whole minutes. -/
theorem offset?_mod {offset : Int} (h : offset? cs = some (offset, rest)) : offset % 60 = 0 := by
  unfold offset? at h
  split at h
  · cases h
  · split at h
    · obtain ⟨rfl, -⟩ := Prod.mk.inj (Option.some.inj h)
      rfl
    · split at h
      · obtain ⟨rfl, -⟩ := Prod.mk.inj (Option.some.inj h)
        rfl
      · split at h
        · obtain ⟨⟨seconds, r⟩, hseconds, h⟩ := Option.bind_eq_some_iff.1 h
          have hminutes := offsetClock?_mod hseconds
          dsimp only at h
          split at h
          · obtain ⟨rfl, -⟩ := Prod.mk.inj (Option.some.inj h)
            split <;> omega
          · cases h
        · cases h

/-- A reading becomes an instant with its second and its nanoseconds. -/
theorem of_ofReading? {second : Int} {nano : Nat} {t : Instant}
    (h : ofReading? second nano = some t) : t.second = second ∧ t.nano = nano := by
  unfold ofReading? at h
  split at h
  · obtain rfl := Option.some.inj h
    exact ⟨rfl, rfl⟩
  · cases h

/-- An instant is read from the second of a clock, its nanoseconds and whole minutes. -/
theorem exists_clock_of_parse? {s : String} {t : Instant} (h : parse? s = some t) :
    ∃ cs second rest minutes, clock? cs = some (second, t.nano, rest) ∧
      t.second = (second : Int) + minutes * 60 := by
  simp only [parse?, Option.bind_eq_bind, Option.bind_eq_some_iff] at h
  obtain ⟨⟨date, cs⟩, -, h⟩ := h
  dsimp only at h
  split at h
  · split at h
    · simp only [Option.bind_some, Option.bind_eq_some_iff] at h
      obtain ⟨⟨second, nano, rest⟩, hclock, ⟨offset, rest'⟩, hoffset, h⟩ := h
      dsimp only at h
      split at h
      · obtain ⟨hsecond, rfl⟩ := of_ofReading? h
        have hminutes := offset?_mod hoffset
        exact ⟨_, second, rest, date.toDays * 1440 - offset / 60, hclock, by omega⟩
      · cases h
    · cases h
  · cases h

/-- An instant that is read from a text has a text of its own. -/
theorem writable_of_parse? {s : String} {t : Instant} (h : parse? s = some t) : t.Writable := by
  intro hleap
  obtain ⟨cs, second, rest, minutes, hclock, hsecond⟩ := exists_clock_of_parse? h
  have hlast := clock?_leap hclock (of_decide_eq_true hleap)
  omega

/-- Exactly the instants whose second has a text are read back from it. -/
theorem parse?_rfc3339_iff {t : Instant} : parse? t.rfc3339 = some t ↔ t.Writable :=
  ⟨writable_of_parse?, parse?_rfc3339⟩

end Instant

end SurveyGate
