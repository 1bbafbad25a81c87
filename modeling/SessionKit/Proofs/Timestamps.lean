import SessionKit.Proofs.Base64
import SessionKit.Proofs.Calendar
import SessionKit.Proofs.Numerals
import SessionKit.Proofs.Values
import SessionKit.Time.Reader

/-!
# Times in writing

The written form of a point in time is read back as this point in time, in whatever year it lies and
however many digits its fraction has. Not so for leap seconds: each is written as the second that
follows, and read as a leap second only if it is the sixty-first of its minute.
-/

namespace SessionKit

namespace Text

variable {c : Char} {ds : List Char}

theorem skipBlanks_cons (other : isBlank c = false) (cs : List Char) :
    skipBlanks (c :: cs) = c :: cs :=
  List.dropWhile_cons_of_neg (by simp [other])

theorem isBlank_of_isDigit (digit : c.isDigit) : isBlank c = false := by
  have := Numeral.toNat_of_isDigit digit
  simp [isBlank]
  omega

theorem skipBlanks_digits (some : ds ≠ []) (digits : ∀ d ∈ ds, d.isDigit) (rest : List Char) :
    skipBlanks (ds ++ rest) = ds ++ rest := by
  cases ds with
  | nil => exact absurd rfl some
  | cons d ds => exact skipBlanks_cons (isBlank_of_isDigit (digits d (by simp))) _

end Text

namespace Timestamp

variable {c : Char} {cs ds rest : List Char} {n most least width : Nat}

/-! ## Numbers -/

theorem readMore_append (digits : ∀ d ∈ ds, d.isDigit) (few : ds.length ≤ most)
    (fits : Nat.ofDigitChars 10 ds n ≤ Numeral.maxSigned64) (stop : c.isDigit = false) :
    readMore most n (ds ++ c :: rest) = .ok (Nat.ofDigitChars 10 ds n, c :: rest) := by
  induction ds generalizing most n with
  | nil =>
    have other := Numeral.digit?_eq_none stop
    cases most <;> simp [readMore, other]
  | cons d ds ih =>
    obtain ⟨most, rfl⟩ : ∃ m, most = m + 1 :=
      Nat.exists_eq_add_one.mpr (Nat.lt_of_lt_of_le (by simp) few)
    have read := Numeral.digit?_eq_some.mpr ⟨digits d (by simp), rfl⟩
    rw [Nat.ofDigitChars_cons] at fits ⊢
    have within := Nat.le_trans (Numeral.le_ofDigitChars ds _) fits
    simp only [List.cons_append, readMore, read, if_pos within]
    exact ih (fun e mem => digits e (by simp [mem])) (Nat.le_of_succ_le_succ few) fits

theorem readNumber_append (some : ds ≠ []) (digits : ∀ d ∈ ds, d.isDigit)
    (few : ds.length ≤ most) (fits : Nat.ofDigitChars 10 ds 0 ≤ Numeral.maxSigned64)
    (stop : c.isDigit = false) :
    readNumber most (ds ++ c :: rest) = .ok (Nat.ofDigitChars 10 ds 0, c :: rest) := by
  have read : readMore most 0 (ds ++ c :: rest) = .ok (Nat.ofDigitChars 10 ds 0, c :: rest) :=
    readMore_append digits few fits stop
  cases ds with
  | nil => exact absurd rfl some
  | cons d ds =>
    have digit := Numeral.digit?_eq_some.mpr ⟨digits d (by simp), rfl⟩
    rw [List.cons_append] at read ⊢
    rw [readNumber, digit, Option.isSome_some, if_pos rfl, read]

theorem readNumber_writePadded (few : (Numeral.writePadded width n).length ≤ most)
    (fits : n ≤ Numeral.maxSigned64) (stop : c.isDigit = false) :
    readNumber most (Numeral.writePadded width n ++ c :: rest) = .ok (n, c :: rest) := by
  have value : Nat.ofDigitChars 10 (Numeral.writePadded width n) 0 = n :=
    Numeral.ofDigitChars_writePadded
  rw [readNumber_append Numeral.writePadded_ne_nil
    (fun _ => Numeral.isDigit_of_mem_writePadded) few (Nat.le_trans (Nat.le_of_eq value) fits) stop,
    value]

theorem readPart_writePadded (low : least ≤ n) (high : n ≤ most) (small : n < 100)
    (stop : c.isDigit = false) :
    readPart least most (Numeral.writePadded 2 n ++ c :: rest) = .ok (n, c :: rest) := by
  have fits : n ≤ Numeral.maxSigned64 := Nat.le_trans (Nat.le_of_lt small) (by decide)
  have length : (Numeral.writePadded 2 n).length = 2 :=
    Numeral.length_writePadded (by decide) small
  rw [readPart, Text.skipBlanks_digits Numeral.writePadded_ne_nil
    (fun _ => Numeral.isDigit_of_mem_writePadded),
    readNumber_writePadded (Nat.le_of_eq length) fits stop]
  exact if_pos ⟨low, high⟩

theorem readMark_cons (other : Text.isBlank c = false) : readMark c (c :: rest) = .ok rest := by
  simp [readMark, Text.skipBlanks_cons other]

/-! ## Years -/

/-- The years that are read fit 32 bits. -/
def FitsYear (year : Int) : Prop := -(Numeral.twoTo 31 : Int) ≤ year ∧ year < Numeral.twoTo 31

theorem readYear_minus (read : readNumber cs.length cs = .ok (n, rest)) (fits : FitsYear (-n)) :
    readYear ('-' :: cs) = .ok (-n, rest) := by
  rw [readYear, Text.skipBlanks_cons (by decide)]
  refine bind_eq_ok.mpr ⟨(n, rest), read, ?_⟩
  refine bind_eq_ok.mpr ⟨(-n, rest), rfl, ?_⟩
  exact if_pos fits

theorem readYear_plus (read : readNumber cs.length cs = .ok (n, rest)) (fits : FitsYear n) :
    readYear ('+' :: cs) = .ok (n, rest) := by
  rw [readYear, Text.skipBlanks_cons (by decide)]
  refine bind_eq_ok.mpr ⟨(n, rest), read, ?_⟩
  refine bind_eq_ok.mpr ⟨(n, rest), rfl, ?_⟩
  exact if_pos fits

theorem readYear_digit (digit : c.isDigit) (read : readNumber 4 (c :: cs) = .ok (n, rest))
    (fits : FitsYear n) : readYear (c :: cs) = .ok (n, rest) := by
  rw [readYear, Text.skipBlanks_cons (Text.isBlank_of_isDigit digit)]
  split
  next same =>
    obtain ⟨rfl, -⟩ := List.cons.inj same
    cases digit
  next same =>
    obtain ⟨rfl, -⟩ := List.cons.inj same
    cases digit
  next =>
    refine bind_eq_ok.mpr ⟨(n, rest), read, ?_⟩
    refine bind_eq_ok.mpr ⟨(n, rest), rfl, ?_⟩
    exact if_pos fits

theorem hasYear_iff {year : Int} : hasYear year ↔ -262143 ≤ year ∧ year ≤ 262142 := by
  simp [hasYear]

/-- A year is written with a sign, or with four digits. -/
theorem readYear_yearText {year : Int} (years : hasYear year) (stop : c.isDigit = false) :
    readYear (yearText year ++ c :: rest) = .ok (year, c :: rest) := by
  have small : year.natAbs ≤ 262143 := by
    have := hasYear_iff.mp years
    omega
  have fits : year.natAbs ≤ Numeral.maxSigned64 := Nat.le_trans small (by decide)
  have within : FitsYear year := by
    rw [FitsYear, show Numeral.twoTo 31 = 2147483648 by decide]
    omega
  -- Behind a sign there may be as many digits as there are characters.
  have read (width : Nat) :
      let cs := Numeral.writePadded width year.natAbs ++ c :: rest
      readNumber cs.length cs = .ok (year.natAbs, c :: rest) :=
    readNumber_writePadded (by simp) fits stop
  unfold yearText
  split
  next negative =>
    have value : -(year.natAbs : Int) = year := by omega
    rw [← value] at within
    have year := readYear_minus (read 4) within
    rwa [value] at year
  next positive =>
    have value : (year.natAbs : Int) = year := by omega
    rw [← value] at within
    split
    next few =>
      have length : (Numeral.writePadded 4 year.natAbs).length = 4 :=
        Numeral.length_writePadded (by decide) (show year.natAbs < 10000 by omega)
      have read : readNumber 4 (Numeral.writePadded 4 year.natAbs ++ c :: rest) =
          .ok (year.natAbs, c :: rest) :=
        readNumber_writePadded (Nat.le_of_eq length) fits stop
      have digits : ∀ d ∈ Numeral.writePadded 4 year.natAbs, d.isDigit :=
        fun _ => Numeral.isDigit_of_mem_writePadded
      cases written : Numeral.writePadded 4 year.natAbs with
      | nil => exact absurd written Numeral.writePadded_ne_nil
      | cons d ds =>
        rw [written] at read digits
        have year := readYear_digit (digits d (by simp)) read within
        rwa [value] at year
    next many =>
      have bare : Numeral.writePadded 0 year.natAbs = Numeral.write year.natAbs := by
        simp [Numeral.writePadded]
      have year := readYear_plus (read 0) within
      rwa [value, bare] at year

/-! ## Fractions -/

/-- Digits that are missing behind the point are zeros. -/
theorem readFraction_writePadded {nanos : Nat} (pos : 0 < width) (most : width ≤ 9)
    (small : n < Numeral.tenTo width) (value : n * Numeral.tenTo (9 - width) = nanos)
    (stop : c.isDigit = false) :
    readFraction ('.' :: Numeral.writePadded width n ++ c :: rest) = .ok (nanos, c :: rest) := by
  have length := Numeral.length_writePadded pos small
  have fits : n ≤ Numeral.maxSigned64 := by
    have wide : Numeral.tenTo width ≤ Numeral.tenTo 9 := Nat.pow_le_pow_right (by decide) most
    exact Nat.le_trans (Nat.le_of_lt (Nat.lt_of_lt_of_le small wide)) (by decide)
  have few : (Numeral.writePadded width n).length ≤ 9 := Nat.le_trans (Nat.le_of_eq length) most
  have other := Numeral.digit?_eq_none stop
  refine bind_eq_ok.mpr ⟨(n, c :: rest), readNumber_writePadded few fits stop, ?_⟩
  simp [pure, Except.pure, other, length, value]

theorem readFraction_fractionText (small : n < nanosPerSecond) (stop : c.isDigit = false)
    (other : c ≠ '.') : readFraction (fractionText n ++ c :: rest) = .ok (n, c :: rest) := by
  unfold nanosPerSecond at small
  unfold fractionText
  split
  next zero => simp [readFraction, other, zero]
  split
  next millis =>
    exact readFraction_writePadded (by decide) (by decide) (Nat.div_lt_of_lt_mul small)
      (Nat.div_mul_cancel (Nat.dvd_of_mod_eq_zero millis)) stop
  split
  next micros =>
    exact readFraction_writePadded (by decide) (by decide) (Nat.div_lt_of_lt_mul small)
      (Nat.div_mul_cancel (Nat.dvd_of_mod_eq_zero micros)) stop
  next => exact readFraction_writePadded (by decide) (by decide) small (Nat.mul_one n) stop

/-- The digits of the seconds end where the fraction begins. -/
theorem exists_fractionText_append (n : Nat) (stop : c.isDigit = false) (rest : List Char) :
    ∃ d more, fractionText n ++ c :: rest = d :: more ∧ d.isDigit = false := by
  unfold fractionText
  split
  · exact ⟨c, rest, rfl, stop⟩
  split
  · exact ⟨'.', _, rfl, rfl⟩
  split
  · exact ⟨'.', _, rfl, rfl⟩
  · exact ⟨'.', _, rfl, rfl⟩

/-! ## Whole texts -/

/-- The text with these parts, in universal time. -/
def written (date : Date) (hour minute second nanos : Nat) : List Char :=
  yearText date.year ++ '-' :: Numeral.writePadded 2 date.month ++
    '-' :: Numeral.writePadded 2 date.day ++ 'T' :: Numeral.writePadded 2 hour ++
    ':' :: Numeral.writePadded 2 minute ++ ':' :: Numeral.writePadded 2 second ++
    fractionText nanos ++ ['Z']

/-- The parts that are read are those that are written. -/
theorem parse_written {date : Date} {hour minute second nanos : Nat} (valid : date.isValid)
    (years : hasYear date.year) (hours : hour < 24) (minutes : minute < 60) (seconds : second ≤ 60)
    (nanoseconds : nanos < nanosPerSecond) :
    parse (String.ofList (written date hour minute second nanos)) =
      assemble date hour minute second nanos 0 := by
  obtain ⟨month, month', day, day'⟩ := Date.bounds_of_isValid valid
  have part : readPart 0 60 (Numeral.writePadded 2 second ++ (fractionText nanos ++ ['Z'])) =
      .ok (second, fractionText nanos ++ ['Z']) := by
    obtain ⟨d, more, same, stop⟩ := exists_fractionText_append nanos (c := 'Z') rfl []
    rw [same]
    exact readPart_writePadded (Nat.zero_le _) seconds (by omega) stop
  rw [parse, String.toList_ofList]
  simp only [written, List.append_assoc, List.cons_append]
  -- Each part ends at the mark behind it.
  refine (bind_of_eq_ok (readYear_yearText years rfl) _).trans ?_
  refine (bind_of_eq_ok (readMark_cons rfl) _).trans ?_
  refine (bind_of_eq_ok (readPart_writePadded month month' (by omega) rfl) _).trans ?_
  refine (bind_of_eq_ok (readMark_cons rfl) _).trans ?_
  refine (bind_of_eq_ok (readPart_writePadded day day' (by omega) rfl) _).trans ?_
  refine (bind_of_eq_ok (a := _ ++ _) rfl _).trans ?_
  refine (bind_of_eq_ok (readPart_writePadded (Nat.zero_le _) (by omega) (by omega) rfl) _).trans ?_
  refine (bind_of_eq_ok (readMark_cons rfl) _).trans ?_
  refine (bind_of_eq_ok (readPart_writePadded (Nat.zero_le _) (by omega) (by omega) rfl) _).trans ?_
  refine (bind_of_eq_ok (readMark_cons rfl) _).trans ?_
  refine (bind_of_eq_ok part _).trans ?_
  refine (bind_of_eq_ok (readFraction_fractionText nanoseconds rfl (by decide)) _).trans ?_
  rfl

variable {t : Timestamp}

theorem hasYear_date (t : Timestamp) : hasYear t.date.year := by
  obtain ⟨low, high⟩ := t.inRange
  have pos : 0 < secondsPerDay := by decide
  exact hasYear_iff.mpr
    (Date.year_ofDays_bounds (Int.ediv_le_ediv pos low) (Int.ediv_le_ediv pos high))

theorem isValid_date (t : Timestamp) : t.date.isValid := Date.isValid_ofDays _

/-- A point in time is put together from its date and its time of day. -/
theorem assemble_date {hour minute second : Nat} (seconds : second < 60)
    (ofDay : t.secondOfDay = (hour * 3600 + minute * 60 + second : Nat)) :
    assemble t.date hour minute second t.nanos 0 = .ok t := by
  have shown : min second 59 = second := by omega
  have whole : t.date.toDays * secondsPerDay +
      (hour * 3600 + minute * 60 + second : Nat) - 0 = t.seconds := by
    rw [date, Date.toDays_ofDays, ← ofDay, Int.sub_zero]
    exact Int.ediv_mul_add_emod ..
  simp only [assemble]
  rw [if_neg, shown, whole, if_neg (Nat.ne_of_lt seconds), Nat.add_zero, make?_self]
  simp [hasYear_date, isValid_date]
  decide

theorem parse_toText (t : Timestamp) (h : ¬ t.isLeap) : parse t.toText = .ok t := by
  have plain : t.nanos < nanosPerSecond := not_isLeap_iff.mp h
  have low : 0 ≤ t.secondOfDay := Int.emod_nonneg _ (by decide)
  have high : t.secondOfDay < 86400 := Int.emod_lt_of_pos _ (by decide)
  have text : t.toText = String.ofList (written t.date (t.secondOfDay.toNat / 3600)
      (t.secondOfDay.toNat / 60 % 60) (t.secondOfDay.toNat % 60) t.nanos) := by
    simp [toText, dateText, timeText, clockText, written, h, Nat.mod_eq_of_lt plain]
  rw [text, parse_written t.isValid_date t.hasYear_date (by omega) (by omega) (by omega)
    plain, assemble_date (by omega) (by omega)]

/-- A leap second that begins a minute is read as the second that follows. -/
example : parse (toText ⟨0, 1000000000, by decide, by decide⟩) =
    .ok ⟨1, 0, by decide, by decide⟩ := by decide +kernel

end Timestamp
end SessionKit
