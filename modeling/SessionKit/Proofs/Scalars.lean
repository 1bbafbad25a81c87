import SessionKit.Proofs.Numerals
import SessionKit.Proofs.Quotation
import SessionKit.Toml.Reader

/-!
# Values on a line

A value that stands alone on its line is read back from what is written for it. An integer is
neither a date nor a number to another base, and it is given up only if it is too large.
-/

namespace SessionKit.Toml

variable {c : Char} {cs ds rest : List Char} {n : Nat}

/-! ## Integers -/

theorem isDigit_eq (c : Char) : isDigit c = c.isDigit := by
  simp [isDigit, Char.isDigit, Char.le_def, UInt32.le_iff_toNat_le]

theorem readMore_append (digits : ∀ c ∈ ds, c.isDigit) (rest : List Char) :
    readMore isDigit (ds ++ '\n' :: rest) = some (ds, '\n' :: rest) := by
  induction ds with
  | nil => simp [readMore, isDigit]
  | cons d ds ih =>
    have here : d.isDigit := digits d (by simp)
    have later := ih fun c mem => digits c (by simp [mem])
    have other : d ≠ '_' := fun same => by simp [same] at here
    simp [readMore, isDigit_eq, here, later, other]

theorem hexValue?_digit (digit : c.isDigit) : Bytes.hexValue? c = some (c.toNat - '0'.toNat) := by
  simp only [← isDigit_eq, isDigit, Bool.and_eq_true, decide_eq_true_eq] at digit
  simp [Bytes.hexValue?, digit]

theorem digitsValue_eq (digits : ∀ c ∈ ds, c.isDigit) :
    digitsValue 10 ds = Nat.ofDigitChars 10 ds 0 := by
  unfold digitsValue
  rw [Nat.ofDigitChars_eq_foldl]
  refine List.foldl_ext _ _ 0 fun n c mem => ?_
  simp [hexValue?_digit (digits c mem)]

theorem digitsValue_write (n : Nat) : digitsValue 10 (Numeral.write n) = n := by
  rw [digitsValue_eq fun _ => Numeral.isDigit_of_mem_write]
  exact Nat.ofDigitChars_ten_toDigits

/-- The digits that are written for a number: zero alone, or a first digit that is not zero. -/
theorem write_cases (n : Nat) :
    Numeral.write n = ['0'] ∨
      ∃ d ds, Numeral.write n = d :: ds ∧ d.isDigit ∧ d ≠ '0' ∧ ∀ c ∈ ds, c.isDigit := by
  have digits : ∀ c ∈ Numeral.write n, c.isDigit := fun c => Numeral.isDigit_of_mem_write
  cases written : Numeral.write n with
  | nil => exact absurd written Nat.toDigits_ne_nil
  | cons d ds =>
    simp only [written, List.mem_cons, forall_eq_or_imp] at digits
    by_cases zero : d = '0'
    · have none : n = 0 := Numeral.eq_zero_of_head_write (by simp [written, zero])
      subst none
      exact .inl written.symm
    · exact .inr ⟨d, ds, rfl, digits.1, zero, digits.2⟩

theorem readWhole_write (n : Nat) (rest : List Char) :
    readWhole (Numeral.write n ++ '\n' :: rest) = some (Numeral.write n, '\n' :: rest) := by
  obtain written | ⟨d, ds, written, digit, other, digits⟩ := write_cases n
  · simp [written, readWhole]
  · have read := readMore_append digits rest
    simp [written, readWhole, other, readDigits, isDigit_eq, digit, read]

theorem readNumberEnd_write (negative : Bool) (n : Nat) (rest : List Char) :
    readNumberEnd negative (Numeral.write n) ('\n' :: rest) =
      (integer? (if negative then -n else n)).map fun v => (v, '\n' :: rest) := by
  simp only [readNumberEnd, digitsValue_write]
  cases integer? (if negative then -n else n) <;> rfl

/-- Digits are taken neither for a sign or a name nor for the mark of another base. -/
theorem readNumber_write (n : Nat) (rest : List Char) :
    readNumber (Numeral.write n ++ '\n' :: rest) =
        readNumberEnd false (Numeral.write n) ('\n' :: rest) ∧
      readNumber ('-' :: (Numeral.write n ++ '\n' :: rest)) =
        readNumberEnd true (Numeral.write n) ('\n' :: rest) := by
  have whole := readWhole_write n rest
  obtain written | ⟨d, ds, written, digit, other, digits⟩ := write_cases n
  · rw [written] at whole ⊢
    simp only [List.cons_append, List.nil_append] at whole ⊢
    simp [readNumber, readSign, whole]
  · have ne (c : Char) (h : c.isDigit = false) : d ≠ c := fun same => by simp [same, h] at digit
    rw [written] at whole ⊢
    simp only [List.cons_append] at whole ⊢
    simp [readNumber, readSign, whole, other, ne]

theorem readNumber_integerText (i : Int) (rest : List Char) :
    readNumber (integerText i ++ '\n' :: rest) =
      (integer? i).map fun v => (v, '\n' :: rest) := by
  unfold integerText
  split
  next negative =>
    have value : -(i.natAbs : Int) = i := by omega
    simp only [List.cons_append, (readNumber_write i.natAbs rest).2, readNumberEnd_write, if_true,
      value]
  next positive =>
    have value : (i.natAbs : Int) = i := by omega
    simp [(readNumber_write i.natAbs rest).1, readNumberEnd_write, value]

/-- The text is a run of digits up to the end of a line. -/
def EndsInDigits (cs : List Char) : Prop :=
  ∃ ds rest, cs = ds ++ '\n' :: rest ∧ ∀ c ∈ ds, c.isDigit

theorem EndsInDigits.ne_cons (ends : EndsInDigits cs) (other : c.isDigit = false) (h : c ≠ '\n')
    (rest : List Char) : cs ≠ c :: rest := by
  obtain ⟨ds, rest', rfl, digits⟩ := ends
  cases ds with
  | nil => simp [h.symm]
  | cons d ds =>
    have here := digits d (by simp)
    have : d ≠ c := fun same => by simp [same, other] at here
    simp [this]

theorem EndsInDigits.of_twoDigits? (ends : EndsInDigits cs)
    (read : twoDigits? cs = some (n, rest)) : EndsInDigits rest := by
  have none : Numeral.digit? '\n' = none := rfl
  obtain ⟨ds, rest', rfl, digits⟩ := ends
  -- With fewer than two digits the line end would have to be one.
  match ds, digits with
  | [], _ => cases rest' <;> simp [twoDigits?, none] at read
  | [_], _ => simp [twoDigits?, none] at read
  | _ :: _ :: ds, digits =>
    simp only [List.cons_append, twoDigits?, Option.bind_eq_bind, Option.bind_eq_some_iff,
      Option.pure_def, Option.some.injEq, Prod.mk.injEq] at read
    obtain ⟨_, -, _, -, -, rfl⟩ := read
    exact ⟨ds, rest', rfl, fun c mem => digits c (by simp [mem])⟩

theorem EndsInDigits.of_fourDigits? (ends : EndsInDigits cs)
    (read : fourDigits? cs = some (n, rest)) : EndsInDigits rest := by
  simp only [fourDigits?, Option.bind_eq_bind, Option.bind_eq_some_iff, Option.pure_def,
    Option.some.injEq, Prod.mk.injEq] at read
  obtain ⟨⟨_, middle⟩, first, ⟨_, last⟩, second, -, rfl⟩ := read
  exact (ends.of_twoDigits? first).of_twoDigits? second

/-- There is no colon and no hyphen behind the digits. -/
theorem EndsInDigits.not_looksLikeDatetime (ends : EndsInDigits cs) :
    looksLikeDatetime cs = false := by
  unfold looksLikeDatetime
  split
  next more read => exact absurd rfl ((ends.of_twoDigits? read).ne_cons rfl (by decide) more)
  next =>
    split
    next more read => exact absurd rfl ((ends.of_fourDigits? read).ne_cons rfl (by decide) more)
    next => rfl

theorem not_looksLikeDatetime_minus (cs : List Char) : looksLikeDatetime ('-' :: cs) = false := by
  have none : twoDigits? ('-' :: cs) = none := by cases cs <;> rfl
  simp [looksLikeDatetime, fourDigits?, none]

theorem readScalar_integerText (i : Int) (rest : List Char) :
    readScalar (integerText i ++ '\n' :: rest) =
      (integer? i).map fun v => (v, '\n' :: rest) := by
  have digits : EndsInDigits (Numeral.write i.natAbs ++ '\n' :: rest) :=
    ⟨_, rest, rfl, fun _ => Numeral.isDigit_of_mem_write⟩
  have number : looksLikeDatetime (integerText i ++ '\n' :: rest) = false := by
    unfold integerText
    split
    next => exact not_looksLikeDatetime_minus _
    next => exact digits.not_looksLikeDatetime
  simp [readScalar, number, readNumber_integerText]

/-! ## Values -/

/-- What a scalar is read as. -/
def Scalar.value : Scalar → Toml
  | .string s => .string s
  | .integer i => .integer i
  | .boolean b => .boolean b

/-- An integer is not below what 64 bits with a sign can hold. -/
def Scalar.HasFloor : Scalar → Prop
  | .integer i => Numeral.minSigned64 ≤ i
  | _ => True

@[simp] theorem Scalar.hasFloor_natCast (n : Nat) : (integer n).HasFloor := by
  have low : Numeral.minSigned64 ≤ 0 := by decide
  exact Int.le_trans low (Int.natCast_nonneg n)

@[simp] theorem Scalar.hasFloor_toInt (i : Int64) : (integer i.toInt).HasFloor := i.le_toInt

@[simp] theorem Scalar.hasFloor_string (s : String) : (string s).HasFloor := trivial

@[simp] theorem Scalar.hasFloor_boolean (b : Bool) : (boolean b).HasFloor := trivial

theorem readValue_of_readString {s : List Char} (depth : Nat)
    (read : readString cs = some (s, rest)) :
    readValue (depth + 1) cs = some (.string (String.ofList s), rest) := by
  have start : ∃ c more, cs = c :: more ∧ isQuote c = true := by
    unfold readString at read
    split at read
    next => exact ⟨_, _, rfl, by decide⟩
    next => exact ⟨_, _, rfl, by decide⟩
    next => exact ⟨_, _, rfl, by decide⟩
    next => exact ⟨_, _, rfl, by decide⟩
    next => cases read
  obtain ⟨c, more, rfl, quote⟩ := start
  have ne (d : Char) (h : isQuote d = false) : c ≠ d := fun same => by simp [same, h] at quote
  simp [readValue, read, ne, isQuote]

theorem exists_integerText (i : Int) :
    ∃ c cs, integerText i = c :: cs ∧ (c = '-' ∨ c.isDigit) := by
  unfold integerText
  split
  next => exact ⟨'-', _, rfl, .inl rfl⟩
  next =>
    obtain written | ⟨d, ds, written, digit, -, -⟩ := write_cases i.natAbs
    · exact ⟨'0', [], written, .inr rfl⟩
    · exact ⟨d, ds, written, .inr digit⟩

theorem readValue_integer (depth : Nat) (i : Int) (rest : List Char) :
    readValue (depth + 1) (integerText i ++ '\n' :: rest) =
      (integer? i).map fun v => (v, '\n' :: rest) := by
  have scalar := readScalar_integerText i rest
  obtain ⟨c, cs, written, start⟩ := exists_integerText i
  have ne (d : Char) (h : d ≠ '-' ∧ d.isDigit = false) : c ≠ d := by
    intro same
    subst same
    simp [h] at start
  rw [written] at scalar ⊢
  simp only [List.cons_append] at scalar ⊢
  have plain : readString (c :: (cs ++ '\n' :: rest)) = none := by
    simp [readString, ne]
  simp [readValue, ne, plain, scalar]

/-- The value on a line is read back. -/
theorem readValue_text {v : Scalar} (floor : v.HasFloor) (written : v.text = .ok cs)
    (depth : Nat) (rest : List Char) :
    readValue (depth + 1) (cs ++ '\n' :: rest) = some (v.value, '\n' :: rest) := by
  cases v with
  | string s =>
    obtain rfl := Except.ok.inj written
    have read : readString (stringText s.toList ++ '\n' :: rest) = some (s.toList, '\n' :: rest) :=
      readString_stringText s.toList (by simp [isQuote])
    simp [readValue_of_readString depth read, Scalar.value]
  | integer i =>
    simp only [Scalar.text] at written
    split at written
    next top =>
      obtain rfl := Except.ok.inj written
      have fits : integer? i = some (.integer i) := if_pos ⟨floor, top⟩
      simp [readValue_integer, fits, Scalar.value]
    next => cases written
  | boolean b =>
    cases b <;> obtain rfl := Except.ok.inj written <;> simp [readValue, Scalar.value]

theorem exists_stringText (cs : List Char) :
    ∃ c more, stringText cs = c :: more ∧ isBlank c = false := by
  unfold stringText
  cases quoting cs <;> exact ⟨_, _, rfl, by decide⟩

/-- There is no blank in front of a value. -/
theorem exists_text {v : Scalar} (written : v.text = .ok cs) :
    ∃ c more, cs = c :: more ∧ isBlank c = false := by
  cases v with
  | string s =>
    obtain rfl := Except.ok.inj written
    exact exists_stringText s.toList
  | integer i =>
    simp only [Scalar.text] at written
    split at written
    next =>
      obtain rfl := Except.ok.inj written
      obtain ⟨c, more, same, start⟩ := exists_integerText i
      refine ⟨c, more, same, ?_⟩
      simp only [isBlank, Bool.or_eq_false_iff, decide_eq_false_iff_not]
      constructor <;> intro blank <;> simp [blank] at start
    next => cases written
  | boolean b => cases b <;> obtain rfl := Except.ok.inj written <;> exact ⟨_, _, rfl, by decide⟩

/-! ## Too large integers -/

/-- An integer is above what 64 bits with a sign can hold. -/
def Scalar.Exceeds : Scalar → Prop
  | .integer i => Numeral.maxSigned64 < i
  | _ => False

@[simp] theorem Scalar.exceeds_toInt (i : Int64) : ¬ (integer i.toInt).Exceeds :=
  Int.not_lt.mpr i.toInt_le

@[simp] theorem Scalar.exceeds_word32 (n : UInt32) : ¬ (integer n.toNat).Exceeds := by
  have small : n.toNat ≤ Numeral.max32 := Nat.le_of_lt_succ n.toNat_lt
  have room : Numeral.max32 ≤ Numeral.maxSigned64 := by decide
  exact Int.not_lt.mpr (Int.ofNat_le.mpr (Nat.le_trans small room))

@[simp] theorem Scalar.exceeds_word64 (n : UInt64) :
    (integer n.toNat).Exceeds ↔ Numeral.maxSigned64 < n.toNat := Int.ofNat_lt

@[simp] theorem Scalar.exceeds_string (s : String) : ¬ (string s).Exceeds := id

@[simp] theorem Scalar.exceeds_boolean (b : Bool) : ¬ (boolean b).Exceeds := id

theorem exists_text_iff {v : Scalar} : (∃ cs, v.text = .ok cs) ↔ ¬ v.Exceeds := by
  cases v with
  | string s => simp [Scalar.text, Scalar.Exceeds]
  | integer i => by_cases top : i ≤ Numeral.maxSigned64 <;> simp [Scalar.text, Scalar.Exceeds, top]
  | boolean b => cases b <;> simp [Scalar.text, Scalar.Exceeds]

end SessionKit.Toml
