import SessionKit.Numeral
import Mathlib.Data.List.Basic
import Mathlib.Data.List.Induction

/-!
# What numerals say

A text spells a number if it is a run of digits, optionally behind a plus sign, with that value in
base ten. The readers accept the texts that spell a number within their bound, and each number has
exactly one spelling without a plus sign and without leading zeros: the one that is written.
-/

namespace SessionKit.Numeral

variable {c : Char} {cs ds : List Char} {n v max : Nat}

/-! ## Spellings -/

/-- The text is one digit or more, optionally behind a plus sign, and it has this value. -/
def Spells (cs : List Char) (n : Nat) : Prop :=
  ∃ ds, (cs = ds ∨ cs = '+' :: ds) ∧ ds ≠ [] ∧ (∀ c ∈ ds, c.isDigit) ∧ Nat.ofDigitChars 10 ds 0 = n

/-- Nothing in the text is left out without changing its value: there is no plus sign and no leading
zero. -/
def Plain (cs : List Char) : Prop := cs.head? ≠ some '+' ∧ (cs.head? = some '0' → cs.length = 1)

instance : Decidable (Plain cs) := inferInstanceAs (Decidable (_ ∧ _))

theorem digit?_eq_some : digit? c = some v ↔ c.isDigit ∧ c.toNat - '0'.toNat = v := by
  have same : ('0' ≤ c ∧ c ≤ '9') ↔ c.isDigit := by
    simp [Char.isDigit, Char.le_def, UInt32.le_iff_toNat_le]
  unfold digit?
  split
  next digit => simp [same.mp digit]
  next other => simp [mt same.mpr other]

theorem digit?_eq_none (other : c.isDigit = false) : digit? c = none := by
  cases read : digit? c with
  | none => rfl
  | some v => simp [(digit?_eq_some.mp read).1] at other

theorem valueFrom?_eq_some :
    valueFrom? n cs = some v ↔ (∀ c ∈ cs, c.isDigit) ∧ Nat.ofDigitChars 10 cs n = v := by
  induction cs generalizing n with
  | nil => simp [valueFrom?]
  | cons c cs ih =>
    rw [Nat.ofDigitChars_cons]
    cases digit : digit? c with
    | none =>
      have other : ¬ c.isDigit := fun is => by
        rw [digit?_eq_some.mpr ⟨is, rfl⟩] at digit
        cases digit
      simp [valueFrom?, digit, other]
    | some d =>
      obtain ⟨is, rfl⟩ := digit?_eq_some.mp digit
      simp [valueFrom?, digit, ih, is]

theorem digits?_eq_some :
    digits? cs = some v ↔ cs ≠ [] ∧ (∀ c ∈ cs, c.isDigit) ∧ Nat.ofDigitChars 10 cs 0 = v := by
  cases cs with
  | nil => simp [digits?]
  | cons c cs => simp [digits?, valueFrom?_eq_some]

theorem not_digit_plus : ¬ '+'.isDigit := by decide

/-- A number is read from the texts that spell it. -/
theorem unsigned?_eq_some : unsigned? cs = some n ↔ Spells cs n := by
  unfold unsigned?
  split
  next rest =>
    rw [digits?_eq_some]
    constructor
    · intro digits
      exact ⟨rest, .inr rfl, digits⟩
    · rintro ⟨ds, rfl | same, digits⟩
      · exact absurd (digits.2.1 '+' (by simp)) not_digit_plus
      · obtain rfl := List.tail_eq_of_cons_eq same
        exact digits
  next unsigned =>
    rw [digits?_eq_some]
    constructor
    · intro digits
      exact ⟨cs, .inl rfl, digits⟩
    · rintro ⟨ds, rfl | signed, digits⟩
      · exact digits
      · exact absurd signed (unsigned ds)

theorem bounded?_eq_some : bounded? max cs = some n ↔ Spells cs n ∧ n ≤ max := by
  rw [← unsigned?_eq_some]
  unfold bounded?
  cases unsigned? cs with
  | none => simp
  | some v =>
    by_cases fits : v ≤ max
    · simp only [if_pos fits, Option.some.injEq]
      constructor
      · rintro rfl
        exact ⟨rfl, fits⟩
      · exact And.left
    · simp only [if_neg fits, Option.some.injEq]
      constructor
      · nofun
      · rintro ⟨rfl, fits'⟩
        exact absurd fits' fits

/-- A word is read from the texts that spell its value. -/
theorem word32?_eq_some {w : UInt32} : word32? cs = some w ↔ Spells cs w.toNat := by
  unfold word32?
  rw [Option.map_eq_some_iff]
  constructor
  · rintro ⟨n, bounded, rfl⟩
    obtain ⟨spells, fits⟩ := bounded?_eq_some.mp bounded
    rwa [UInt32.toNat_ofNat_of_lt' (Nat.lt_succ_of_le fits)]
  · intro spells
    refine ⟨w.toNat, bounded?_eq_some.mpr ⟨spells, ?_⟩, UInt32.ofNat_toNat⟩
    exact Nat.le_of_lt_succ w.toNat_lt

/-! ## The written spelling -/

theorem isDigit_of_mem_write (mem : c ∈ write n) : c.isDigit :=
  Nat.isDigit_of_mem_toDigits (by decide) (by decide) mem

theorem not_mem_write (other : ¬ c.isDigit) : c ∉ write n := fun mem =>
  other (isDigit_of_mem_write mem)

theorem spells_write (n : Nat) : Spells (write n) n :=
  ⟨write n, .inl rfl, Nat.toDigits_ne_nil, fun _ => isDigit_of_mem_write,
    Nat.ofDigitChars_ten_toDigits⟩

theorem toNat_of_isDigit (digit : c.isDigit) : 48 ≤ c.toNat ∧ c.toNat ≤ 57 := by
  simpa [Char.isDigit, Char.le_def, UInt32.le_iff_toNat_le] using digit

theorem write_digit (digit : c.isDigit) : write (c.toNat - '0'.toNat) = [c] := by
  obtain ⟨low, high⟩ := toNat_of_isDigit digit
  have small : c.toNat - 48 < 10 := by omega
  show Nat.toDigits 10 (c.toNat - 48) = [c]
  rw [Nat.toDigits_of_lt_base small]
  congr 1
  apply Char.toNat_inj.mp
  rw [Nat.toNat_digitChar_of_lt_ten small]
  omega

/-- More digits do not make a number smaller. -/
theorem le_ofDigitChars (cs : List Char) (n : Nat) : n ≤ Nat.ofDigitChars 10 cs n := by
  induction cs generalizing n with
  | nil => simp
  | cons c cs ih =>
    have := ih (10 * n + (c.toNat - '0'.toNat))
    rw [Nat.ofDigitChars_cons]
    omega

theorem ofDigitChars_pos (h : 0 < n) : 0 < Nat.ofDigitChars 10 cs n :=
  Nat.lt_of_lt_of_le h (le_ofDigitChars cs n)

theorem pos_of_head (digit : c.isDigit) (other : c ≠ '0') :
    0 < Nat.ofDigitChars 10 (c :: cs) 0 := by
  have leading : c.toNat ≠ 48 := fun same => other (Char.toNat_inj.mp same)
  have := toNat_of_isDigit digit
  rw [Nat.ofDigitChars_cons]
  refine ofDigitChars_pos ?_
  show 0 < 10 * 0 + (c.toNat - 48)
  omega

/-- Digits without leading zeros are those that are written for their value. -/
theorem write_ofDigitChars (nonempty : cs ≠ []) (digits : ∀ c ∈ cs, c.isDigit)
    (plain : cs.head? = some '0' → cs.length = 1) : write (Nat.ofDigitChars 10 cs 0) = cs := by
  induction cs using List.reverseRecOn with
  | nil => exact absurd rfl nonempty
  | append_singleton cs c ih =>
    have digit := write_digit (digits c (by simp))
    have small : c.toNat - '0'.toNat < 10 := by
      have := (toNat_of_isDigit (digits c (by simp))).2
      show c.toNat - 48 < 10
      omega
    cases cs with
    | nil => simpa [Nat.ofDigitChars_cons] using digit
    | cons d ds =>
      have other : d ≠ '0' := fun zero => by simp [zero] at plain
      have pos : 0 < Nat.ofDigitChars 10 (d :: ds) 0 := pos_of_head (digits d (by simp)) other
      have before : write (Nat.ofDigitChars 10 (d :: ds) 0) = d :: ds := by
        refine ih (by simp) (fun c mem => digits c (List.mem_append_left _ mem)) fun zero => ?_
        exact absurd (Option.some.inj zero) other
      have value : Nat.ofDigitChars 10 (d :: ds ++ [c]) 0 =
          10 * Nat.ofDigitChars 10 (d :: ds) 0 + (c.toNat - '0'.toNat) := by
        rw [Nat.ofDigitChars_append, Nat.ofDigitChars_cons, Nat.ofDigitChars_nil]
      calc write (Nat.ofDigitChars 10 (d :: ds ++ [c]) 0)
        _ = write (Nat.ofDigitChars 10 (d :: ds) 0) ++ write (c.toNat - '0'.toNat) := by
          rw [value]
          exact (Nat.toDigits_append_toDigits (by decide) pos small).symm
        _ = d :: ds ++ [c] := by rw [before, digit]

/-- Only zero is written with a zero in front. -/
theorem eq_zero_of_head_write (zero : (write n).head? = some '0') : n = 0 := by
  induction n using Nat.strongRecOn with
  | ind n ih =>
    by_cases small : n < 10
    · rw [write, Nat.toDigits_of_lt_base small] at zero
      have same := congrArg Char.toNat (Option.some.inj zero)
      rw [Nat.toNat_digitChar_of_lt_ten small] at same
      exact Nat.add_left_cancel same
    · have before : write n = write (n / 10) ++ [Nat.digitChar (n % 10)] :=
        Nat.toDigits_of_base_le (by decide) (by omega)
      rw [before, List.head?_append_of_ne_nil (write _) Nat.toDigits_ne_nil] at zero
      have := ih (n / 10) (by omega) zero
      omega

theorem plain_write (n : Nat) : Plain (write n) := by
  refine ⟨fun plus => ?_, fun zero => ?_⟩
  · exact not_mem_write not_digit_plus (List.mem_of_head? plus)
  · rw [eq_zero_of_head_write zero]
    rfl

/-- The only plain spelling of a number is the written one. -/
theorem eq_write_of_spells (spells : Spells cs n) (plain : Plain cs) : cs = write n := by
  obtain ⟨ds, rfl | rfl, some, digits, rfl⟩ := spells
  · exact (write_ofDigitChars some digits plain.2).symm
  · exact absurd rfl plain.1

/-! ## With leading zeros -/

variable {width : Nat}

theorem isDigit_of_mem_writePadded (mem : c ∈ writePadded width n) : c.isDigit := by
  rcases List.mem_append.mp mem with zero | digit
  · rw [List.eq_of_mem_replicate zero]
    rfl
  · exact isDigit_of_mem_write digit

theorem writePadded_ne_nil : writePadded width n ≠ [] :=
  List.append_ne_nil_of_right_ne_nil _ Nat.toDigits_ne_nil

theorem ofDigitChars_writePadded : Nat.ofDigitChars 10 (writePadded width n) 0 = n := by
  rw [writePadded, Nat.ofDigitChars_append, Nat.ofDigitChars_replicate_zero, Nat.mul_zero]
  exact Nat.ofDigitChars_ten_toDigits

theorem length_writePadded (pos : 0 < width) (small : n < tenTo width) :
    (writePadded width n).length = width := by
  have short : (write n).length ≤ width :=
    (Nat.length_toDigits_le_iff (by decide) pos).mpr small
  simp [writePadded, short]

end SessionKit.Numeral
