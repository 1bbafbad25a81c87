import SessionKit.Proofs.Encoding

/-!
# Checking a password

A password is checked against the texts of the grammar whose costs, salt and key are within the
bounds of the derivation. Every other text is refused as no password hash.
-/

namespace SessionKit

/-! ## What the derivation takes -/

namespace Argon2

variable {p : Params} {version : Version} {password salt bs : Bytes} {n m : Nat} {u : Unit}

/-- The bounds of the costs and of the key. -/
structure Params.Admissible (p : Params) : Prop where
  lanes : 1 ≤ p.parallelism.toNat ∧ p.parallelism.toNat ≤ 16777215
  memory : 8 * p.parallelism.toNat ≤ p.memoryKib.toNat
  passes : 1 ≤ p.iterations.toNat
  key : 4 ≤ p.keyLength ∧ p.keyLength < Numeral.twoTo 32

theorem toNat_mul_eight {lanes : UInt32} (few : lanes.toNat ≤ 16777215) :
    (lanes * 8).toNat = 8 * lanes.toNat := by
  rw [UInt32.toNat_mul]
  show lanes.toNat * 8 % 4294967296 = 8 * lanes.toNat
  omega

theorem not_maxLength_lt : ¬ maxLength < n ↔ n < Numeral.twoTo 32 :=
  Nat.not_lt.trans Nat.lt_succ_iff.symm

theorem Params.check_eq_ok : p.check = .ok u ↔ p.Admissible := by
  simp only [Params.check, guard_eq_ok, not_maxLength_lt, UInt32.lt_iff_toNat_lt,
    ← UInt32.toNat_inj, and_true]
  constructor
  · rintro ⟨_, memory, passes, some, few, short, long⟩
    have few : p.parallelism.toNat ≤ 16777215 := Nat.le_of_not_lt few
    rw [toNat_mul_eight few] at memory
    exact ⟨⟨Nat.pos_of_ne_zero some, few⟩, Nat.le_of_not_lt memory, Nat.pos_of_ne_zero passes,
      Nat.le_of_not_lt short, long⟩
  · rintro ⟨⟨some, few⟩, memory, passes, short, long⟩
    rw [toNat_mul_eight few]
    refine ⟨?_, Nat.not_lt.mpr memory, Nat.ne_of_gt passes, Nat.ne_of_gt some,
      Nat.not_lt.mpr few, Nat.not_lt.mpr short, long⟩
    -- Eight blocks for one lane are the least that there can be.
    show ¬ p.memoryKib.toNat < 8
    omega

theorem checkInputs_eq_ok :
    checkInputs n m = .ok u ↔ n < Numeral.twoTo 32 ∧ 8 ≤ m ∧ m < Numeral.twoTo 32 := by
  have short : ¬ m < minSaltLength ↔ 8 ≤ m := Nat.not_lt
  simp only [checkInputs, guard_eq_ok, not_maxLength_lt, short, and_true]

/-- A key is derived if the costs and all lengths are within their bounds. -/
theorem derive_eq_ok :
    derive p version password salt = .ok bs ↔
      p.Admissible ∧ (password.length < Numeral.twoTo 32 ∧ 8 ≤ salt.length ∧
        salt.length < Numeral.twoTo 32) ∧ key p version password salt = bs := by
  simp only [derive, bind_eq_ok, Params.check_eq_ok, checkInputs_eq_ok]
  constructor
  · rintro ⟨_, costs, _, inputs, ⟨⟩⟩
    exact ⟨costs, inputs, rfl⟩
  · rintro ⟨costs, inputs, rfl⟩
    exact ⟨(), costs, (), inputs, rfl⟩

end Argon2

namespace Password

variable {password encoded text : String} {e : Encoded} {s : Encoded.Spelling} {b : Bool}
  {segment : List Char}

/-! ## What a password can be checked against -/

/-- The text is a password hash of the grammar, within the bounds of the reader and of the
derivation. -/
structure Checkable (text : String) (e : Encoded) : Prop where
  spells : ∃ s, Encoded.Spells text s e
  memory : e.memoryKib.toNat ≤ 4194304
  iterations : 1 ≤ e.iterations.toNat ∧ e.iterations.toNat ≤ 64
  parallelism : 1 ≤ e.parallelism.toNat ∧ e.parallelism.toNat ≤ 64
  room : 8 * e.parallelism.toNat ≤ e.memoryKib.toNat
  salt : 8 ≤ e.salt.length
  key : 4 ≤ e.key.length

/-- Neither the salt nor the key is longer than the text. -/
theorem length_le_of_spells (spells : Encoded.Spells text s e) :
    e.salt.length ≤ (Bytes.ofText text).length ∧ e.key.length ≤ (Bytes.ofText text).length := by
  have whole : ['$'].intercalate (s.segments e) = text.toList := by
    rw [← spells.segments, List.intercalate_splitOn]
  have lengths := congrArg List.length whole
  have text := Bytes.length_toList_le text
  have salt := Base64.length_le_length_encode .standard e.salt
  have key := Base64.length_le_length_encode .standard e.key
  simp only [Encoded.Spelling.segments, List.intercalate_cons_cons, List.intercalate_singleton,
    List.length_append] at lengths
  omega

/-- The lengths that the derivation bounds are bounded by the length of the text. -/
theorem checkable_iff (small : (Bytes.ofText text).length < Numeral.twoTo 32) :
    Checkable text e ↔
      Encoded.parse text = .ok e ∧ e.derivation.Admissible ∧
        8 ≤ e.salt.length ∧ e.salt.length < Numeral.twoTo 32 := by
  rw [Encoded.parse_eq_ok]
  constructor
  · rintro ⟨⟨s, spells⟩, memory, ⟨passes, iterations⟩, ⟨lanes, parallelism⟩, room, salt, key⟩
    have limited : Encoded.Limited e.memoryKib e.iterations e.parallelism :=
      ⟨memory, iterations, parallelism⟩
    have some : e.key ≠ [] := List.ne_nil_of_length_pos (Nat.lt_of_lt_of_le (by decide) key)
    have lengths := length_le_of_spells spells
    refine ⟨⟨⟨s, spells⟩, limited, some⟩, ⟨⟨lanes, ?_⟩, room, passes, key, ?_⟩, salt, ?_⟩
    · exact Nat.le_trans parallelism (by decide)
    · exact Nat.lt_of_le_of_lt lengths.2 small
    · exact Nat.lt_of_le_of_lt lengths.1 small
  · rintro ⟨⟨spells, limited, _⟩, admissible, salt, _⟩
    exact ⟨spells, limited.memory, ⟨admissible.passes, limited.iterations⟩,
      ⟨admissible.lanes.1, limited.parallelism⟩, admissible.memory, salt, admissible.key.1⟩

/-! ## The check -/

theorem accepts_eq_ok :
    e.accepts password = .ok b ↔
      ∃ key, Argon2.derive e.derivation e.version (Bytes.ofText password) e.salt = .ok key ∧
        (key == e.key) = b := by
  unfold Encoded.accepts
  cases Argon2.derive e.derivation e.version (Bytes.ofText password) e.salt <;>
    simp [Bytes.equal_eq_beq]

/-- A check that answers has read a hash and derived a key from the password. -/
theorem verify_eq_ok :
    verify password encoded = .ok b ↔
      ∃ e, Encoded.parse encoded = .ok e ∧ ∃ key,
        Argon2.derive e.derivation e.version (Bytes.ofText password) e.salt = .ok key ∧
          (key == e.key) = b := by
  simp only [← accepts_eq_ok]
  unfold verify
  cases Encoded.parse encoded <;> simp

theorem malformed_of_verify {err : CredentialError}
    (failed : verify password encoded = .error err) : ∃ cause, err = .malformedHash cause := by
  unfold verify at failed
  split at failed
  next e _ =>
    unfold Encoded.accepts at failed
    split at failed
    next => cases failed
    next cause _ => exact ⟨_, (Except.error.inj failed).symm⟩
  next cause _ => exact ⟨cause, (Except.error.inj failed).symm⟩

/-- A text that can be checked against gets an answer, for every password that is not too long. -/
theorem exists_answer (short : (Bytes.ofText password).length < Numeral.twoTo 32)
    (small : (Bytes.ofText encoded).length < Numeral.twoTo 32) (checkable : Checkable encoded e) :
    ∃ b, verify password encoded = .ok b := by
  obtain ⟨ok, admissible, salt⟩ := (checkable_iff small).mp checkable
  obtain ⟨key, derived⟩ : ∃ key,
      Argon2.derive e.derivation e.version (Bytes.ofText password) e.salt = .ok key :=
    ⟨_, Argon2.derive_eq_ok.mpr ⟨admissible, ⟨short, salt⟩, rfl⟩⟩
  exact ⟨_, verify_eq_ok.mpr ⟨e, ok, key, derived, rfl⟩⟩

theorem checkable_of_answer (small : (Bytes.ofText encoded).length < Numeral.twoTo 32)
    (answer : verify password encoded = .ok b) :
    ∃ e, Checkable encoded e ∧
      (b = true ↔ Argon2.derive e.derivation e.version (Bytes.ofText password) e.salt =
        .ok e.key) := by
  obtain ⟨e, ok, key, derived, rfl⟩ := verify_eq_ok.mp answer
  obtain ⟨admissible, ⟨_, salt⟩, _⟩ := Argon2.derive_eq_ok.mp derived
  refine ⟨e, (checkable_iff small).mpr ⟨ok, admissible, salt⟩, ?_⟩
  rw [derived, beq_iff_eq, Except.ok.injEq]

/-- A check answers for the texts of the grammar and calls every other text malformed. The answer is
whether the key that is derived from the password is the key of the hash. -/
theorem verify_answers_checkable (password encoded : String)
    (short : (Bytes.ofText password).length < Numeral.twoTo 32)
    (small : (Bytes.ofText encoded).length < Numeral.twoTo 32) :
    ((∃ b, verify password encoded = .ok b) ↔ ∃ e, Checkable encoded e) ∧
    ((¬ ∃ e, Checkable encoded e) →
      ∃ cause, verify password encoded = .error (.malformedHash cause)) ∧
    ∀ e b, Checkable encoded e → verify password encoded = .ok b →
      (b = true ↔
        Argon2.derive e.derivation e.version (Bytes.ofText password) e.salt = .ok e.key) := by
  have answered : (∃ b, verify password encoded = .ok b) ↔ ∃ e, Checkable encoded e := by
    constructor
    · rintro ⟨b, answer⟩
      obtain ⟨e, checkable, _⟩ := checkable_of_answer small answer
      exact ⟨e, checkable⟩
    · rintro ⟨e, checkable⟩
      exact exists_answer short small checkable
  refine ⟨answered, fun none => ?_, fun e b checkable answer => ?_⟩
  · cases outcome : verify password encoded with
    | ok b => exact absurd (answered.mp ⟨b, outcome⟩) none
    | error err =>
      obtain ⟨cause, rfl⟩ := malformed_of_verify outcome
      exact ⟨cause, rfl⟩
  · obtain ⟨e', checkable', same⟩ := checkable_of_answer small answer
    obtain ⟨ok, _⟩ := (checkable_iff small).mp checkable
    obtain ⟨ok', _⟩ := (checkable_iff small).mp checkable'
    obtain rfl := Except.ok.inj (ok'.symm.trans ok)
    exact same

theorem verify_answers_checkable_sample :
    ∃ b, verify "open sesame" "$argon2id$v=19$m=8,t=1,p=1$AAAAAAAAAAA$AAAAAA" = .ok b := by
  have answered := verify_answers_checkable "open sesame" Encoded.sample.write (by decide +kernel)
    (by decide +kernel)
  rw [Encoded.write_sample] at answered
  refine answered.1.mpr ⟨Encoded.sample, ?_⟩
  rw [← Encoded.write_sample]
  exact ⟨⟨_, Encoded.sample.spells_write⟩, by decide, by decide, by decide, by decide, by decide,
    by decide⟩

end Password
end SessionKit
