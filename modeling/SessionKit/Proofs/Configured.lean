import SessionKit.Proofs.Acceptance
import SessionKit.Proofs.Hashing

/-!
# Hashing as configured

A configuration that passes its check has costs that both the derivation and the reader of hashes
take. Of the lengths of the salt and of the key the check only knows the least, not the most.
-/

namespace SessionKit

/-! ## What the derivation refuses -/

namespace Argon2

variable {p : Params} {version : Version} {password salt : Bytes} {cause : Error}

/-- The key is the last thing that is looked at among the parameters. -/
theorem Params.check_of_long_key (lanes : 1 ≤ p.parallelism.toNat ∧ p.parallelism.toNat ≤ 16777215)
    (memory : 8 * p.parallelism.toNat ≤ p.memoryKib.toNat) (passes : 1 ≤ p.iterations.toNat)
    (long : Numeral.twoTo 32 ≤ p.keyLength) : p.check = .error .outputTooLong := by
  have costs : ({ p with keyLength := minKeyLength } : Params).Admissible :=
    ⟨lanes, memory, passes, Nat.le_refl 4, show 4 < Numeral.twoTo 32 by decide⟩
  have ok : ({ p with keyLength := minKeyLength } : Params).check = .ok () :=
    Params.check_eq_ok.mpr costs
  simp only [Params.check, guard_eq_ok] at ok
  obtain ⟨least, lanes, passes, some, few, _⟩ := ok
  have notShort : ¬ p.keyLength < minKeyLength := by
    have least : minKeyLength ≤ Numeral.twoTo 32 := by decide
    omega
  have tooLong : maxLength < p.keyLength := long
  simp only [Params.check, if_neg least, if_neg lanes, if_neg passes, if_neg some, if_neg few,
    if_neg notShort, if_pos tooLong]

theorem derive_of_refused (refused : p.check = .error cause) :
    derive p version password salt = .error cause := by
  rw [derive, refused]
  rfl

end Argon2

/-! ## What the check of a configuration accepts -/

namespace Config

variable {c : Config}

/-- A section that is missing has its defaults, and they are acceptable. -/
theorem acceptable_of_check (checked : c.check = .ok ()) : (c.password.getD {}).Acceptable :=
  PasswordSection.check_eq_ok.mp (check_inForce checked .password)

end Config

namespace Password

variable {p : Params} {password text : String} {cause : Argon2.Error}

/-! ## Hashing and checking -/

/-- The costs are within the bounds of the derivation and of the reader of hashes, and neither the
salt nor the key is too short. -/
structure Params.Payable (p : Params) : Prop where
  lanes : 1 ≤ p.parallelism.toNat ∧ p.parallelism.toNat ≤ 16777215
  memory : 8 * p.parallelism.toNat ≤ p.memoryKib.toNat
  passes : 1 ≤ p.iterations.toNat
  salt : 8 ≤ p.saltLength
  key : 4 ≤ p.keyLength
  limited : Encoded.Limited p.memoryKib p.iterations p.parallelism

theorem payable_of_check {c : Config} (checked : c.check = .ok ()) : c.passwordParams.Payable := by
  obtain ⟨iterations, parallelism, memory, salt, key⟩ := Config.acceptable_of_check checked
  have few : (c.password.getD {}).parallelism.toNat ≤ 64 := parallelism.2
  exact
    { lanes := ⟨Nat.pos_of_ne_zero fun none => parallelism.1 (UInt32.toNat_inj.mp none), by
        exact Nat.le_trans few (by decide)⟩
      memory := memory.1
      passes := Nat.pos_of_ne_zero fun none => iterations.1 (UInt32.toNat_inj.mp none)
      salt
      key
      limited := ⟨memory.2, iterations.2, parallelism.2⟩ }

/-- A key is derived from these costs if the lengths are not too long either. -/
theorem derive_eq_ok_iff {salt : Bytes} (payable : p.Payable)
    (short : (Bytes.ofText password).length < Numeral.twoTo 32)
    (long : salt.length = p.saltLength) :
    (∃ key, Argon2.derive p.derivation .v13 (Bytes.ofText password) salt = .ok key) ↔
      p.saltLength < Numeral.twoTo 32 ∧ p.keyLength < Numeral.twoTo 32 := by
  simp only [Argon2.derive_eq_ok, exists_and_left, exists_eq', and_true]
  constructor
  · rintro ⟨admissible, _, _, fits⟩
    exact ⟨long ▸ fits, admissible.key.2⟩
  · rintro ⟨fitsSalt, fitsKey⟩
    refine ⟨⟨payable.lanes, payable.memory, payable.passes, payable.key, fitsKey⟩, short, ?_, ?_⟩
    · exact long ▸ payable.salt
    · exact long ▸ fitsSalt

theorem verify_hashWith {salt : Bytes}
    (limited : Encoded.Limited p.memoryKib p.iterations p.parallelism)
    (hashed : hashWith p password salt = .ok text) : verify password text = .ok true := by
  obtain ⟨key, derived, rfl⟩ := hashWith_eq_ok.mp hashed
  have costs : (p.encoded salt key).derivation = p.derivation :=
    derivation_encoded (Argon2.length_derive derived)
  have again := costs.symm ▸ derived
  rw [verify_write (e := p.encoded salt key) limited (key_ne_nil derived) again]
  exact congrArg _ (beq_self_eq_true key)

theorem hash_run {σ : Type} {fill : (n : Nat) → σ → Except String (Vector UInt8 n) × σ} {s t : σ}
    {salt : Vector UInt8 p.saltLength} (filled : fill p.saltLength s = (.ok salt, t)) :
    (hash p password).run fill s = (hashWith p password salt.toList, t) := by
  rw [hash, Program.run_ask, filled]
  rfl

/-- With a configuration that passes its check, and a source that does not fail, a password is
hashed if and only if neither the salt nor the key has more bytes than thirty-two bits count. A hash
that is issued is good for its password. -/
theorem hash_of_checked {σ : Type} {fill : (n : Nat) → σ → Except String (Vector UInt8 n) × σ}
    {c : Config} {password : String} {s t : σ} {salt : Vector UInt8 c.passwordParams.saltLength}
    (checked : c.check = .ok ()) (short : (Bytes.ofText password).length < Numeral.twoTo 32)
    (filled : fill c.passwordParams.saltLength s = (.ok salt, t)) :
    ((∃ text, (hash c.passwordParams password).run fill s = (.ok text, t)) ↔
      c.passwordParams.saltLength < Numeral.twoTo 32 ∧
        c.passwordParams.keyLength < Numeral.twoTo 32) ∧
    (∀ text, (hash c.passwordParams password).run fill s = (.ok text, t) →
      verify password text = .ok true) ∧
    (Numeral.twoTo 32 ≤ c.passwordParams.keyLength →
      (hash c.passwordParams password).run fill s =
        (.error (.keyDerivation .outputTooLong), t)) := by
  have payable := payable_of_check checked
  rw [hash_run filled]
  simp only [Prod.mk.injEq, and_true]
  refine ⟨?_, fun text hashed => verify_hashWith payable.limited hashed, fun long => ?_⟩
  · rw [← derive_eq_ok_iff payable short (Vector.length_toList : salt.toList.length = _)]
    constructor
    · rintro ⟨text, hashed⟩
      obtain ⟨key, derived, _⟩ := hashWith_eq_ok.mp hashed
      exact ⟨key, derived⟩
    · rintro ⟨key, derived⟩
      exact ⟨_, hashWith_eq_ok.mpr ⟨key, derived, rfl⟩⟩
  · have refused : c.passwordParams.derivation.check = .error .outputTooLong :=
      Argon2.Params.check_of_long_key payable.lanes payable.memory payable.passes long
    rw [hashWith, Argon2.derive_of_refused refused]

/-- A password section in which nothing is as it is by default. -/
def sampleConfig : Config :=
  { password := some
      { memoryKib := 19456, iterations := 2, parallelism := 1, saltLength := 8, keyLength := 64 } }

theorem hash_of_checked_sample :
    sampleConfig.check = .ok () ∧ ∃ text t, (hash sampleConfig.passwordParams samplePassword).run
      (fun n s => Random.scripted.fill s n) {} = (.ok text, t) ∧
        verify samplePassword text = .ok true := by
  have hashed := @hash_of_checked _ (fun n s => Random.scripted.fill s n) sampleConfig
    samplePassword {} _ _ (by decide) (by decide) rfl
  obtain ⟨text, issued⟩ := hashed.1.mpr ⟨by decide, by decide⟩
  exact ⟨by decide, text, _, issued, hashed.2.1 text issued⟩

/-- A key of as many bytes as thirty-two bits do not count. -/
def longKeyConfig : Config := { password := some { keyLength := 4294967296 } }

/-- The check of the configuration lets the key pass, and the derivation does not. -/
theorem checked_and_not_hashed :
    longKeyConfig.check = .ok () ∧
      ∃ salt t, Random.scripted.fill {} longKeyConfig.passwordParams.saltLength = (.ok salt, t) ∧
        (hash longKeyConfig.passwordParams samplePassword).run
          (fun n s => Random.scripted.fill s n) {} =
            (.error (.keyDerivation .outputTooLong), t) := by
  have checked : longKeyConfig.check = .ok () := by decide
  have payable := payable_of_check checked
  have refused : longKeyConfig.passwordParams.derivation.check = .error .outputTooLong :=
    Argon2.Params.check_of_long_key payable.lanes payable.memory payable.passes (by decide)
  refine ⟨checked, _, _, rfl, ?_⟩
  rw [hash_run rfl, hashWith, Argon2.derive_of_refused refused]

end Password
end SessionKit
