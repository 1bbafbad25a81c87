import SessionKit.Proofs.Checking

/-!
# Hashes that are issued

A hash is issued when the source gives a salt and the derivation takes the costs and the lengths.
The limits on the costs are those of the reader alone: a hash within them can be checked by anyone,
and a hash above them is issued all the same and then refused.
-/

namespace SessionKit

/-! ## Lengths of digests and keys -/

namespace Blake2b

variable {n rest count : Nat} {chain : List UInt64} {block bs : Bytes} {final : Bool}

/-- A chain has eight words. -/
theorem length_compress (eight : chain.length = 8) :
    (compress chain block count final).length = 8 := by
  simp [compress, Row.toList, eight]

theorem length_absorb (eight : chain.length = 8) : (absorb rest count chain bs).length = 8 := by
  induction rest generalizing count chain bs with
  | zero => exact length_compress eight
  | succ rest ih => exact ih (length_compress eight)

theorem length_flatMap_littleEndian64 (ws : List UInt64) :
    (ws.flatMap Bytes.littleEndian64).length = 8 * ws.length := by
  simp [List.length_flatMap, Nat.mul_comm]

theorem length_digest (small : n ≤ 64) : (digest n bs).length = n := by
  unfold digest
  simp only [List.length_take, length_flatMap_littleEndian64]
  rw [length_absorb (by simp [initial])]
  omega

end Blake2b

namespace Argon2

variable {p : Params} {version : Version} {password salt bs : Bytes} {halves n : Nat}

/-- Thirty-two bytes for each half, and no more than a whole digest for the rest. -/
theorem length_extend (enough : 32 * halves ≤ n) (few : n ≤ 32 * halves + 64) :
    (extend halves n bs).length = n := by
  induction halves generalizing n bs with
  | zero => exact Blake2b.length_digest (by omega)
  | succ halves ih =>
    unfold extend
    simp only [List.length_append, List.length_take, Blake2b.length_digest (Nat.le_refl 64)]
    rw [ih (by omega) (by omega)]
    omega

theorem length_longHash : (longHash n bs).length = n :=
  length_extend (by omega) (by omega)

/-- A key has the length that was asked for. -/
theorem length_derive (derived : derive p version password salt = .ok bs) :
    bs.length = p.keyLength := by
  obtain ⟨_, _, rfl⟩ := derive_eq_ok.mp derived
  exact length_longHash

end Argon2

namespace Password

variable {p : Params} {password q text : String} {salt key : Bytes} {e : Encoded}
  {memory iterations parallelism : UInt32}

/-! ## What is issued -/

/-- What a hash of these costs holds. -/
def Params.encoded (p : Params) (salt key : Bytes) : Encoded where
  version := .v13
  memoryKib := p.memoryKib
  iterations := p.iterations
  parallelism := p.parallelism
  salt := salt
  key := key

theorem hashWith_eq_ok :
    hashWith p password salt = .ok text ↔
      ∃ key, Argon2.derive p.derivation .v13 (Bytes.ofText password) salt = .ok key ∧
        (p.encoded salt key).write = text := by
  unfold hashWith
  cases Argon2.derive p.derivation .v13 (Bytes.ofText password) salt with
  | ok key => simp [Params.encoded]
  | error cause => simp

theorem hash_run_eq_ok {σ : Type} {s t : σ}
    {fill : (n : Nat) → σ → Except String (Vector UInt8 n) × σ} :
    (hash p password).run fill s = (.ok text, t) ↔
      ∃ salt, fill p.saltLength s = (.ok salt, t) ∧
        hashWith p password salt.toList = .ok text := by
  unfold hash
  rcases answered : fill p.saltLength s with ⟨answer, s'⟩
  cases answer with
  | ok salt => simp [answered, Prod.ext_iff, and_comm]
  | error reason => simp [answered]

/-! ## Checking what is issued -/

/-- The derivation that made the key of a hash is repeated by its check. -/
theorem derivation_encoded (long : key.length = p.keyLength) :
    (p.encoded salt key).derivation = p.derivation := by
  simp [Encoded.derivation, Params.encoded, Params.derivation, long]

theorem key_ne_nil
    (derived : Argon2.derive p.derivation .v13 (Bytes.ofText password) salt = .ok key) :
    key ≠ [] := by
  obtain ⟨admissible, _, _⟩ := Argon2.derive_eq_ok.mp derived
  have long : key.length = p.keyLength := Argon2.length_derive derived
  have least : 4 ≤ p.keyLength := admissible.key.1
  intro none
  simp [none] at long
  omega

namespace Encoded

theorem checkLimit_of_lt {name : Char} {n limit : UInt32} (beyond : limit < n) :
    checkLimit name n limit = .error (.limitExceeded (String.singleton name) n limit) := by
  simp [checkLimit, beyond]

theorem checkLimit_of_le {name : Char} {n limit : UInt32} (within : n ≤ limit) :
    checkLimit name n limit = .ok () :=
  checkLimit_eq_ok.mpr within

/-- The limits are looked at once all three costs are read. -/
theorem readCosts_of_spells {s : Spelling} (spells : Spells text s e) :
    readCosts s.costs = (do
      checkLimit 'm' e.memoryKib maxMemoryKib
      checkLimit 't' e.iterations maxIterations
      checkLimit 'p' e.parallelism maxParallelism
      return (e.memoryKib, e.iterations, e.parallelism)) := by
  unfold readCosts
  simp only [splitAt_eq_splitOn, spells.parts, Spelling.parts]
  rw [parameter_eq_ok.mpr ⟨_, rfl, spells.memory⟩, parameter_eq_ok.mpr ⟨_, rfl, spells.iterations⟩,
    parameter_eq_ok.mpr ⟨_, rfl, spells.parallelism⟩]
  rfl

/-- A cost above its limit is named. -/
def Exceeds (e : Encoded) (cause : Malformed) : Prop :=
  (maxMemoryKib < e.memoryKib ∧ cause = .limitExceeded "m" e.memoryKib maxMemoryKib) ∨
  (maxIterations < e.iterations ∧ cause = .limitExceeded "t" e.iterations maxIterations) ∨
  (maxParallelism < e.parallelism ∧ cause = .limitExceeded "p" e.parallelism maxParallelism)

theorem readCosts_of_exceeds {s : Spelling} (spells : Spells text s e)
    (beyond : ¬ Limited e.memoryKib e.iterations e.parallelism) :
    ∃ cause, e.Exceeds cause ∧ readCosts s.costs = .error cause := by
  rw [readCosts_of_spells spells]
  -- The cause is the first cost above its limit, in the order in which they are looked at.
  by_cases memory : e.memoryKib ≤ maxMemoryKib
  · rw [checkLimit_of_le memory]
    by_cases iterations : e.iterations ≤ maxIterations
    · rw [checkLimit_of_le iterations]
      have parallelism : maxParallelism < e.parallelism := by
        rw [← UInt32.not_le]
        intro parallelism
        exact beyond ⟨memory, iterations, parallelism⟩
      rw [checkLimit_of_lt parallelism]
      exact ⟨_, .inr (.inr ⟨parallelism, rfl⟩), rfl⟩
    · have iterations : maxIterations < e.iterations := UInt32.not_le.mp iterations
      rw [checkLimit_of_lt iterations]
      exact ⟨_, .inr (.inl ⟨iterations, rfl⟩), rfl⟩
  · have memory : maxMemoryKib < e.memoryKib := UInt32.not_le.mp memory
    rw [checkLimit_of_lt memory]
    exact ⟨_, .inl ⟨memory, rfl⟩, rfl⟩

theorem parse_write_of_exceeds (beyond : ¬ Limited e.memoryKib e.iterations e.parallelism) :
    ∃ cause, e.Exceeds cause ∧ parse e.write = .error cause := by
  have spells := e.spells_write
  obtain ⟨cause, exceeds, failed⟩ := readCosts_of_exceeds spells beyond
  refine ⟨cause, exceeds, ?_⟩
  rw [parse_of_segments spells.segments, if_neg (by simp), if_neg (by simp), readFields,
    readVersion_eq_ok.mpr ⟨_, rfl, spells.version⟩, failed]
  rfl

end Encoded

theorem parse_write (limited : Encoded.Limited e.memoryKib e.iterations e.parallelism)
    (some : e.key ≠ []) : Encoded.parse e.write = .ok e :=
  Encoded.parse_eq_ok.mpr ⟨⟨_, e.spells_write⟩, limited, some⟩

/-- The check of a written hash compares the key of the hash with the one it derives. -/
theorem verify_write (limited : Encoded.Limited e.memoryKib e.iterations e.parallelism)
    (some : e.key ≠ [])
    (derived : Argon2.derive e.derivation e.version (Bytes.ofText q) e.salt = .ok key) :
    verify q e.write = .ok (key == e.key) := by
  unfold verify
  simp only [parse_write limited some, Encoded.accepts, derived, Bytes.equal_eq_beq]

theorem verify_write_of_exceeds
    (beyond : ¬ Encoded.Limited e.memoryKib e.iterations e.parallelism) :
    ∃ cause, e.Exceeds cause ∧ ∀ q, verify q e.write = .error (.malformedHash cause) := by
  obtain ⟨cause, exceeds, failed⟩ := Encoded.parse_write_of_exceeds beyond
  refine ⟨cause, exceeds, ?_⟩
  intro q
  unfold verify
  simp only [failed]

/-- An issued hash whose costs are within the limits is good for its password, and is no good for a
password with another key. One whose costs are not is refused for every password, and the refusal
names a cost above its limit. A check knows no costs but those of the hash. -/
theorem verify_of_issued {σ : Type} (fill : (n : Nat) → σ → Except String (Vector UInt8 n) × σ)
    (p : Params) (password text : String) (s t : σ)
    (issued : (hash p password).run fill s = (.ok text, t)) :
    ∃ salt key, fill p.saltLength s = (.ok salt, t) ∧
      Argon2.derive p.derivation .v13 (Bytes.ofText password) salt.toList = .ok key ∧
      (Encoded.Limited p.memoryKib p.iterations p.parallelism →
        verify password text = .ok true ∧
        ∀ q other, Argon2.derive p.derivation .v13 (Bytes.ofText q) salt.toList = .ok other →
          other ≠ key → verify q text = .ok false) ∧
      (¬ Encoded.Limited p.memoryKib p.iterations p.parallelism →
        ∃ cause, (p.encoded salt.toList key).Exceeds cause ∧
          ∀ q, verify q text = .error (.malformedHash cause)) := by
  obtain ⟨salt, drawn, written⟩ := hash_run_eq_ok.mp issued
  obtain ⟨key, derived, rfl⟩ := hashWith_eq_ok.mp written
  have costs : (p.encoded salt.toList key).derivation = p.derivation :=
    derivation_encoded (Argon2.length_derive derived)
  refine ⟨salt, key, drawn, derived, ?_,
    fun beyond => verify_write_of_exceeds (e := p.encoded salt.toList key) beyond⟩
  intro limited
  have answer {q : String} {other : Bytes}
      (derived' : Argon2.derive p.derivation .v13 (Bytes.ofText q) salt.toList = .ok other) :
      verify q (p.encoded salt.toList key).write = .ok (other == key) := by
    rw [← costs] at derived'
    exact verify_write limited (key_ne_nil derived) derived'
  refine ⟨by simpa using answer derived, ?_⟩
  intro q other derived' different
  rw [answer derived', beq_false_of_ne different]

/-- The lowest costs, but for the passes. -/
def sampleParams (iterations : UInt32) : Params where
  memoryKib := 8
  iterations := iterations
  parallelism := 1
  saltLength := 8
  keyLength := 4

def samplePassword : String := "open sesame"

/-- These costs are taken, whatever salt the source gives. -/
theorem exists_issued_sample (iterations : UInt32) (passes : 1 ≤ iterations.toNat) :
    ∃ salt key t, (hash (sampleParams iterations) samplePassword).run
      (fun n s => Random.scripted.fill s n) {} =
        (.ok ((sampleParams iterations).encoded salt key).write, t) := by
  have admissible : (sampleParams iterations).derivation.Admissible := by
    constructor
    · exact ⟨Nat.le_refl 1, Nat.le_of_ble_eq_true rfl⟩
    · exact Nat.le_refl 8
    · exact passes
    · exact ⟨Nat.le_refl 4, Nat.le_of_ble_eq_true rfl⟩
  have derived (salt : Vector UInt8 8) :
      Argon2.derive (sampleParams iterations).derivation .v13 (Bytes.ofText samplePassword)
        salt.toList = .ok (Argon2.key (sampleParams iterations).derivation .v13
          (Bytes.ofText samplePassword) salt.toList) := by
    refine Argon2.derive_eq_ok.mpr ⟨admissible, ⟨by decide, ?_⟩, rfl⟩
    simp [Numeral.twoTo]
  exact ⟨_, _, _, hash_run_eq_ok.mpr ⟨_, rfl, hashWith_eq_ok.mpr ⟨_, derived _, rfl⟩⟩⟩

theorem verify_of_issued_sample :
    ∃ text t, (hash (sampleParams 1) samplePassword).run (fun n s => Random.scripted.fill s n) {} =
      (.ok text, t) ∧ verify samplePassword text = .ok true := by
  obtain ⟨salt, key, t, issued⟩ := exists_issued_sample 1 (by decide)
  obtain ⟨_, _, _, _, within, _⟩ := verify_of_issued _ _ _ _ _ _ issued
  exact ⟨_, t, issued, (within ⟨by decide, by decide, by decide⟩).1⟩

/-- Sixty-five passes are more than the reader allows, and the hasher does not mind. -/
theorem issued_and_refused :
    ∃ text t, (hash (sampleParams 65) samplePassword).run (fun n s => Random.scripted.fill s n) {} =
      (.ok text, t) ∧
        verify samplePassword text = .error (.malformedHash (.limitExceeded "t" 65 64)) := by
  obtain ⟨salt, key, t, issued⟩ := exists_issued_sample 65 (by decide)
  refine ⟨_, t, issued, ?_⟩
  obtain ⟨cause, exceeds, refused⟩ :=
    verify_write_of_exceeds (e := (sampleParams 65).encoded salt key) (fun limited =>
      absurd limited.iterations (by simp [Params.encoded, sampleParams, maxIterations]))
  rw [refused]
  rcases exceeds with ⟨memory, _⟩ | ⟨_, rfl⟩ | ⟨parallelism, _⟩
  · exact absurd memory (by simp [Params.encoded, sampleParams, maxMemoryKib])
  · rfl
  · exact absurd parallelism (by simp [Params.encoded, sampleParams, maxParallelism])

end Password
end SessionKit
