import SessionKit.Proofs.Defaults

/-!
# What the check accepts

The check takes the conditions of a section one after the other and tells the first that is broken.
So a section passes if and only if it keeps them all.
-/

namespace SessionKit.Config

theorem require_eq_ok {condition : Prop} [Decidable condition] {field reason : String} :
    require condition field reason = .ok () ↔ condition := by
  unfold require
  split
  next holds => simp [holds]
  next fails => simp [fails]

theorem require_bind_eq_ok {condition : Prop} [Decidable condition] {field reason : String}
    {f : Unit → Except Error Unit} :
    require condition field reason >>= f = .ok () ↔ condition ∧ f () = .ok () := by
  unfold require
  split
  next holds => exact ⟨fun rest => ⟨holds, rest⟩, And.right⟩
  next fails => exact ⟨nofun, fun both => absurd both.1 fails⟩

/-- What the session section may ask for. -/
structure SessionSection.Acceptable (s : SessionSection) : Prop where
  positive : 0 < s.maxAgeSecs.toInt
  short : s.maxAgeSecs.toInt ≤ Session.maxMaxAgeSecs
  token : minTokenBytes ≤ s.tokenBytes.toNat
  id : s.idLength ≠ 0

theorem SessionSection.check_eq_ok {s : SessionSection} : s.check = .ok () ↔ s.Acceptable := by
  simp only [SessionSection.check, require_bind_eq_ok, require_eq_ok]
  constructor
  · rintro ⟨positive, short, token, id⟩
    exact ⟨positive, short, token, id⟩
  · rintro ⟨positive, short, token, id⟩
    exact ⟨positive, short, token, id⟩

theorem CacheSection.check_eq_ok {s : CacheSection} :
    s.check = .ok () ↔ s.ttlSecs ≠ 0 ∧ s.maxSize ≠ 0 := by
  simp only [CacheSection.check, require_bind_eq_ok, require_eq_ok]

/-- What the password section may ask for. -/
structure PasswordSection.Acceptable (s : PasswordSection) : Prop where
  iterations : s.iterations ≠ 0 ∧ s.iterations ≤ Password.maxIterations
  parallelism : s.parallelism ≠ 0 ∧ s.parallelism ≤ Password.maxParallelism
  memory : 8 * s.parallelism.toNat ≤ s.memoryKib.toNat ∧ s.memoryKib ≤ Password.maxMemoryKib
  salt : Argon2.minSaltLength ≤ s.saltLength.toNat
  key : Argon2.minKeyLength ≤ s.keyLength.toNat

theorem PasswordSection.check_eq_ok {s : PasswordSection} : s.check = .ok () ↔ s.Acceptable := by
  simp only [PasswordSection.check, require_bind_eq_ok, require_eq_ok]
  constructor
  · rintro ⟨passes, lanes, fewPasses, fewLanes, little, room, salt, key⟩
    exact ⟨⟨passes, fewPasses⟩, ⟨lanes, fewLanes⟩, ⟨room, little⟩, salt, key⟩
  · rintro ⟨⟨passes, fewPasses⟩, ⟨lanes, fewLanes⟩, ⟨room, little⟩, salt, key⟩
    exact ⟨passes, lanes, fewPasses, fewLanes, little, room, salt, key⟩

theorem IdentifierSection.check_eq_ok {s : IdentifierSection} :
    s.check = .ok () ↔ (∃ a, Identifier.Alphabet.ofText s.alphabet = .ok a) ∧ s.length ≠ 0 := by
  unfold IdentifierSection.check
  cases Identifier.Alphabet.ofText s.alphabet with
  | error cause => exact ⟨nofun, fun both => nomatch both.1.choose_spec⟩
  | ok a => simp [require_eq_ok]

end SessionKit.Config
