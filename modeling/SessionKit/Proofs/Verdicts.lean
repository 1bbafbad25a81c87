import SessionKit.Proofs.Lifetime

/-!
# Verdicts

Between two operations that go one after the other, what a verification comes to can be read off the
storage and the clock. The cache has no say in it.
-/

namespace SessionKit

namespace Storage.Memory

variable {m m' : Memory} {token : String}

/-- What the storage says about a token at some time. -/
def verdict (m : Memory) (token : String) (now : Timestamp) : Except Session.Error Session :=
  if token.isEmpty then .error .invalidToken
  else match m.byHash? (Token.digest token) with
    | none => .error .notFound
    | some x => if x.isExpiredAt now then .error .expired else .ok x

theorem verdict_of_empty (empty : token.isEmpty) (now : Timestamp) :
    m.verdict token now = .error .invalidToken := if_pos empty

theorem verdict_of_none (nonempty : ¬ token.isEmpty)
    (absent : m.byHash? (Token.digest token) = none) (now : Timestamp) :
    m.verdict token now = .error .notFound := by
  rw [verdict, if_neg nonempty, absent]

theorem verdict_of_some {x : Session} (nonempty : ¬ token.isEmpty)
    (stored : m.byHash? (Token.digest token) = some x) (now : Timestamp) :
    m.verdict token now = if x.isExpiredAt now then .error .expired else .ok x := by
  rw [verdict, if_neg nonempty, stored]

theorem verdict_eq_ok {x : Session} {now : Timestamp} : m.verdict token now = .ok x ↔
    ¬ token.isEmpty ∧ m.byHash? (Token.digest token) = some x ∧ ¬ x.isExpiredAt now := by
  by_cases nonempty : token.isEmpty
  · simp [verdict_of_empty nonempty, nonempty]
  cases stored : m.byHash? (Token.digest token) with
  | none => simp [verdict_of_none nonempty stored]
  | some y =>
    rw [verdict_of_some nonempty stored, Option.some_inj]
    by_cases late : y.isExpiredAt now
    · rw [if_pos late]
      refine ⟨nofun, ?_⟩
      rintro ⟨_, rfl, good⟩
      exact absurd late good
    · rw [if_neg late, Except.ok.injEq]
      refine ⟨?_, fun h => h.2.1⟩
      rintro rfl
      exact ⟨nonempty, rfl, late⟩

/-- The verdict depends on nothing but what is stored under the digest of the token. -/
theorem verdict_congr (same : m.byHash? (Token.digest token) = m'.byHash? (Token.digest token))
    (now : Timestamp) : m.verdict token now = m'.verdict token now := by
  unfold verdict
  rw [same]

end Storage.Memory

namespace Traffic

variable {m : Manager} {w w' : World} {t t' : Nat → Moment}

/-- A verification says what the storage says at the time that it reads on the clock, unless the
time does not matter. -/
theorem verification_cases (token : String) (tidy : Tidy m w) (sound : ∀ n, (t n).fault = none) :
    (∃ now, verification m token t w = (w.storage.verdict token now, [now])) ∨
      ∀ now, (verification m token t w).1 = w.storage.verdict token now := by
  by_cases nonempty : token.isEmpty
  · refine .inr fun now => ?_
    rw [Storage.Memory.verdict_of_empty nonempty, verification, Manager.verify_run, if_pos nonempty]
    rfl
  cases stored : w.storage.byHash? (Token.digest token) with
  | none =>
    refine .inr fun now => ?_
    rw [Storage.Memory.verdict_of_none nonempty stored]
    have absent := Storage.Memory.byHash?_eq_none.mp stored
    exact verify_of_not_stored tidy id nonempty absent sound
  | some x =>
    refine .inl ?_
    rcases good_or_late tidy sound nonempty stored with
      ⟨result, now, clock, early⟩ | ⟨⟨result, now, clock, late⟩, -⟩
    · have good : ¬ x.isExpiredAt now := fun late =>
        Timestamp.not_le_of_lt early (of_decide_eq_true late)
      refine ⟨now, Prod.ext ?_ clock⟩
      rw [Storage.Memory.verdict_of_some nonempty stored, if_neg good]
      exact result
    · have expired : x.isExpiredAt now := decide_eq_true late
      refine ⟨now, Prod.ext ?_ clock⟩
      rw [Storage.Memory.verdict_of_some nonempty stored, if_pos expired]
      exact result

/-- Two verifications come to the same that find the same stored and read the same on the clock. -/
theorem verification_congr {token : String} (tidy : Tidy m w) (tidy' : Tidy m w')
    (sound : ∀ n, (t n).fault = none) (sound' : ∀ n, (t' n).fault = none)
    (same : w.storage.byHash? (Token.digest token) = w'.storage.byHash? (Token.digest token))
    (clock : (verification m token t w).2 = (verification m token t' w').2) :
    (verification m token t w).1 = (verification m token t' w').1 := by
  have congr := Storage.Memory.verdict_congr same
  rcases verification_cases token tidy sound with ⟨now, seen⟩ | always
  · rcases verification_cases token tidy' sound' with ⟨now', seen'⟩ | always'
    · rw [seen, seen'] at clock ⊢
      obtain rfl : now = now' := List.singleton_inj.mp clock
      exact congr now
    · rw [always' now, seen]
      exact congr now
  · rcases verification_cases token tidy' sound' with ⟨now', seen'⟩ | always'
    · rw [always now', seen']
      exact congr now'
    · rw [always .epoch, always' .epoch]
      exact congr .epoch

/-! ## Verifications at one time -/

/-- The storage does not fail a verification, and whenever the clock is read, it shows this time. -/
structure VerifiedAt (now : Timestamp) (m : Manager) (token : String) (t : Nat → Moment)
    (w : World) : Prop where
  sound : ∀ n, (t n).fault = none
  clock : ∀ time ∈ (verification m token t w).2, time = now

theorem mem_clock {α : Type} {p : Manager.Action α} {now : Timestamp}
    (read : now ∈ (transcript t p w).clock) : ∃ n, now = (t n).now := by
  induction p generalizing t w with
  | done a => exact absurd read List.not_mem_nil
  | ask r next ih =>
    rw [transcript, ← List.singleton_append, Manager.History.clock_append] at read
    rcases List.mem_append.mp read with first | rest
    · cases r with
      | now => exact ⟨0, List.mem_singleton.mp first⟩
      | _ => exact absurd first List.not_mem_nil
    · obtain ⟨n, read⟩ := ih _ rest
      exact ⟨n + 1, read⟩

/-- A clock that stands still shows one time. -/
theorem verifiedAt_const {moment : Moment} (token : String) (sound : moment.fault = none) :
    VerifiedAt moment.now m token (fun _ => moment) w where
  sound _ := sound
  clock _ read := (mem_clock read).elim fun _ read => read

theorem verify_of_verifiedAt {token : String} {now : Timestamp} (tidy : Tidy m w)
    (verified : VerifiedAt now m token t w) :
    (alone t (m.verify token).run w).1 = w.storage.verdict token now := by
  rcases verification_cases token tidy verified.sound with ⟨time, seen⟩ | always
  · obtain rfl : time = now := by
      refine verified.clock time ?_
      rw [seen]
      exact List.mem_singleton_self _
    exact congrArg Prod.fst seen
  · exact always now

end Traffic
end SessionKit
