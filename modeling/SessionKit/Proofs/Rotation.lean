import SessionKit.Proofs.Solitude

/-!
# A refresh that fails

A refresh ends the old session before it creates the new one, and there is no way back. If it fails
at the old session, nothing has changed; if it fails at the new one, the old one is gone.
-/

namespace SessionKit.Traffic

open Manager (Order andThen)

variable {P : Moment → Prop} {w w' : World} {m : Manager} {token : String} {x : Session}
  {stale : String → Prop}

/-! ## Verifications of a settled world -/

/-- A session that is stored is verified as long as the storage answers and it has not expired. -/
theorem verify_of_stored (settled : Settled m stale w) (fresh : ¬ stale (Token.digest token))
    (nonempty : ¬ token.isEmpty) (stored : w.storage.byHash? (Token.digest token) = some x)
    {t : Nat → Moment} (answers : ∀ n, (t n).fault = none ∧ (t n).now < x.expiresAt) :
    (alone t (m.verify token).run w).1 = .ok x := by
  obtain ⟨_, verdict⟩ := post_of_alone (P := fun t => t.fault = none ∧ t.now < x.expiresAt)
    (wp_verify_of_fresh settled fresh) answers
  generalize (alone t (m.verify token).run w).1 = r at verdict
  cases verdict with
  | accepted stored' _ _ => exact congrArg Except.ok (Option.some.inj (stored'.symm.trans stored))
  | unread answers fault _ => exact absurd (answers.1.symm.trans fault) nofun
  | missing absent _ => exact absurd ⟨x, Storage.Memory.mem_of_byHash? stored⟩ absent
  | expired stored' answers late =>
    obtain rfl := Option.some.inj (stored'.symm.trans stored)
    exact absurd late (Timestamp.not_le_of_lt answers.2)
  | empty empty => exact absurd empty nonempty

theorem verify_of_not_stored (settled : Settled m stale w) (fresh : ¬ stale (Token.digest token))
    (nonempty : ¬ token.isEmpty) (absent : ¬ w.Stored (Token.digest token)) {t : Nat → Moment}
    (answers : ∀ n, (t n).fault = none) :
    (alone t (m.verify token).run w).1 = .error .notFound := by
  have held {y : Session} (stored : w.storage.byHash? (Token.digest token) = some y) :
      w.Stored (Token.digest token) := ⟨y, Storage.Memory.mem_of_byHash? stored⟩
  obtain ⟨_, verdict⟩ := post_of_alone (P := fun t => t.fault = none)
    (wp_verify_of_fresh settled fresh) answers
  generalize (alone t (m.verify token).run w).1 = r at verdict
  cases verdict with
  | accepted stored _ _ => exact absurd (held stored) absent
  | unread answers fault _ => exact absurd (answers.symm.trans fault) nofun
  | missing _ _ => rfl
  | expired stored _ _ => exact absurd (held stored) absent
  | empty empty => exact absurd empty nonempty

/-- What is verified is stored. -/
theorem stored_of_verified (settled : Settled m stale w) (fresh : ¬ stale (Token.digest token))
    {t : Nat → Moment} (verified : (alone t (m.verify token).run w).1 = .ok x) :
    w.storage.byHash? (Token.digest token) = some x ∧ ¬ token.isEmpty := by
  obtain ⟨_, verdict⟩ := post_of_alone (P := fun _ => True) (wp_verify_of_fresh settled fresh)
    fun _ => trivial
  rw [verified] at verdict
  cases verdict with
  | accepted stored nonempty _ => exact ⟨stored, nonempty⟩

/-! ## Refreshes -/

/-- Why the old session could not be ended. -/
inductive Undestroyed : Session.Error → Prop
  | unread (reason : String) : Undestroyed (.storage "look up session" (.backend reason))
  | undeleted (reason : String) : Undestroyed (.storage "delete session" (.backend reason))

/-- Which of the two it was can be told from the error. -/
theorem Undestroyed.not_uncreated {e : Session.Error} (h : Undestroyed e) : ¬ Uncreated m e := by
  intro uncreated
  generalize same : e = e' at uncreated
  cases h with
  | unread reason => cases uncreated <;> simp at same
  | undeleted reason => cases uncreated <;> simp at same

/-- A refresh of a stored session fails before it has changed the storage, or after it has ended
the session. -/
theorem wp_refresh_of_stored (settled : Settled m stale w) (fresh : ¬ stale (Token.digest token))
    (nonempty : ¬ token.isEmpty) (stored : w.storage.byHash? (Token.digest token) = some x)
    (unexpired : ∀ t, P t → t.now < x.expiresAt) :
    (solitude P).wp (m.refresh token).run
      (fun r w' => Settled m stale w' ∧ ∀ e, r = .error e →
        Undestroyed e ∧ w'.storage = w.storage ∨
          Uncreated m e ∧ ¬ w'.Stored (Token.digest token)) w := by
  have held : w.Stored (Token.digest token) := ⟨x, Storage.Memory.mem_of_byHash? stored⟩
  rw [Manager.refresh_run]
  refine Discipline.wp_andThen (wp_verify_of_fresh settled fresh) ?_ ?_
  · rintro old w₁ ⟨settled, accepted⟩
    have same : w₁.storage = w.storage := by
      cases accepted with
      | accepted _ _ same => exact same
    refine Discipline.wp_andThen (wp_destroy settled token) ?_ ?_
    · rintro _ w₂ ⟨settled, gone⟩
      have absent : ¬ w₂.Stored (Token.digest token) := by
        cases gone with
        | gone absent => exact absent
      refine Discipline.wp_andThen (wp_create settled _ _ _) ?_ ?_
      · rintro created w₃ ⟨settled, _⟩
        apply solitude_quiet.wp_log_bind
        exact solitude_done.mpr ⟨settled, nofun⟩
      · rintro e w₃ ⟨settled, uncreated⟩
        refine solitude_done.mpr ⟨settled, fun e' failed => .inr ?_⟩
        obtain ⟨uncreated, unchanged⟩ := uncreated e' failed
        refine ⟨uncreated, ?_⟩
        rwa [World.Stored, unchanged]
    · rintro e w₂ ⟨settled, destruction⟩
      refine solitude_done.mpr ⟨settled, fun e' failed => .inl ?_⟩
      obtain rfl := Except.error.inj failed
      cases destruction with
      | missing absent _ =>
        rw [World.Stored, same] at absent
        exact absurd held absent
      | failed _ _ unchanged => exact ⟨.undeleted _, unchanged.trans same⟩
      | empty empty => exact absurd empty nonempty
  · rintro e w₁ ⟨settled, verdict⟩
    refine solitude_done.mpr ⟨settled, fun e' failed => .inl ?_⟩
    obtain rfl := Except.error.inj failed
    cases verdict with
    | unread _ _ same => exact ⟨.unread _, same⟩
    | missing absent _ => exact absurd held absent
    | expired stored' ht late =>
      obtain rfl := Option.some.inj (stored'.symm.trans stored)
      exact absurd late (Timestamp.not_le_of_lt (unexpired _ ht))
    | empty empty => exact absurd empty nonempty

/-- A refresh that fails before the session expires has failed at the old session, which then is
still stored and still verified; or at the new one, and then the old one is gone. -/
theorem kept_or_lost_of_refresh_error {m : Manager} {settings : Cache.Settings} {w w' : World}
    {token : String} {x : Session} {e : Session.Error} {t u : Nat → Moment}
    (reached : Reached m settings (Token.digest token) w)
    (verified : (alone t (m.verify token).run w).1 = .ok x)
    (unexpired : ∀ n, (u n).now < x.expiresAt)
    (failed : alone u (m.refresh token).run w = (.error e, w')) :
    (Undestroyed e ∧ w'.storage = w.storage ∧
      w'.storage.byHash? (Token.digest token) = some x ∧
      ∀ v : Nat → Moment, (∀ n, (v n).fault = none ∧ (v n).now < x.expiresAt) →
        (alone v (m.verify token).run w').1 = .ok x) ∨
    (Uncreated m e ∧ ¬ w'.Stored (Token.digest token) ∧
      ∀ v : Nat → Moment, (∀ n, (v n).fault = none) →
        (alone v (m.verify token).run w').1 = .error .notFound) := by
  have fresh : ¬ Token.digest token ≠ Token.digest token := not_not_intro rfl
  obtain ⟨stored, nonempty⟩ := stored_of_verified reached.settled fresh verified
  have promised := wp_refresh_of_stored (P := fun t => t.now < x.expiresAt) reached.settled fresh
    nonempty stored fun _ => id
  obtain ⟨settled, outcome⟩ := post_of_alone promised unexpired
  rw [failed] at settled outcome
  rcases outcome e rfl with ⟨undestroyed, same⟩ | ⟨uncreated, absent⟩
  · have stored' : w'.storage.byHash? (Token.digest token) = some x := by rwa [same]
    refine .inl ⟨undestroyed, same, stored', fun v answers => ?_⟩
    exact verify_of_stored settled fresh nonempty stored' answers
  · refine .inr ⟨uncreated, absent, fun v answers => ?_⟩
    exact verify_of_not_stored settled fresh nonempty absent answers

/-- What is left when the sample manager has issued its session. -/
def sampleWorld : World :=
  (alone (fun _ => sampleMoment) (sampleManager.create "u" "i" "a").run (fresh {}).world).2

/-- The same moment with a storage that fails. -/
def faultyMoment : Moment := { sampleMoment with fault := some "down" }

/-- Moments of which the third finds a storage that fails. -/
def sampleOutage (n : Nat) : Moment := if n = 2 then faultyMoment else sampleMoment

/-- The same moment with a random source that fails. -/
def exhaustedMoment : Moment :=
  { sampleMoment with bytes := fun _ => .error Random.exhausted }

theorem sampleWorld_reached : Reached sampleManager {} (Token.digest sampleToken) sampleWorld :=
  .performed .fresh (.create "u" "i" "a") (fun _ => sampleMoment) nofun

theorem kept_or_lost_of_refresh_error_sample :
    ∃ w', alone sampleOutage (sampleManager.refresh sampleToken).run sampleWorld =
        (.error (.storage "delete session" (.backend "down")), w') ∧
      w'.storage.byHash? (Token.digest sampleToken) = some sampleCreated.session := by
  have verified : (alone (fun _ => sampleMoment) (sampleManager.verify sampleToken).run
      sampleWorld).1 = .ok sampleCreated.session := by
    decide +kernel
  have failed : (alone sampleOutage (sampleManager.refresh sampleToken).run sampleWorld).1 =
      .error (.storage "delete session" (.backend "down")) := by
    decide +kernel
  have unexpired (n : Nat) : (sampleOutage n).now < sampleCreated.session.expiresAt := by
    unfold sampleOutage
    split
    · decide +kernel
    · decide +kernel
  generalize run : alone sampleOutage (sampleManager.refresh sampleToken).run sampleWorld = ended
    at failed
  obtain ⟨r, w'⟩ := ended
  obtain rfl : r = .error _ := failed
  obtain ⟨_, _, stored, _⟩ | ⟨uncreated, _⟩ :=
    kept_or_lost_of_refresh_error sampleWorld_reached verified unexpired run
  · exact ⟨w', rfl, stored⟩
  · exact absurd uncreated (Undestroyed.undeleted "down").not_uncreated

/-- A refresh whose token cannot be drawn costs the session, which was good before. -/
theorem lost_by_refresh_error :
    Reached sampleManager {} (Token.digest sampleToken) sampleWorld ∧
      (alone (fun _ => sampleMoment) (sampleManager.verify sampleToken).run sampleWorld).1 =
        .ok sampleCreated.session ∧
      exhaustedMoment.now < sampleCreated.session.expiresAt ∧
      (alone (fun _ => exhaustedMoment) (sampleManager.refresh sampleToken).run sampleWorld).1 =
        .error (.generation (.random Random.exhausted)) ∧
      ¬ (alone (fun _ => exhaustedMoment) (sampleManager.refresh sampleToken).run
        sampleWorld).2.Stored (Token.digest sampleToken) ∧
      (alone (fun _ => sampleMoment) (sampleManager.verify sampleToken).run
        (alone (fun _ => exhaustedMoment) (sampleManager.refresh sampleToken).run
          sampleWorld).2).1 = .error .notFound := by
  refine ⟨sampleWorld_reached, ?_⟩
  decide +kernel

/-- Where a destruction by identifier could not see the session that it deleted, a refresh fails
because the session is not stored, although the cache had it verified. -/
theorem missed_after_unseen_destruction :
    ∃ w, w = (alone (fun n => if n = 0 then faultyMoment else sampleMoment)
        (sampleManager.destroyById "s").run sampleWorld).2 ∧
      (alone (fun _ => sampleMoment) (sampleManager.verify sampleToken).run w).1 =
        .ok sampleCreated.session ∧
      (alone (fun _ => sampleMoment) (sampleManager.refresh sampleToken).run w).1 =
        .error .notFound ∧
      ¬ w.Stored (Token.digest sampleToken) := by
  refine ⟨_, rfl, ?_⟩
  decide +kernel

end SessionKit.Traffic
