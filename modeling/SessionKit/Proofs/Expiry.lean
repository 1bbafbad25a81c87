import SessionKit.Proofs.Creation

/-!
# Lifetimes

A session expires exactly so many seconds after its creation as are set, or it is not issued at all.
Two limits are involved: a number of seconds that no length of time can hold is replaced by the
longest length of time or by the shortest, and the time of the expiry may be out of range. The first
is no danger, since no two times are that far apart.
-/

namespace SessionKit

/-! ## Seconds between times -/

namespace Timestamp

variable {t e : Timestamp} {n : Int}

/-- A time is a number of seconds after another, or before it if the number is negative. The second
in which the count starts may be a leap second, but no other leap second is known: none is led to,
and none is counted. -/
structure After (n : Int) (t e : Timestamp) : Prop where
  distance :
    e.sinceEpoch + (if t.isLeap ∧ t.seconds < e.seconds then (nanosPerSecond : Int) else 0) =
      t.sinceEpoch + n * nanosPerSecond
  leap : e.isLeap → e = t

/-- Without a leap second only nanoseconds are counted. -/
theorem after_iff_of_not_leap (h : ¬ t.isLeap) :
    After n t e ↔ e.sinceEpoch = t.sinceEpoch + n * nanosPerSecond ∧ ¬ e.isLeap := by
  constructor
  · rintro ⟨distance, leap⟩
    rw [if_neg fun both => h both.1, Int.add_zero] at distance
    exact ⟨distance, fun late => h (leap late ▸ late)⟩
  · rintro ⟨distance, noLeap⟩
    refine ⟨?_, fun late => absurd late noLeap⟩
    rwa [if_neg fun both => h both.1, Int.add_zero]

/-- The leap second itself is counted on the way forward only: the way back from within it leads to
the second before. -/
theorem after_iff_of_leap (h : t.isLeap) : After n t e ↔
    n = 0 ∧ e = t ∨
      n < 0 ∧ e.sinceEpoch = t.sinceEpoch + n * nanosPerSecond ∧ ¬ e.isLeap ∨
      0 < n ∧ e.sinceEpoch + nanosPerSecond = t.sinceEpoch + n * nanosPerSecond ∧ ¬ e.isLeap := by
  have late : nanosPerSecond ≤ t.nanos := of_decide_eq_true h
  have within := t.nanos_lt
  constructor
  · rintro ⟨distance, leap⟩
    by_cases same : e.isLeap
    · obtain rfl := leap same
      rw [if_neg fun both => absurd both.2 (Int.lt_irrefl _)] at distance
      exact .inl ⟨by simp only [nanosPerSecond] at distance; omega, rfl⟩
    · have early := not_isLeap_iff.mp same
      refine .inr ?_
      simp only [sinceEpoch, nanosPerSecond, h, true_and] at *
      split at distance
      next after => exact .inr ⟨by omega, distance, same⟩
      next before => exact .inl ⟨by omega, by omega, same⟩
  · rintro (⟨rfl, rfl⟩ | ⟨back, distance, noLeap⟩ | ⟨forth, distance, noLeap⟩)
    · exact ⟨by rw [if_neg fun both => absurd both.2 (Int.lt_irrefl _), Int.zero_mul], fun _ => rfl⟩
    · have early := not_isLeap_iff.mp noLeap
      have before : ¬ t.seconds < e.seconds := by
        simp only [sinceEpoch, nanosPerSecond] at *
        omega
      refine ⟨?_, fun leap => absurd leap noLeap⟩
      rwa [if_neg fun both => before both.2, Int.add_zero]
    · have early := not_isLeap_iff.mp noLeap
      have after : t.seconds < e.seconds := by
        simp only [sinceEpoch, nanosPerSecond] at *
        omega
      refine ⟨?_, fun leap => absurd leap noLeap⟩
      rwa [if_pos ⟨h, after⟩]

/-! ## Additions -/

theorem ofNanos?_eq_some_iff : ofNanos? n = some e ↔ e.sinceEpoch = n ∧ ¬ e.isLeap := by
  refine ⟨ofNanos?_eq_some, fun ⟨same, noLeap⟩ => make?_eq_some.mpr ?_⟩
  rw [not_isLeap_iff] at noLeap
  simp only [sinceEpoch, nanosPerSecond] at same noLeap ⊢
  omega

/-- A number of seconds leads to the time that is so many seconds later. -/
theorem add?_ofSeconds : t.add? (Duration.ofSeconds n) = some e ↔ After n t e := by
  have whole : (Duration.ofSeconds n).wholeSeconds = n := Int.mul_tdiv_cancel n (by decide)
  have nanoseconds : (Duration.ofSeconds n).nanoseconds = n * nanosPerSecond := rfl
  by_cases leap : t.isLeap
  · have within := t.nanos_lt
    rw [after_iff_of_leap leap, add?, whole, nanoseconds]
    rcases Int.lt_trichotomy n 0 with back | rfl | forth
    · rw [if_pos (.inr back), ofNanos?_eq_some_iff]
      constructor
      · exact fun led => .inr (.inl ⟨back, led⟩)
      · rintro (⟨rfl, _⟩ | ⟨_, led⟩ | ⟨forth, _⟩)
        · exact absurd back (Int.lt_irrefl _)
        · exact led
        · exact absurd back (Int.lt_asymm forth)
    · rw [if_neg (by simp [leap]), if_neg (by simp only [nanosPerSecond] at *; omega),
        Int.zero_mul, Int.add_zero, Int.toNat_natCast, make?_self, Option.some_inj]
      constructor
      · exact fun same => .inl ⟨rfl, same.symm⟩
      · rintro (⟨_, same⟩ | ⟨back, _⟩ | ⟨forth, _⟩)
        · exact same.symm
        · exact absurd back (Int.lt_irrefl _)
        · exact absurd forth (Int.lt_irrefl _)
    · rw [if_neg (by simp [leap, Int.le_of_lt forth]), if_pos (.inl forth), ofNanos?_eq_some_iff]
      constructor
      · exact fun led => .inr (.inr ⟨forth, by omega, led.2⟩)
      · rintro (⟨rfl, _⟩ | ⟨back, _⟩ | ⟨_, led, noLeap⟩)
        · exact absurd forth (Int.lt_irrefl _)
        · exact absurd back (Int.lt_asymm forth)
        · exact ⟨by omega, noLeap⟩
  · rw [add?_of_not_leap leap, nanoseconds, ofNanos?_eq_some_iff, after_iff_of_not_leap leap]

/-! ## Lengths of time that are too long -/

theorem sinceEpoch_bounds (t : Timestamp) : firstSecond * nanosPerSecond ≤ t.sinceEpoch ∧
    t.sinceEpoch < (lastSecond + 2) * nanosPerSecond := by
  have range := t.inRange
  have within := t.nanos_lt
  simp only [sinceEpoch, nanosPerSecond] at *
  omega

theorem ofNanos?_eq_none (out : n < firstSecond * nanosPerSecond ∨
    (lastSecond + 2) * nanosPerSecond ≤ n) : ofNanos? n = none := by
  rw [Option.eq_none_iff_forall_ne_some]
  intro e led
  have same := (ofNanos?_eq_some led).1
  have range := e.sinceEpoch_bounds
  omega

theorem add?_longest (t : Timestamp) : t.add? .longest = none := by
  have range := t.sinceEpoch_bounds
  have forth : 0 < Duration.longest.wholeSeconds := by decide
  have nanoseconds : Duration.longest.nanoseconds = 9223372036854775807000000 := rfl
  simp only [firstSecond, lastSecond, nanosPerSecond] at range
  rw [add?, nanoseconds]
  split
  · refine ofNanos?_eq_none (.inr ?_)
    simp only [lastSecond, nanosPerSecond]
    omega
  · rw [if_pos (.inl forth)]
    refine ofNanos?_eq_none (.inr ?_)
    simp only [lastSecond, nanosPerSecond]
    omega

theorem add?_shortest (t : Timestamp) : t.add? .shortest = none := by
  have range := t.sinceEpoch_bounds
  have back : Duration.shortest.wholeSeconds < 0 := by decide
  have nanoseconds : Duration.shortest.nanoseconds = -9223372036854775807000000 := rfl
  simp only [firstSecond, lastSecond, nanosPerSecond] at range
  rw [add?, nanoseconds, if_pos (.inr back)]
  refine ofNanos?_eq_none (.inl ?_)
  simp only [firstSecond, nanosPerSecond]
  omega

/-- No two times are further apart than what milliseconds can count. -/
theorem After.natAbs_le (after : After n t e) : n.natAbs ≤ Numeral.maxSigned64 / 1000 := by
  have start := t.sinceEpoch_bounds
  have range := e.sinceEpoch_bounds
  have distance := after.distance
  have limit : Numeral.maxSigned64 / 1000 = 9223372036854775 := rfl
  rw [limit]
  simp only [firstSecond, lastSecond, nanosPerSecond] at start range distance
  split at distance <;> omega

/-- A number of seconds leads to the time that is so many seconds later, also where no length of
time can hold it. -/
theorem add?_saturating : t.add? (Duration.saturating n) = some e ↔ After n t e := by
  unfold Duration.saturating
  split
  next => exact add?_ofSeconds
  next long =>
    have none : ¬ After n t e := fun after => long after.natAbs_le
    split
    · simp [add?_shortest, none]
    · simp [add?_longest, none]

end Timestamp

/-! ## Creations -/

namespace Traffic

open Manager (newSession)

variable {w : World} {m : Manager} {t : Nat → Moment} {userId ipAddress userAgent id : String}
  {pair : Token.Pair}

/-- A creation that draws what it needs. -/
theorem alone_create (drawn : (t 0).token m.settings.tokenBytes = .ok pair)
    (named : (t 1).identifier = .ok id) :
    alone t (m.create userId ipAddress userAgent).run w =
      alone (fun n => t (n + 3)) (m.createAt userId ipAddress userAgent (pair, id) (t 2).now)
        w := by
  rw [Manager.create_run, Manager.drawCredentials_run, Manager.andThen, Program.ask_bind, alone,
    serve_token, drawn]
  show alone _ (Program.bind (.ask (.identifier _ _) _) _) w = _
  rw [Program.ask_bind, alone, serve_identifier, named]
  rfl

/-- A session was issued that is new at one time and expires at another, and it was added to those
that were stored. -/
structure IssuedUntil (now expiresAt : Timestamp) (w : World) (created : Session.Created)
    (w' : World) : Prop where
  createdAt : created.session.createdAt = now
  updatedAt : created.session.updatedAt = now
  expiresAt : created.session.expiresAt = expiresAt
  storage : w'.storage.sessions = w.storage.sessions ++ [created.session]

theorem issued_until_of_create {expiresAt : Timestamp}
    (drawn : (t 0).token m.settings.tokenBytes = .ok pair) (named : (t 1).identifier = .ok id)
    (free : ¬ w.Stored pair.digest) (answers : ∀ n, (t n).fault = none)
    (lifetime : (t 2).now.add? m.settings.maxAge = some expiresAt) :
    ∃ created w', alone t (m.create userId ipAddress userAgent).run w = (.ok created, w') ∧
      IssuedUntil (t 2).now expiresAt w created w' := by
  let s := newSession userId ipAddress userAgent (pair, id) (t 2).now expiresAt
  have promised : (solitude fun moment => moment.fault = none).wp (m.issue userId (pair, id) s)
      (Insertion (fun moment => moment.fault = none) pair.token s w) w := wp_insertion
  have insertion := post_of_alone promised fun n => answers (n + 3)
  rw [alone_create drawn named, Manager.createAt_some m lifetime]
  generalize alone (fun n => t (n + 3)) _ w = ended at insertion ⊢
  obtain ⟨r, w'⟩ := ended
  cases insertion with
  | stored _ added => exact ⟨_, w', rfl, rfl, rfl, rfl, added⟩
  | failed why =>
    rcases why with taken | ⟨_, reason, sound, fault⟩
    · exact absurd taken free
    · rw [sound] at fault
      cases fault

/-- A creation whose session would expire at no time at all does nothing. -/
theorem out_of_range_of_create (drawn : (t 0).token m.settings.tokenBytes = .ok pair)
    (named : (t 1).identifier = .ok id) (out : (t 2).now.add? m.settings.maxAge = none) :
    alone t (m.create userId ipAddress userAgent).run w =
      (.error (.lifetimeOutOfRange m.settings.maxAge), w) := by
  rw [alone_create drawn named, Manager.createAt_none m out]
  rfl

/-- Whatever is drawn and whatever fails, a session that is issued expires at some time. -/
theorem not_issued_of_saturated (created : Session.Created)
    (saturated : m.settings.maxAge = .longest ∨ m.settings.maxAge = .shortest) :
    (alone t (m.create userId ipAddress userAgent).run w).1 ≠ .ok created := by
  have promised : (solitude fun _ => True).wp (m.create userId ipAddress userAgent).run
      (Creation (fun _ => True) m userId ipAddress userAgent w) w := wp_creation
  have creation := post_of_alone (t := t) promised fun _ => trivial
  generalize alone t (m.create userId ipAddress userAgent).run w = ended at creation ⊢
  obtain ⟨r, w'⟩ := ended
  rintro rfl
  cases creation with
  | issued added =>
    have lifetime := added.timed.lifetime
    rcases saturated with long | short
    · rw [long, Timestamp.add?_longest] at lifetime
      cases lifetime
    · rw [short, Timestamp.add?_shortest] at lifetime
      cases lifetime

/-- A creation issues a session that expires exactly as many seconds after it as are set, if that
is a time at all. If it is none, nothing is issued and nothing is stored. -/
theorem lifetime_exact_or_refused {m : Manager} {settings : Session.Settings} {seconds : Int64}
    {t : Nat → Moment} {w : World} {pair : Token.Pair} {id : String}
    (set : m.settings = settings.withMaxAgeSecs seconds)
    (drawn : (t 0).token m.settings.tokenBytes = .ok pair) (named : (t 1).identifier = .ok id)
    (free : ¬ w.Stored pair.digest) (answers : ∀ n, (t n).fault = none)
    (userId ipAddress userAgent : String) :
    (∀ expiresAt, Timestamp.After seconds.toInt (t 2).now expiresAt → ∃ created w',
      alone t (m.create userId ipAddress userAgent).run w = (.ok created, w') ∧
        IssuedUntil (t 2).now expiresAt w created w') ∧
    ((∀ e, ¬ Timestamp.After seconds.toInt (t 2).now e) →
      alone t (m.create userId ipAddress userAgent).run w =
        (.error (.lifetimeOutOfRange m.settings.maxAge), w)) ∧
    (m.settings.maxAge = .longest ∨ m.settings.maxAge = .shortest →
      ∀ (t : Nat → Moment) (w : World) (created : Session.Created),
        (alone t (m.create userId ipAddress userAgent).run w).1 ≠ .ok created) := by
  have maxAge : m.settings.maxAge = .saturating seconds.toInt := congrArg (·.maxAge) set
  refine ⟨fun expiresAt after => ?_, fun none => ?_, fun saturated t w created => ?_⟩
  · refine issued_until_of_create drawn named free answers ?_
    rw [maxAge]
    exact Timestamp.add?_saturating.mpr after
  · refine out_of_range_of_create drawn named ?_
    rw [maxAge, Option.eq_none_iff_forall_ne_some]
    exact fun e led => none e (Timestamp.add?_saturating.mp led)
  · exact not_issued_of_saturated created saturated

/-- A manager whose sessions are to last for as many seconds as there can be. -/
def endlessManager : Manager :=
  { settings := ({} : Session.Settings).withMaxAgeSecs Int64.maxValue }

theorem lifetime_exact_or_refused_sample :
    (∃ created w', alone (fun _ => sampleMoment) (sampleManager.create "u" "i" "a").run
        (fresh {}).world = (.ok created, w') ∧
      IssuedUntil .epoch sampleCreated.session.expiresAt (fresh {}).world created w') ∧
    alone (fun _ => sampleMoment) (endlessManager.create "u" "i" "a").run (fresh {}).world =
      (.error (.lifetimeOutOfRange .longest), (fresh {}).world) := by
  have drawn : sampleMoment.token Token.defaultBytes =
      .ok ⟨sampleToken, Token.digest sampleToken⟩ := by
    decide +kernel
  constructor
  · exact (@lifetime_exact_or_refused sampleManager {} 86400 (fun _ => sampleMoment)
      (fresh {}).world _ _ (by decide +kernel) drawn rfl (by decide) (fun _ => rfl) "u" "i" "a").1
      _ ⟨by decide, by decide⟩
  · exact (@lifetime_exact_or_refused endlessManager {} Int64.maxValue (fun _ => sampleMoment)
      (fresh {}).world _ _ rfl drawn rfl (by decide) (fun _ => rfl) "u" "i" "a").2.1
      fun e after => absurd after.natAbs_le (by decide)

end Traffic
end SessionKit
