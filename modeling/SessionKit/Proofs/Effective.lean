import SessionKit.Proofs.Acceptance
import SessionKit.Proofs.Capacity
import SessionKit.Proofs.Drawing
import SessionKit.Proofs.Expiry
import SessionKit.Proofs.Tokens

/-!
# Configurations at work

Whoever works with a configuration has ways of its own to deal with values that make no sense: zeros
stand for defaults, lifetimes saturate, alphabets are refused. A configuration that passes its check
meets none of them, so that its values are those that are used.
-/

namespace SessionKit

/-! ## Lifetimes -/

/-- A hundred years are too few to saturate. -/
theorem Duration.saturating_eq {n : Int} (pos : 0 < n) (short : n ≤ Session.maxMaxAgeSecs) :
    Duration.saturating n = Duration.ofSeconds n := by
  have limit : Numeral.maxSigned64 / 1000 = 9223372036854775 := rfl
  simp only [Session.maxMaxAgeSecs] at short
  exact if_pos (by omega)

namespace Timestamp

variable {t e : Timestamp} {n : Int}

/-- There are a hundred years of 365 days left until the end of the last second. -/
def Early (t : Timestamp) : Prop := t.seconds + 100 * 365 * secondsPerDay ≤ lastSecond

instance : Decidable t.Early :=
  inferInstanceAs (Decidable (t.seconds + 100 * 365 * secondsPerDay ≤ lastSecond))

theorem After.lt (after : After n t e) (pos : 0 < n) : t < e := by
  by_cases leap : t.isLeap
  · have late : nanosPerSecond ≤ t.nanos := of_decide_eq_true leap
    rcases (after_iff_of_leap leap).mp after with ⟨none, _⟩ | ⟨back, _⟩ | ⟨_, distance, noLeap⟩
    · omega
    · omega
    · have early := not_isLeap_iff.mp noLeap
      simp only [lt_iff, sinceEpoch, nanosPerSecond] at *
      omega
  · obtain ⟨distance, noLeap⟩ := (after_iff_of_not_leap leap).mp after
    rw [lt_iff_sinceEpoch leap noLeap, distance]
    simp only [nanosPerSecond]
    omega

theorem exists_after (pos : 0 < n) (short : n ≤ Session.maxMaxAgeSecs) (early : t.Early) :
    ∃ e, After n t e := by
  have range := t.inRange
  have within := t.nanos_lt
  simp only [Early, secondsPerDay, Session.maxMaxAgeSecs] at early short
  -- The seconds are counted from the second of the start; a leap second is left behind.
  let e : Timestamp :=
    { seconds := t.seconds + n
      nanos := t.nanos % nanosPerSecond
      inRange := by omega
      nanos_lt := by simp only [nanosPerSecond]; omega }
  have noLeap : ¬ e.isLeap := by
    rw [not_isLeap_iff]
    exact Nat.mod_lt _ (by decide)
  refine ⟨e, ?_⟩
  by_cases leap : t.isLeap
  · have late : nanosPerSecond ≤ t.nanos := of_decide_eq_true leap
    refine (after_iff_of_leap leap).mpr (.inr (.inr ⟨pos, ?_, noLeap⟩))
    simp only [e, sinceEpoch, nanosPerSecond] at *
    omega
  · have whole := not_isLeap_iff.mp leap
    refine (after_iff_of_not_leap leap).mpr ⟨?_, noLeap⟩
    simp only [e, sinceEpoch, nanosPerSecond] at *
    omega

end Timestamp

/-! ## Identifiers -/

namespace Identifier

variable {σ : Type} {fill : (n : Nat) → σ → Except String (Vector UInt8 n) × σ} {a : Alphabet}
  {b fuel need : Nat} {s : σ} {cs : List Char}

theorem length_of_collect (drawn : ((collect a b fuel need).run fill s).1 = .ok cs) :
    cs.length = need := by
  induction fuel generalizing need s cs with
  | zero => cases drawn
  | succ fuel ih =>
    cases given : fill b s with
    | mk r t =>
      cases r with
      | error reason =>
        rw [collect_of_failure given] at drawn
        cases drawn
      | ok v =>
        by_cases enough : need ≤ (a.selected v.toList).length
        · rw [(collect_of_last given enough).1] at drawn
          cases drawn
          rw [List.length_take, Nat.min_eq_left enough]
        · have short : (a.selected v.toList).length < need := Nat.lt_of_not_le enough
          rw [(collect_of_more given short).1] at drawn
          cases more : ((collect a b fuel (need - (a.selected v.toList).length)).run fill t).1 with
          | error cause =>
            rw [more] at drawn
            cases drawn
          | ok rest =>
            rw [more] at drawn
            cases drawn
            rw [List.length_append, ih more]
            omega

theorem eq_of_mem_requests {r : Nat} (mem : r ∈ (collect a b fuel need).requests fill s) :
    r = b := by
  induction fuel generalizing need s with
  | zero => cases mem
  | succ fuel ih =>
    cases given : fill b s with
    | mk x t =>
      cases x with
      | error reason =>
        have once : (collect a b (fuel + 1) need).requests fill s = [b] := by
          simp [collect, Program.requests, given]
        rw [once] at mem
        exact List.mem_singleton.mp mem
      | ok v =>
        by_cases enough : need ≤ (a.selected v.toList).length
        · rw [(collect_of_last given enough).2] at mem
          exact List.mem_singleton.mp mem
        · rw [(collect_of_more given (Nat.lt_of_not_le enough)).2] at mem
          rcases List.mem_cons.mp mem with own | more
          · exact own
          · exact ih more

theorem draw_requests (a : Alphabet) (fuel : Nat) (length : Option Nat) (s : σ) :
    (draw a fuel length).requests fill s =
      (collect a (a.batch (drawnLength length)) fuel (drawnLength length)).requests fill s :=
  Program.requests_bind_done _ _ s

theorem drawnLength_of_ne_zero {n : Nat} (nonzero : n ≠ 0) : drawnLength (some n) = n := by
  cases n with
  | zero => exact absurd rfl nonzero
  | succ n => rfl

/-- Identifiers that are asked for with some length have just this length, and are drawn in batches
of the size that belongs to it. -/
structure Exact (n : Nat) : Prop where
  length {σ : Type} {fill : (n : Nat) → σ → Except String (Vector UInt8 n) × σ} {a : Alphabet}
    {batches : Nat} {s : σ} {id : String} :
    ((draw a batches (some n)).run fill s).1 = .ok id → id.length = n
  batch {σ : Type} {fill : (n : Nat) → σ → Except String (Vector UInt8 n) × σ} {a : Alphabet}
    {batches : Nat} {s : σ} : ∀ r ∈ (draw a batches (some n)).requests fill s, r = a.batch n

theorem exact_of_ne_zero {n : Nat} (nonzero : n ≠ 0) : Exact n where
  length {σ fill a batches s id} drawn := by
    rw [draw_run, drawnLength_of_ne_zero nonzero] at drawn
    cases collected : ((collect a (a.batch n) batches n).run fill s).1 with
    | error cause =>
      rw [collected] at drawn
      cases drawn
    | ok cs =>
      rw [collected] at drawn
      cases drawn
      rw [String.length_ofList, length_of_collect collected]
  batch {σ fill a batches s} r mem := by
    rw [draw_requests, drawnLength_of_ne_zero nonzero] at mem
    exact eq_of_mem_requests mem

theorem Alphabet.toText_of_ofText {text : String} (read : Alphabet.ofText text = .ok a) :
    a.toText = text := by
  unfold ofText at read
  split at read
  next =>
    split at read
    next =>
      split at read
      next =>
        cases read
        exact String.ofList_toList
      next => cases read
    next => cases read
  next => cases read

end Identifier

/-! ## Tokens -/

/-- A token is drawn with one request, for as many bytes as are wanted. -/
theorem Token.requests_draw_of_ne_zero {σ : Type}
    {fill : (n : Nat) → σ → Except String (Vector UInt8 n) × σ} {n : Nat} (nonzero : n ≠ 0)
    (s : σ) : (Token.draw n).requests fill s = [n] := by
  rw [Token.requests_draw, Token.drawnBytes, if_neg nonzero]

/-! ## Creations -/

namespace Manager

variable {σ : Type} {answer : (r : Request) → σ → Answer r × σ} {m : Manager} {n : Int}
  {userId ipAddress userAgent : String}

/-- What can come of a creation when the lifetime of its session is in order: the session expires
exactly so many seconds after its creation, or something that was asked for has failed. -/
inductive Outcome (m : Manager) (answer : (r : Request) → σ → Answer r × σ) (n : Int) :
    Except Session.Error Session.Created → Prop
  | issued {created : Session.Created} (read : ∃ s, created.session.createdAt = (answer .now s).1)
    (after : Timestamp.After n created.session.createdAt created.session.expiresAt)
    (later : created.session.createdAt < created.session.expiresAt) :
    Outcome m answer n (.ok created)
  | noToken {cause : CredentialError}
    (failed : ∃ s, (answer (.token m.settings.tokenBytes) s).1 = .error cause) :
    Outcome m answer n (.error (.generation cause))
  | noIdentifier {cause : CredentialError}
    (failed : ∃ s, (answer (.identifier m.alphabet m.settings.idLength) s).1 = .error cause) :
    Outcome m answer n (.error (.generation cause))
  | notStored {cause : Storage.Error}
    (failed : ∃ x s, (answer (.store (.create x)) s).1 = .error cause) :
    Outcome m answer n (.error (.storage "create session" cause))

theorem issue_outcome {x : Token.Pair × String} {session : Session} {s : σ}
    (read : ∃ s, session.createdAt = (answer .now s).1)
    (after : Timestamp.After n session.createdAt session.expiresAt)
    (later : session.createdAt < session.expiresAt) :
    Outcome m answer n ((m.issue userId x session).run answer s).1 := by
  rw [issue, Program.run_bind, store_run, andThen, Program.ask_bind, Program.run_ask]
  generalize (m.currentGeneration.run answer s).2 = s₁
  cases stored : (answer (.store (.create session)) s₁).1 with
  | error cause => exact .notStored ⟨session, s₁, stored⟩
  | ok _ =>
    rw [Program.done_bind, Program.run_bind, Program.run_bind]
    exact .issued read after later

theorem create_outcome (maxAge : m.settings.maxAge = .saturating n) (pos : 0 < n)
    (short : n ≤ Session.maxMaxAgeSecs) (early : ∀ s, (answer .now s).1.Early)
    (userId ipAddress userAgent : String) (s : σ) :
    Outcome m answer n ((m.create userId ipAddress userAgent).run.run answer s).1 := by
  rw [create_run, drawCredentials_run, andThen, Program.ask_bind, Program.run_ask]
  cases drawn : (answer (.token m.settings.tokenBytes) s).1 with
  | error cause => exact .noToken ⟨s, drawn⟩
  | ok pair =>
    generalize (answer (.token m.settings.tokenBytes) s).2 = s₁
    rw [Program.ask_bind, Program.run_ask]
    cases named : (answer (.identifier m.alphabet m.settings.idLength) s₁).1 with
    | error cause => exact .noIdentifier ⟨s₁, named⟩
    | ok id =>
      generalize (answer (.identifier m.alphabet m.settings.idLength) s₁).2 = s₂
      rw [Program.done_bind, Program.run_ask]
      obtain ⟨e, after⟩ := Timestamp.exists_after pos short (early s₂)
      have lifetime : (answer .now s₂).1.add? m.settings.maxAge = some e := by
        rw [maxAge]
        exact Timestamp.add?_saturating.mpr after
      rw [createAt_some m lifetime]
      exact issue_outcome ⟨s₂, rfl⟩ after (after.lt pos)

end Manager

/-! ## Configurations -/

namespace Config

variable {c : Config}

/-- The program works with what is written in a configuration, or with the defaults of a section
that is missing, and with nothing else. -/
structure RunsAsWritten (c : Config) : Prop where
  alphabet : ∃ a, c.identifierGenerator = .ok a ∧ a.toText = c.identifierAlphabet
  /-- As long as the cache is in use, whoever uses it. -/
  cache : c.cacheEnabled → ∃ settings, c.cacheSettings = some settings ∧
    ∀ (ts : List Cache.Sharing.Transition) (s : Cache.Sharing.State),
      Service.Run Cache.Sharing.service (Cache.Sharing.fresh settings) ts s →
      s.world.settings.ttl = Duration.ofSeconds c.cacheTtlSecs.toNat ∧
        s.world.settings.maxSize = c.cacheMaxSize.toNat
  sessions : c.sessionSettings.tokenBytes = (c.inForce .session).tokenBytes.toNat ∧
    c.sessionSettings.idLength = (c.inForce .session).idLength.toNat
  maxAge : c.sessionSettings.maxAge = Duration.ofSeconds c.sessionMaxAgeSecs.toInt
  maxAge_pos : 0 < c.sessionMaxAgeSecs.toInt
  tokenBytes : ∀ {σ : Type} (fill : (n : Nat) → σ → Except String (Vector UInt8 n) × σ) (s : σ),
    (Token.draw c.sessionSettings.tokenBytes).requests fill s = [c.sessionSettings.tokenBytes]
  idLength : Identifier.Exact c.sessionSettings.idLength
  identifierLength : Identifier.Exact c.identifierLength.toNat
  /-- Whatever the storage and the cache do, and others at the same time. -/
  create : ∀ {σ : Type} (answer : (r : Manager.Request) → σ → Manager.Answer r × σ) (m : Manager),
    m.settings = c.sessionSettings → (∀ s, (answer .now s).1.Early) →
    ∀ (userId ipAddress userAgent : String) (s : σ),
      Manager.Outcome m answer c.sessionMaxAgeSecs.toInt
        ((m.create userId ipAddress userAgent).run.run answer s).1

theorem cache_as_written {settings : Cache.Settings} {ts : List Cache.Sharing.Transition}
    {s : Cache.Sharing.State} (ttl : settings.ttl.nanoseconds ≠ 0) (maxSize : settings.maxSize ≠ 0)
    (run : Service.Run Cache.Sharing.service (Cache.Sharing.fresh settings) ts s) :
    s.world.settings.ttl = settings.ttl ∧ s.world.settings.maxSize = settings.maxSize := by
  rw [(Cache.Sharing.kept_of_run run).configured]
  exact ⟨if_neg ttl, if_neg maxSize⟩

theorem toNat_ne_zero {n : UInt64} (nonzero : n ≠ 0) : n.toNat ≠ 0 :=
  fun none => nonzero (UInt64.toNat_inj.mp none)

theorem maxAge_eq (c : Config) :
    c.sessionSettings.maxAge = .saturating c.sessionMaxAgeSecs.toInt := by
  rw [sessionMaxAgeSecs_eq]
  rfl

section Checked

variable (checked : c.check = .ok ())
include checked

theorem session_of_check : (c.inForce .session).Acceptable :=
  SessionSection.check_eq_ok.mp (check_inForce checked .session)

theorem maxAge_of_check : 0 < c.sessionMaxAgeSecs.toInt ∧
    c.sessionMaxAgeSecs.toInt ≤ Session.maxMaxAgeSecs := by
  rw [sessionMaxAgeSecs_eq]
  exact ⟨(session_of_check checked).positive, (session_of_check checked).short⟩

theorem cache_of_check : c.cacheTtlSecs ≠ 0 ∧ c.cacheMaxSize ≠ 0 := by
  rw [cacheTtlSecs_eq, cacheMaxSize_eq]
  exact CacheSection.check_eq_ok.mp (check_inForce checked .cache)

theorem identifier_of_check :
    (∃ a, Identifier.Alphabet.ofText c.identifierAlphabet = .ok a) ∧ c.identifierLength ≠ 0 := by
  rw [identifierAlphabet_eq, identifierLength_eq]
  exact IdentifierSection.check_eq_ok.mp (check_inForce checked .identifier)

end Checked

/-- A configuration that passes its check runs as it is written. -/
theorem runs_as_written_of_check {c : Config} (checked : c.check = .ok ()) : RunsAsWritten c := by
  have session := session_of_check checked
  obtain ⟨positive, short⟩ := maxAge_of_check checked
  obtain ⟨ttl, maxSize⟩ := cache_of_check checked
  obtain ⟨⟨a, read⟩, length⟩ := identifier_of_check checked
  exact
    { sessions := ⟨rfl, rfl⟩
      alphabet := by
        refine ⟨a, ?_, Identifier.Alphabet.toText_of_ofText read⟩
        rw [identifierGenerator, read]
        rfl
      cache := by
        intro enabled
        refine ⟨_, if_pos enabled, fun ts s run => cache_as_written ?_ (toNat_ne_zero maxSize) run⟩
        have some := toNat_ne_zero ttl
        simp only [Duration.ofSeconds]
        omega
      maxAge := (maxAge_eq c).trans (Duration.saturating_eq positive short)
      maxAge_pos := positive
      tokenBytes := by
        intro σ fill s
        refine Token.requests_draw_of_ne_zero ?_ s
        have some : minTokenBytes ≤ c.sessionSettings.tokenBytes := session.token
        simp only [minTokenBytes] at some
        omega
      idLength := Identifier.exact_of_ne_zero (toNat_ne_zero session.id)
      identifierLength := Identifier.exact_of_ne_zero (toNat_ne_zero length)
      create := by
        intro σ answer m settings early
        have maxAge : m.settings.maxAge = .saturating c.sessionMaxAgeSecs.toInt :=
          settings ▸ maxAge_eq c
        exact Manager.create_outcome maxAge positive short early }

/-- The longest lifetime, and the least of everything else. -/
def boundaryConfig : Config where
  session := some { maxAgeSecs := 3153600000, tokenBytes := 16, idLength := 1 }
  cache := some { ttlSecs := 1, maxSize := 1 }
  identifier := some { alphabet := "01234567", length := 1 }

theorem runs_as_written_of_check_sample :
    boundaryConfig.check = .ok () ∧ RunsAsWritten boundaryConfig ∧ Timestamp.epoch.Early := by
  have checked : boundaryConfig.check = .ok () := by decide +kernel
  exact ⟨checked, runs_as_written_of_check checked, by decide +kernel⟩

end Config
end SessionKit
