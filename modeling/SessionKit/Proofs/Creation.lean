import SessionKit.Proofs.Issuance
import SessionKit.Proofs.Solitude

/-!
# Creations

A creation writes to the storage once, after all that can go wrong before, and the storage refuses a
digest that it has. So a creation that fails leaves the world as it was, and one that succeeds adds
its session to those that were stored.
-/

namespace SessionKit.Traffic

open Manager (Action andThen newSession)

variable {α : Type} {P : Moment → Prop} {w : World} {m : Manager} {p : Action α}
  {userId ipAddress userAgent : String}

/-! ## What is drawn -/

theorem wp_unstored (only : p.Only fun r => ∀ call, r ≠ .store call) :
    (solitude P).wp p (fun _ w' => w'.storage = w.storage) w := by
  induction p generalizing w with
  | done a => exact solitude_done.mpr rfl
  | ask r next ih =>
    refine solitude_ask.mpr fun t _ => ?_
    rw [← storage_serve (t := t) (w := w) only.1]
    exact ih _ (only.2 _)

/-- A token that was drawn, with its digest. -/
structure Genuine (pair : Token.Pair) : Prop where
  digest : pair.digest = Token.digest pair.token
  nonempty : ¬ pair.token.isEmpty

theorem Moment.genuine {t : Moment} {n : Nat} {pair : Token.Pair} (drawn : t.token n = .ok pair) :
    Genuine pair where
  digest := t.digest_token drawn
  nonempty := by simpa using Moment.token_ne_empty drawn

theorem wp_drawCredentials :
    (solitude P).wp m.drawCredentials.run
      (fun r w' => w' = w ∧ (∀ e, r = .error e → Uncreated m e) ∧
        ∀ x, r = .ok x → Genuine x.1) w := by
  rw [Manager.drawCredentials_run]
  refine solitude_ask.mpr fun t _ => ?_
  rw [serve_token]
  cases drawn : t.token m.settings.tokenBytes with
  | error cause =>
    exact solitude_done.mpr ⟨rfl, fun e same => Except.error.inj same ▸ .generation cause, nofun⟩
  | ok pair =>
    refine solitude_ask.mpr fun t' _ => ?_
    rw [serve_identifier]
    rcases t'.identifier with cause | id
    · exact solitude_done.mpr ⟨rfl, fun e same => Except.error.inj same ▸ .generation cause, nofun⟩
    · refine solitude_done.mpr ⟨rfl, nofun, ?_⟩
      rintro _ ⟨⟩
      exact Moment.genuine drawn

/-! ## What becomes of the world -/

/-- The session was created when the clock read so, and was given the lifetime that is set. -/
structure Timed (P : Moment → Prop) (m : Manager) (s : Session) : Prop where
  read : ∃ t, P t ∧ s.createdAt = t.now
  lifetime : s.createdAt.add? m.settings.maxAge = some s.expiresAt

/-- A session was issued to a user, and added to those that were stored. -/
structure Addition (P : Moment → Prop) (m : Manager) (userId ipAddress userAgent : String)
    (created : Session.Created) (w w' : World) : Prop where
  userId : created.session.userId = userId
  ipAddress : created.session.ipAddress = ipAddress
  userAgent : created.session.userAgent = userAgent
  digest : created.session.tokenHash = Token.digest created.token
  nonempty : ¬ created.token.isEmpty
  timed : Timed P m created.session
  free : ¬ w.Stored created.session.tokenHash
  storage : w'.storage.sessions = w.storage.sessions ++ [created.session]

theorem Addition.byHash?_eq {created : Session.Created} {w w' : World} {k : String}
    (added : Addition P m userId ipAddress userAgent created w w') :
    w'.storage.byHash? k =
      if k = created.session.tokenHash then some created.session else w.storage.byHash? k :=
  Storage.Memory.byHash?_of_added added.storage added.free

/-- What a creation comes to. -/
inductive Creation (P : Moment → Prop) (m : Manager) (userId ipAddress userAgent : String)
    (w : World) : Except Session.Error Session.Created → World → Prop
  | issued {created : Session.Created} {w' : World}
    (added : Addition P m userId ipAddress userAgent created w w') :
    Creation P m userId ipAddress userAgent w (.ok created) w'
  | refused {e : Session.Error} (uncreated : Uncreated m e) :
    Creation P m userId ipAddress userAgent w (.error e) w

/-- What comes of putting a new session into the storage. -/
inductive Insertion (P : Moment → Prop) (token : String) (s : Session) (w : World) :
    Except Session.Error Session.Created → World → Prop
  | stored {w' : World} (free : ¬ w.Stored s.tokenHash)
    (added : w'.storage.sessions = w.storage.sessions ++ [s]) :
    Insertion P token s w (.ok { session := s, token }) w'
  /-- The storage fails, or refuses the digest. -/
  | failed {cause : Storage.Error}
    (why : w.Stored s.tokenHash ∨ ∃ t reason, P t ∧ t.fault = some reason) :
    Insertion P token s w (.error (.storage "create session" cause)) w

theorem wp_insertion {x : Token.Pair × String} {s : Session} :
    (solitude P).wp (m.issue userId x s) (Insertion P x.1.token s w) w := by
  refine Discipline.wp_bind_of wp_currentGeneration fun n w₁ same => ?_
  rw [same]
  apply solitude_andThen_store
  · intro t reason moment fault
    exact .failed (.inr ⟨t, reason, moment, fault⟩)
  · intro t _ _ ok
    obtain ⟨free, added⟩ := Storage.Memory.sessions_create_of_ok ok
    have fills : (m.cacheFill n x.1.digest s).Only fun r => ∀ call, r ≠ .store call :=
      m.only_cacheFill (fun _ _ => nofun) fun _ _ => nofun
    -- What comes after the write only concerns the cache.
    refine Discipline.wp_bind_of (wp_unstored fills) fun _ w₂ kept => ?_
    refine solitude_quiet.wp_log_bind (solitude_done.mpr ?_)
    exact .stored free ((congrArg _ kept).trans added)
  · intro t cause _ failed
    have kept : w.called t.now (.create s) = w := by
      rw [World.called]
      congr 1
      exact Storage.Memory.create_of_error failed
    rw [kept]
    exact .failed (.inl (Storage.Memory.holds_of_create_error failed))

/-- What is left of a creation once it is known when the session expires. -/
theorem wp_issue {t : Moment} {x : Token.Pair × String} {expiresAt : Timestamp} (moment : P t)
    (genuine : Genuine x.1) (lifetime : t.now.add? m.settings.maxAge = some expiresAt) :
    (solitude P).wp
      (m.issue userId x (newSession userId ipAddress userAgent x t.now expiresAt))
      (Creation P m userId ipAddress userAgent w) w := by
  refine Discipline.wp_mono (fun r w' insertion => ?_) wp_insertion
  cases insertion with
  | stored free added =>
    exact .issued
      { userId := rfl, ipAddress := rfl, userAgent := rfl, digest := genuine.digest
        nonempty := genuine.nonempty, timed := ⟨⟨t, moment, rfl⟩, lifetime⟩, free
        storage := added }
  | failed _ => exact .refused (.storage _)

theorem wp_creation :
    (solitude P).wp (m.create userId ipAddress userAgent).run
      (Creation P m userId ipAddress userAgent w) w := by
  rw [Manager.create_run]
  refine Discipline.wp_andThen wp_drawCredentials ?_ ?_
  · rintro x w₁ ⟨rfl, -, genuine⟩
    refine solitude_ask.mpr fun t ht => ?_
    show (solitude P).wp (m.createAt userId ipAddress userAgent x t.now) _ _
    cases lifetime : t.now.add? m.settings.maxAge with
    | none =>
      rw [Manager.createAt_none m lifetime]
      exact solitude_done.mpr (.refused .lifetime)
    | some expiresAt =>
      rw [Manager.createAt_some m lifetime]
      exact wp_issue ht (genuine x rfl) lifetime
  · rintro e w₁ ⟨rfl, uncreated, -⟩
    exact solitude_done.mpr (.refused (uncreated e rfl))

/-- A creation that succeeds adds its session, and nothing else, under the digest of its token,
which was free. One that fails leaves storage and cache as they were. -/
def AllOrNothing (m : Manager) (w : World) : Except Session.Error Session.Created × World → Prop
  | (.ok created, w') =>
    ¬ w.Stored (Token.digest created.token) ∧
      created.session.tokenHash = Token.digest created.token ∧
      w'.storage.sessions = w.storage.sessions ++ [created.session]
  | (.error e, w') => Uncreated m e ∧ w' = w

/-- A creation is all or nothing, whatever the world is in which it takes place, whatever is drawn,
and wherever it fails. Either way no session that was stored is touched. -/
theorem all_or_nothing_of_create (m : Manager) (userId ipAddress userAgent : String)
    (t : Nat → Moment) (w : World) :
    AllOrNothing m w (alone t (m.create userId ipAddress userAgent).run w) ∧
      ∀ k s, w.storage.byHash? k = some s →
        (alone t (m.create userId ipAddress userAgent).run w).2.storage.byHash? k = some s := by
  have promised : (solitude fun _ => True).wp (m.create userId ipAddress userAgent).run
      (Creation (fun _ => True) m userId ipAddress userAgent w) w := wp_creation
  have creation := post_of_alone (t := t) promised fun _ => trivial
  generalize alone t (m.create userId ipAddress userAgent).run w = ended at creation ⊢
  obtain ⟨r, w'⟩ := ended
  cases creation with
  | issued added =>
    refine ⟨⟨added.digest ▸ added.free, added.digest, added.storage⟩, fun k s stored => ?_⟩
    rw [added.byHash?_eq, if_neg]
    · exact stored
    · rintro rfl
      exact added.free ⟨s, Storage.Memory.mem_of_byHash? stored⟩
  | refused uncreated => exact ⟨⟨uncreated, rfl⟩, fun _ _ stored => stored⟩

end SessionKit.Traffic
