import SessionKit.Proofs.Survival
import SessionKit.Proofs.Verdicts

/-!
# A refresh that succeeds

Operations that go one after the other keep one session for each digest, and every session that they
store is under the digest of a token that was drawn, and was given its lifetime at a reading of the
clock. So a refresh that succeeds puts one session in the place of another. Whoever holds a third
token does not notice.
-/

namespace SessionKit.Traffic

open Manager (Request Action Order)

variable {α : Type} {P : Moment → Prop} {w w' : World} {m : Manager} {k token : String}
  {old x : Session} {created : Session.Created} {t : Nat → Moment} {p : Action α} {u : Turn}
  {us : List Turn} {userId ipAddress userAgent : String}

/-! ## One session for each digest -/

theorem keyed_serve {moment : Moment} {r : Request} (keyed : w.storage.Keyed) :
    (moment.serve r w).2.storage.Keyed := by
  cases r with
  | store call =>
    rw [serve_store]
    rcases store_cases (t := moment) (w := w) call with ⟨reason, failed⟩ | done
    · rwa [failed]
    · rw [done]
      exact keyed.call moment.now call
  | _ => rwa [storage_serve (by simp)]

theorem keyed_alone (keyed : w.storage.Keyed) : (alone t p w).2.storage.Keyed := by
  induction p generalizing t w with
  | done a => exact keyed
  | ask r next ih => exact ih _ (keyed_serve keyed)

theorem keyed_after (keyed : w.storage.Keyed) : (w.after m us).storage.Keyed := by
  induction us generalizing w with
  | nil => exact keyed
  | cons u us ih => exact ih (keyed_alone keyed)

/-! ## Where sessions come from -/

/-- What is stored afterwards was stored before, or has been created in between. -/
def Arrives (P : Moment → Prop) (m : Manager) (w w' : World) : Prop :=
  ∀ s ∈ w'.storage.sessions, s ∈ w.storage.sessions ∨ Timed P m s

/-- A program that creates no session adds none. -/
theorem wp_fewer (only : p.Only fun r => ∀ s, r ≠ .store (.create s)) :
    (solitude P).wp p (fun _ w' => w'.storage.sessions ⊆ w.storage.sessions) w := by
  induction p generalizing w with
  | done a => exact solitude_done.mpr fun _ => id
  | ask r next ih =>
    refine solitude_ask.mpr fun t _ => ?_
    have fewer : (t.serve r w).2.storage.sessions ⊆ w.storage.sessions := fun s mem =>
      (mem_of_mem_serve mem).resolve_right fun stores => only.1 s (eq_of_request_stores stores)
    exact Discipline.wp_mono (fun _ _ rest => List.Subset.trans rest fewer) (ih _ (only.2 _))

theorem wp_program_fewer {o : Order} (none : ∀ s, ¬ o.Asks (.store (.create s))) :
    (solitude P).wp (o.program m) (fun _ w' => w'.storage.sessions ⊆ w.storage.sessions) w :=
  wp_fewer ((o.only_program m).mono fun _ asks s same => none s (same ▸ asks))

/-- A refresh adds nothing to the storage until it creates its session, and that comes last. -/
theorem wp_refresh_of_creation {post : Except Session.Error Session.Created → World → Prop}
    (last : ∀ (old : Session) w₁ r w', w₁.storage.sessions ⊆ w.storage.sessions →
      Creation P m old.userId old.ipAddress old.userAgent w₁ r w' → post r w')
    (failed : ∀ e w', w'.storage.sessions ⊆ w.storage.sessions → post (.error e) w') :
    (solitude P).wp (m.refresh token).run post w := by
  rw [Manager.refresh_run]
  refine Discipline.wp_andThen (wp_program_fewer (o := .verify token) fun _ => id) ?_
    fun e _ fewer => solitude_done.mpr (failed e _ fewer)
  intro old w₁ first
  refine Discipline.wp_andThen (wp_program_fewer (o := .destroy token) fun _ => id) ?_
    fun e _ fewer => solitude_done.mpr (failed e _ (List.Subset.trans fewer first))
  intro _ w₂ second
  have fewer := List.Subset.trans second first
  refine Discipline.wp_andThen wp_creation ?_ fun e w₃ creation =>
    solitude_done.mpr (last old w₂ _ w₃ fewer creation)
  intro created w₃ creation
  exact solitude_quiet.wp_log_bind (solitude_done.mpr (last old w₂ _ w₃ fewer creation))

/-- What is stored afterwards was stored before, or has been created and is handed out. -/
def Delivers (P : Moment → Prop) (m : Manager) (o : Order) (w : World) (r : o.Result) (w' : World) :
    Prop :=
  ∀ s ∈ w'.storage.sessions, s ∈ w.storage.sessions ∨
    ∃ created, o.issued? r = some created ∧ created.session = s ∧ Timed P m s

theorem Creation.delivers {r : Except Session.Error Session.Created} {w₁ : World}
    (creation : Creation P m userId ipAddress userAgent w₁ r w')
    (fewer : w₁.storage.sessions ⊆ w.storage.sessions) :
    ∀ s ∈ w'.storage.sessions, s ∈ w.storage.sessions ∨
      ∃ created, r = .ok created ∧ created.session = s ∧ Timed P m s := by
  intro s mem
  cases creation with
  | issued added =>
    rw [added.storage] at mem
    rcases List.mem_append.mp mem with before | new
    · exact .inl (fewer before)
    · obtain rfl := List.mem_singleton.mp new
      exact .inr ⟨_, rfl, rfl, added.timed⟩
  | refused _ => exact .inl (fewer mem)

/-- A creation that fails stores nothing, so that nothing is stored that nobody is handed. -/
theorem wp_program_delivers (o : Order) :
    (solitude P).wp (o.program m) (Delivers P m o w) w := by
  have adds_nothing (o : Order) (none : ∀ s, ¬ o.Asks (.store (.create s))) :
      (solitude P).wp (o.program m) (Delivers P m o w) w :=
    Discipline.wp_mono (fun _ _ fewer _ mem => .inl (fewer mem)) (wp_program_fewer none)
  cases o with
  | create userId ipAddress userAgent =>
    refine Discipline.wp_mono (fun r w' creation s mem => ?_) wp_creation
    refine (creation.delivers (fun _ => id) s mem).imp_right ?_
    rintro ⟨created, rfl, rest⟩
    exact ⟨created, rfl, rest⟩
  | refresh token =>
    refine wp_refresh_of_creation ?_ fun _ _ fewer _ mem => .inl (fewer mem)
    intro old w₁ r w' fewer creation s mem
    refine (creation.delivers fewer s mem).imp_right ?_
    rintro ⟨created, rfl, rest⟩
    exact ⟨created, rfl, rest⟩
  | _ => exact adds_nothing _ fun _ => id

theorem wp_program_arrives (o : Order) :
    (solitude P).wp (o.program m) (fun _ w' => Arrives P m w w') w := by
  refine Discipline.wp_mono (fun r w' delivers s mem => ?_) (wp_program_delivers o)
  refine (delivers s mem).imp_right ?_
  rintro ⟨_, _, _, timed⟩
  exact timed

/-- The session was created at some moment of the turn. -/
def Turn.Creates (m : Manager) (u : Turn) (s : Session) : Prop :=
  Timed (fun moment => ∃ n, moment = u.moments n) m s

theorem mem_or_creates_of_mem_after {s : Session} (mem : s ∈ (w.after m us).storage.sessions) :
    s ∈ w.storage.sessions ∨ ∃ u ∈ us, u.Creates m s := by
  induction us generalizing w with
  | nil => exact .inl mem
  | cons u us ih =>
    rcases ih mem with earlier | ⟨v, hv, creates⟩
    · have arrives : Arrives (fun moment => ∃ n, moment = u.moments n) m w (u.after m w) :=
        post_of_alone (wp_program_arrives u.order) fun n => ⟨n, rfl⟩
      exact (arrives s earlier).imp_right fun creates => ⟨u, List.mem_cons_self, creates⟩
    · exact .inr ⟨v, List.mem_cons_of_mem _ hv, creates⟩

/-- A digest that is stored is one of a token that was drawn. -/
theorem mem_or_drawn_of_mem_after {s : Session} (mem : s ∈ (w.after m us).storage.sessions) :
    s ∈ w.storage.sessions ∨ ∃ v ∈ drawnIn m us w, Token.digest v = s.tokenHash := by
  induction us generalizing w with
  | nil => exact .inl mem
  | cons u us ih =>
    rcases ih mem with earlier | ⟨v, hv, hash⟩
    · by_contra none
      rw [not_or] at none
      refine none.1 (mem_of_mem_after (fun v drawn hash => none.2 ⟨v, ?_, hash⟩) earlier rfl)
      exact List.mem_append_left _ drawn
    · exact .inr ⟨v, List.mem_append_right _ hv, hash⟩

/-! ## What other operations leave -/

/-- The turn ends a session, or removes it since it has expired. -/
def Turn.Removes (x : Session) (u : Turn) : Prop :=
  Ends x u.order ∨
    (u.order = .purge ∨ ∃ token, u.order = .verify token ∧ Token.digest token = x.tokenHash) ∧
      ∃ n, x.expiresAt ≤ (u.moments n).now

/-- The request does not take a session out of the storage. -/
def Harmless (P : Moment → Prop) (x : Session) (r : Request) : Prop :=
  ∀ call, r = .store call → ∀ moment, P moment → ∀ memory : Storage.Memory, memory.Keyed →
    memory.byHash? x.tokenHash = some x → memory.Spares moment.now x call

theorem wp_kept (only : p.Only (Harmless P x)) (keyed : w.storage.Keyed)
    (stored : w.storage.byHash? x.tokenHash = some x) :
    (solitude P).wp p (fun _ w' => w'.storage.byHash? x.tokenHash = some x) w := by
  induction p generalizing w with
  | done a => exact solitude_done.mpr stored
  | ask r next ih =>
    refine solitude_ask.mpr fun moment holds => ih _ (only.2 _) (keyed_serve keyed) ?_
    cases r with
    | store call =>
      rw [serve_store]
      rcases store_cases (t := moment) (w := w) call with ⟨reason, failed⟩ | done
      · rwa [failed]
      · rw [done]
        have spares := only.1 call rfl moment holds w.storage keyed stored
        exact Storage.Memory.byHash?_call_of_spares stored spares
    | _ => rwa [storage_serve (by simp)]

/-- A verification of a session that has not expired leaves the storage alone. -/
theorem storage_verify_of_early (tidy : Tidy m w)
    (stored : w.storage.byHash? (Token.digest token) = some x)
    (early : ∀ n, (t n).now < x.expiresAt) :
    (alone t (m.verify token).run w).2.storage = w.storage := by
  by_cases nonempty : token.isEmpty
  · rw [Manager.verify_run, if_pos nonempty]
    rfl
  obtain ⟨_, verdict⟩ := post_of_alone (P := fun moment => moment.now < x.expiresAt)
    (wp_verify_of_fresh tidy id) early
  generalize alone t (m.verify token).run w = ended at verdict ⊢
  obtain ⟨r, w'⟩ := ended
  cases verdict with
  | accepted _ _ same => exact same
  | unread _ _ same => exact same
  | missing _ same => exact same
  | expired stored' early late =>
    obtain rfl := Option.some.inj (stored'.symm.trans stored)
    exact absurd late (Timestamp.not_le_of_lt early)
  | empty empty => exact absurd empty nonempty

/-- A turn that does not remove a session leaves it where it is. -/
theorem byHash?_turn (tidy : Tidy m w) (keyed : w.storage.Keyed)
    (stored : w.storage.byHash? x.tokenHash = some x) (kept : ¬ u.Removes x) :
    (u.after m w).storage.byHash? x.tokenHash = some x := by
  obtain ⟨o, t⟩ := u
  have spared : ¬ Ends x o := fun ends => kept (.inl ends)
  have early (may : o = .purge ∨ ∃ token, o = .verify token ∧ Token.digest token = x.tokenHash)
      (n : Nat) : (t n).now < x.expiresAt :=
    Timestamp.lt_of_not_le fun late => kept (.inr ⟨may, n, late⟩)
  by_cases own : ∃ token, o = .verify token ∧ Token.digest token = x.tokenHash
  · obtain ⟨token, rfl, hash⟩ := own
    have same : (alone t (m.verify token).run w).2.storage = w.storage :=
      storage_verify_of_early tidy (hash ▸ stored) (early (.inr ⟨token, rfl, hash⟩))
    show (alone t (m.verify token).run w).2.storage.byHash? x.tokenHash = some x
    rwa [same]
  · refine post_of_alone (P := fun moment => ∃ n, moment = t n)
      (wp_kept ((o.only_program m).mono ?_) keyed stored) fun n => ⟨n, rfl⟩
    rintro _ asks call rfl _ ⟨n, rfl⟩ memory keyed stored
    refine spares_of_asks asks spared (fun _ => keyed.eq_of_byHash? stored) ?_ ?_
    · rintro token rfl rfl
      exact own ⟨token, rfl, asks.symm⟩
    · rintro rfl
      exact early (.inl asks) n

theorem byHash?_after (tidy : Tidy m w) (keyed : w.storage.Keyed)
    (stored : w.storage.byHash? x.tokenHash = some x)
    (kept : ∀ u ∈ us, u.Sound ∧ ¬ u.Removes x) :
    (w.after m us).storage.byHash? x.tokenHash = some x := by
  induction us generalizing w with
  | nil => exact stored
  | cons u us ih =>
    obtain ⟨sound, spared⟩ := kept u List.mem_cons_self
    exact ih (tidy.turn sound) (keyed_alone keyed) (byHash?_turn tidy keyed stored spared)
      fun v hv => kept v (List.mem_cons_of_mem _ hv)

/-! ## One session for another -/

/-- The session under the digest of a token was deleted, and then another one was created with what
the old one says of its user. -/
structure Replacement (P : Moment → Prop) (m : Manager) (token : String) (old : Session)
    (created : Session.Created) (w w' : World) : Prop where
  nonempty : ¬ token.isEmpty
  stored : w.storage.byHash? (Token.digest token) = some old
  replaced : ∃ w₁ : World, w₁.storage = (w.storage.deleteByHash (Token.digest token)).state ∧
    Addition P m old.userId old.ipAddress old.userAgent created w₁ w'

theorem wp_destroy_storage :
    (solitude P).wp (m.destroy token).run (fun r w' => r = .ok () →
      w'.storage = (w.storage.deleteByHash (Token.digest token)).state) w := by
  rw [Manager.destroy_run]
  have quiet : (m.invalidate (Token.digest token)).Only fun r => ∀ call, r ≠ .store call :=
    m.only_invalidate (fun _ _ => nofun) fun _ => nofun
  split
  · exact solitude_done.mpr nofun
  refine solitude_store (fun moment reason _ _ => ?_) fun moment _ => ?_
  · exact Discipline.wp_bind_of (wp_unstored quiet) fun _ _ _ => solitude_done.mpr nofun
  · refine Discipline.wp_bind_of (wp_unstored quiet) fun _ w₁ same => ?_
    rcases w.storage.deleteByHash_cases moment.now (Token.digest token) with ok | ⟨missing, _⟩
    · rw [ok]
      exact solitude_quiet.wp_log_bind (solitude_done.mpr fun _ => same)
    · rw [missing]
      exact solitude_done.mpr nofun

theorem wp_replacement (tidy : Tidy m w) (token : String) :
    (solitude P).wp (m.refresh token).run
      (fun r w' => ∀ created, r = .ok created →
        ∃ old, Replacement P m token old created w w') w := by
  rw [Manager.refresh_run]
  refine Discipline.wp_andThen (wp_verify_of_fresh tidy id) ?_ fun _ _ _ =>
    solitude_done.mpr fun _ failed => nomatch failed
  rintro old w₁ ⟨_, accepted⟩
  cases accepted with
  | accepted stored nonempty same =>
    refine Discipline.wp_andThen wp_destroy_storage ?_ fun _ _ _ =>
      solitude_done.mpr fun _ failed => nomatch failed
    intro _ w₂ deleted
    refine Discipline.wp_andThen wp_creation ?_ fun _ _ _ =>
      solitude_done.mpr fun _ failed => nomatch failed
    intro created w₃ creation
    refine solitude_quiet.wp_log_bind (solitude_done.mpr ?_)
    rintro _ ⟨⟩
    cases creation with
    | issued added => exact ⟨old, nonempty, stored, w₂, same ▸ deleted rfl, added⟩

namespace Replacement

variable (replacement : Replacement P m token old created w w')

include replacement

theorem length_eq (keyed : w.storage.Keyed) :
    w'.storage.sessions.length = w.storage.sessions.length := by
  obtain ⟨w₁, deleted, added⟩ := replacement.replaced
  rw [added.storage, List.length_append, List.length_singleton, deleted]
  exact keyed.length_deleteByHash replacement.stored

theorem byHash?_created : w'.storage.byHash? created.session.tokenHash = some created.session := by
  obtain ⟨w₁, _, added⟩ := replacement.replaced
  rw [added.byHash?_eq, if_pos rfl]

theorem not_stored (other : created.session.tokenHash ≠ Token.digest token) :
    ¬ w'.Stored (Token.digest token) := by
  obtain ⟨w₁, deleted, added⟩ := replacement.replaced
  refine Storage.Memory.byHash?_eq_none.mp ?_
  rw [added.byHash?_eq, if_neg other.symm, deleted]
  have gone : ¬ (w.storage.call .epoch (.deleteByHash (Token.digest token))).state.Holds
      (Token.digest token) := Storage.Memory.not_holds_deleteByHash
  exact Storage.Memory.byHash?_eq_none.mpr gone

theorem byHash?_of_ne (notOld : k ≠ Token.digest token) (notNew : k ≠ created.session.tokenHash) :
    w'.storage.byHash? k = w.storage.byHash? k := by
  obtain ⟨w₁, deleted, added⟩ := replacement.replaced
  rw [added.byHash?_eq, if_neg notNew, deleted,
    Storage.Memory.byHash?_deleteByHash_of_ne notOld]

end Replacement

/-- What a refresh comes to that succeeds after some turns. -/
structure Succession (m : Manager) (before : List Turn) (t : Nat → Moment) (token : String)
    (old : Session) (created : Session.Created) (w w' : World) : Prop where
  userId : created.session.userId = old.userId
  ipAddress : created.session.ipAddress = old.ipAddress
  userAgent : created.session.userAgent = old.userAgent
  length : w'.storage.sessions.length = w.storage.sessions.length
  /-- The old token is not found. -/
  ended : ∀ v : Nat → Moment, (∀ n, (v n).fault = none) →
    (alone v (m.verify token).run w').1 = .error .notFound
  /-- The new token is accepted until the session expires or is removed. -/
  accepted : ∀ later : List Turn, (∀ u ∈ later, u.Sound ∧ ¬ u.Removes created.session) →
    ∀ v : Nat → Moment, (∀ n, (v n).fault = none ∧ (v n).now < created.session.expiresAt) →
      (alone v (m.verify created.token).run (w'.after m later)).1 = .ok created.session
  /-- Other tokens are verified as before. -/
  others : ∀ (other : String) (v v' : Nat → Moment), Token.digest other ≠ Token.digest token →
    Token.digest other ≠ Token.digest created.token → (∀ n, (v n).fault = none) →
    (∀ n, (v' n).fault = none) →
    (verification m other v w).2 = (verification m other v' w').2 →
    (verification m other v w).1 = (verification m other v' w').1
  read : ∃ n, created.session.createdAt = (t n).now
  readBefore : ∃ u ∈ before, ∃ n, old.createdAt = (u.moments n).now
  /-- A wall clock does not show leap seconds. -/
  later : old.createdAt < created.session.createdAt → ¬ old.createdAt.isLeap →
    ¬ created.session.createdAt.isLeap → old.expiresAt < created.session.expiresAt

/-- A refresh that succeeds puts one session in the place of another, in every state to which
operations lead that go one after the other. -/
theorem succession_of_refresh {m : Manager} {settings : Cache.Settings} {before : List Turn}
    {w w' : World} {token : String} {created : Session.Created} {t : Nat → Moment}
    (sound : ∀ u ∈ before, u.Sound) (reached : w = (fresh settings).world.after m before)
    (refreshed : alone t (m.refresh token).run w = (.ok created, w'))
    (unspent : created.token ∉ drawnIn m before (fresh settings).world)
    (distinct : ∀ v ∈ drawnIn m before (fresh settings).world,
      Token.digest v = Token.digest created.token → v = created.token) :
    ∃ old, w.storage.byHash? (Token.digest token) = some old ∧
      Succession m before t token old created w w' := by
  have blank : Tidy m (fresh settings).world := fun _ _ mem => absurd mem List.not_mem_nil
  have tidy : Tidy m w := reached ▸ blank.turns sound
  have keyed : w.storage.Keyed := by
    rw [reached]
    exact keyed_after List.nodup_nil
  have after : w' = (⟨.refresh token, t⟩ : Turn).after m w := (congrArg Prod.snd refreshed).symm
  have tidy' : Tidy m w' :=
    after ▸ settled_program tidy (.refresh token) fun _ => nofun
  have keyed' : w'.storage.Keyed := after ▸ keyed_alone keyed
  have promised := post_of_alone (P := fun moment => ∃ n, moment = t n)
    (wp_replacement tidy token) fun n => ⟨n, rfl⟩
  rw [refreshed] at promised
  obtain ⟨old, replacement⟩ := promised created rfl
  obtain ⟨_, _, added⟩ := replacement.replaced
  -- The old session came from an earlier turn, and so did its token.
  obtain ⟨mem, hash⟩ := Storage.Memory.mem_of_byHash? replacement.stored
  rw [reached] at mem
  obtain ⟨u, hu, creates⟩ := (mem_or_creates_of_mem_after mem).resolve_left List.not_mem_nil
  obtain ⟨v, hv, digest⟩ := (mem_or_drawn_of_mem_after mem).resolve_left List.not_mem_nil
  have fresh : created.session.tokenHash ≠ Token.digest token := by
    intro same
    have drawn := distinct v hv (digest.trans (hash.trans (same.symm.trans added.digest)))
    exact unspent (drawn ▸ hv)
  obtain ⟨_, ⟨n, rfl⟩, read⟩ := added.timed.read
  obtain ⟨_, ⟨n', rfl⟩, readBefore⟩ := creates.read
  refine ⟨old, replacement.stored, ?_⟩
  exact
    { userId := added.userId
      ipAddress := added.ipAddress
      userAgent := added.userAgent
      length := replacement.length_eq keyed
      ended := fun v sound =>
        verify_of_not_stored tidy' id replacement.nonempty (replacement.not_stored fresh) sound
      accepted := fun later kept v good => by
        have stored := byHash?_after tidy' keyed' replacement.byHash?_created kept
        rw [added.digest] at stored
        exact verify_of_stored (tidy'.turns fun u hu => (kept u hu).1) id added.nonempty stored good
      others := fun other v v' notOld notNew sound sound' =>
        verification_congr tidy tidy' sound sound'
          (replacement.byHash?_of_ne notOld (added.digest ▸ notNew)).symm
      read := ⟨n, read⟩
      readBefore := ⟨u, hu, n', readBefore⟩
      later := fun earlier noLeap noLeap' =>
        Timestamp.add?_lt earlier noLeap noLeap' creates.lifetime added.timed.lifetime }

/-- An hour after the epoch, with other bytes. -/
def nextMoment : Moment :=
  { sampleMoment with
    now := (Timestamp.epoch.add? (Duration.ofSeconds 3600)).getD .epoch
    bytes := fun n => .ok (Vector.replicate n 1) }

/-- What is issued then in the place of the sample session. -/
def nextCreated : Session.Created where
  session :=
    { sampleCreated.session with
      tokenHash := Token.digest (Token.ofBytes (List.replicate Token.defaultBytes 1))
      createdAt := nextMoment.now
      updatedAt := nextMoment.now
      expiresAt := (nextMoment.now.add? sampleManager.settings.maxAge).getD .epoch }
  token := Token.ofBytes (List.replicate Token.defaultBytes 1)

theorem succession_of_refresh_sample :
    ∃ w', alone (fun _ => nextMoment) (sampleManager.refresh sampleToken).run sampleWorld =
        (.ok nextCreated, w') ∧
      Succession sampleManager [⟨.create "u" "i" "a", fun _ => sampleMoment⟩] (fun _ => nextMoment)
        sampleToken sampleCreated.session nextCreated sampleWorld w' ∧
      sampleCreated.session.expiresAt < nextCreated.session.expiresAt := by
  have issued : (alone (fun _ => nextMoment) (sampleManager.refresh sampleToken).run
      sampleWorld).1 = .ok nextCreated := by
    decide +kernel
  have drawn : drawnIn sampleManager [⟨.create "u" "i" "a", fun _ => sampleMoment⟩]
      (fresh {}).world = [sampleToken] := by
    decide +kernel
  have tokens : sampleToken ≠ nextCreated.token := by decide +kernel
  have digests : Token.digest sampleToken ≠ Token.digest nextCreated.token := by decide +kernel
  have stored : sampleWorld.storage.byHash? (Token.digest sampleToken) =
      some sampleCreated.session := by
    decide +kernel
  generalize run : alone (fun _ => nextMoment) (sampleManager.refresh sampleToken).run
    sampleWorld = ended at issued
  obtain ⟨r, w'⟩ := ended
  obtain rfl : r = .ok nextCreated := issued
  obtain ⟨old, found, succession⟩ := @succession_of_refresh sampleManager {}
    [⟨.create "u" "i" "a", fun _ => sampleMoment⟩] sampleWorld w' sampleToken nextCreated
    (fun _ => nextMoment)
    (by
      intro u hu n
      rw [List.mem_singleton.mp hu]
      rfl)
    rfl run
    (by
      rw [drawn, List.mem_singleton]
      exact tokens.symm)
    (by
      rw [drawn]
      intro v hv same
      rw [List.mem_singleton.mp hv] at same
      exact absurd same digests)
  obtain rfl := Option.some.inj (found.symm.trans stored)
  exact ⟨w', rfl, succession, succession.later (by decide) (by decide) (by decide)⟩

end SessionKit.Traffic
