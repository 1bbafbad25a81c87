import SessionKit.Proofs.Debts
import SessionKit.Proofs.Renewal
import SessionKit.Proofs.Removal

/-!
# What outlives a sign-out

A sign-out beside any number of refreshes, until all of them have returned. Of the user's sessions
the storage is left with those that have escaped, and the cache with no other ones: who refreshes or
signs out drops from the cache whatever else it may have put there or taken from the storage.
-/

namespace SessionKit.Traffic

open Manager (Request Answer Order History Indebts)
open Discipline (history mem_history history_concat)

variable {m : Manager} {settings : Cache.Settings} {s s' s'' : State}
  {ts us vs a b : List Transition} {t u v w : Transition} {c d e f : Nat} {n : UInt64}
  {x y : Session} {token tokenHash userId : String} {o : Order} {moment : Moment}

/-! ## Debts along a run -/

/-- A call that leaves no debts drops a digest some time after it got into debt. -/
theorem drop_of_indebts (cached : m.cached = true)
    (run : Service.Run (service m) s (a ++ t :: b) s') (idle : s.Idle) (numbered : s.Numbered)
    (idle' : s'.Idle) {r : Request} {answer : Answer r}
    (asked : t.event = .asked f moment r answer) (hv : v ∈ a ++ t :: b)
    (begun : v.event = .begun f o) (settles : o.Settles tokenHash)
    (indebts : Indebts tokenHash (history f a) ⟨r, answer⟩) :
    ∃ u ∈ b, Drops tokenHash u.event := by
  obtain ⟨before, step, rest⟩ := run.mid
  rw [asked] at step
  obtain ⟨g, flying⟩ := step.flight_after_asked
  obtain ⟨w, hw, o', y, returned⟩ := rest.returned_of_flight flying (idle' f)
  have hw : w ∈ a ++ t :: b := by simp [hw]
  obtain ⟨v', hv', begun'⟩ := run.begun_of_returned idle hw returned
  obtain rfl := run.order_eq numbered hv hv' begun begun'
  have clear : ¬ Manager.Owed tokenHash (history f (a ++ t :: b)) :=
    Discipline.vow_of_history run idle numbered (Manager.wp_settles cached tokenHash) hw returned
      settles
  by_contra none
  refine clear ⟨history f a, ⟨r, answer⟩, history f b, ?_, indebts, ?_⟩
  · have one : history f (t :: b) = [⟨r, answer⟩] ++ history f b := by
      rw [← List.singleton_append, history_concat]
      simp [history, Discipline.record, Discipline.enter, Discipline.append, asked]
    rw [history_concat, one, List.singleton_append]
  · rintro ⟨q, z⟩ mem drops
    obtain ⟨u, hu, moment', asked'⟩ := mem_history.mp mem
    refine none ⟨u, hu, ?_⟩
    rw [asked']
    exact drops

/-- What a refresh or a sign-out removes it owes to the cache, unless it has seen the cache without
it. -/
theorem indebts_of_covers {r : Request} {answer : Answer r} (h : History)
    (kind : o = .destroyOfUser userId ∨ ∃ token, o = .refresh token) (asks : o.Asks r)
    (covers : (Due.ofAnswer r answer).Covers tokenHash) :
    o.Settles tokenHash ∧ (Indebts tokenHash h ⟨r, answer⟩ ∨
      h.Missed tokenHash ∧ ∃ token, o = .refresh token ∧ Token.digest token = tokenHash) := by
  rcases kind with rfl | ⟨token, rfl⟩
  · cases r with
    | store call =>
      cases call with
      | deleteOfUser u =>
        cases answer with
        | ok n => exact ⟨trivial, .inl (Due.pos_of_covers covers)⟩
        | error cause => exact absurd covers id
      | deleteExpired => cases asks
      | _ => exact absurd asks fun no => no
    | _ => exact absurd covers fun no => no
  · cases r with
    | store call =>
      cases call with
      | deleteByHash k =>
        cases answer with
        | ok done =>
          obtain rfl : k = tokenHash := covers
          have same : k = Token.digest token := asks
          refine ⟨same.symm, ?_⟩
          by_cases missed : h.Missed k
          · exact .inr ⟨missed, token, rfl, same.symm⟩
          · exact .inl ⟨rfl, missed⟩
        | error cause => exact absurd covers id
      | deleteExpired => cases asks
      | create x => exact absurd covers id
      | byHash k => exact absurd covers id
      | _ => exact absurd asks fun no => no
    | _ => exact absurd covers fun no => no

/-! ## What is left in the cache -/

/-- A digest that got into the cache was filled in, and has not been dropped since. -/
theorem fill_of_cached (run : Service.Run (service m) s ts s')
    (before : ¬ s.world.Cached tokenHash) (after : s'.world.Cached tokenHash) :
    ∃ a t b c moment n x answer, ts = a ++ t :: b ∧
      t.event = .asked c moment (.fill n tokenHash x) answer ∧
      ∀ u ∈ b, ¬ Drops tokenHash u.event := by
  obtain ⟨a, t, b, rfl, off, on⟩ :=
    run.exists_turn (P := fun w => w.Cached tokenHash) before after
  have quiet : ∀ u ∈ b, ¬ Drops tokenHash u.event := by
    intro u hu dropped
    rcases cached_of_cached_step (run.step_of_mem (by simp [hu])) (on u (by simp [hu])) with
      ⟨_, kept⟩ | ⟨_, _, _, _, fills⟩
    · exact kept dropped
    · rw [fills] at dropped
      exact dropped
  rcases cached_of_cached_step run.mid.2.1 (on t (by simp)) with
    ⟨held, _⟩ | ⟨c, moment, x, answer, asked⟩
  · exact absurd held off
  · exact ⟨a, t, b, c, moment, _, x, answer, rfl, asked, quiet⟩

/-- A digest that the storage had at some time and has no longer was removed by some step. -/
theorem removal_of_gone (run : Service.Run (service m) s ts s')
    (stored : s.world.Stored tokenHash ∨ ∃ t ∈ ts, t.after.world.Stored tokenHash)
    (gone : ¬ s'.world.Stored tokenHash) :
    ∃ a t b, ts = a ++ t :: b ∧ t.before.world.Stored tokenHash ∧
      ∀ u ∈ t :: b, ¬ u.after.world.Stored tokenHash := by
  rcases stored with stored | ⟨w, hw, stored⟩
  · exact removal_of_not_stored run stored gone
  · obtain ⟨p, q, rfl⟩ := List.append_of_mem hw
    obtain ⟨_, _, rest⟩ := run.mid
    obtain ⟨a, t, b, rfl, before, after⟩ := removal_of_not_stored rest stored gone
    exact ⟨p ++ w :: a, t, b, by simp, before, after⟩

/-- A lookup that misses leaves the cache without the digest. -/
theorem not_cached_of_missed (step : Service.Step (service m) t.before t.event t.after)
    {hit : Except Cache.Error (Option Session)}
    (asked : t.event = .asked c moment (.lookUp tokenHash) hit) (none : ∀ x, hit ≠ .ok (some x)) :
    ¬ t.after.world.Cached tokenHash := by
  rw [asked] at step
  obtain ⟨answered, world⟩ := step.answer_eq
  obtain ⟨found, answer⟩ := t.before.world.cache.get_ok moment.instant tokenHash
  have shown : hit = .ok found := answered.trans answer
  rw [world]
  cases found with
  | some x => exact absurd shown (none x)
  | none => exact Cache.Memory.not_holds_of_get_none answer

/-- Refreshes and sign-outs leave nothing in the cache that their own calls have not stored. -/
theorem stores_of_fill (cached : m.cached = true)
    (run : Service.Run (service m) s (a ++ t :: b) s') (idle : s.Idle) (numbered : s.Numbered)
    (idle' : s'.Idle)
    (only : ∀ o ∈ Service.orders (a ++ t :: b), o = .destroyOfUser userId ∨
      ∃ token, o = .refresh token)
    {answer : Manager.Filled} (asked : t.event = .asked e moment (.fill n tokenHash x) answer)
    (quiet : ∀ u ∈ b, ¬ Drops tokenHash u.event) :
    ∃ w ∈ a, ∃ y, Stores y w.event ∧ w.event.call = e ∧ y.tokenHash = tokenHash := by
  obtain ⟨o, ⟨v, hv, begun⟩, asks, hash, shown⟩ :=
    Manager.grounded_of_asked run idle numbered (fun _ => rfl) asked
  have hv : v ∈ a ++ t :: b := List.mem_append_left _ hv
  by_contra none
  have unwritten : ¬ History.Wrote (history e a) tokenHash := by
    rintro ⟨y, told, hash⟩
    obtain ⟨w, hw, moment', asked'⟩ := mem_history.mp told
    refine none ⟨w, hw, y, ?_, ?_, hash⟩
    · rw [asked']
      exact rfl
    · rw [asked']
      exact rfl
  rcases shown with told | told
  · obtain ⟨w, hw, moment', asked'⟩ := mem_history.mp told
    have settles : o.Settles tokenHash := by
      have asks' := Manager.asks_of_begun run idle numbered (fun _ => rfl) hv begun
        (List.mem_append_left _ hw) asked'
      rcases only o (Service.mem_orders hv begun) with rfl | ⟨token, rfl⟩
      · exact absurd asks' id
      · exact (asks' : tokenHash = _).symm
    obtain ⟨u, hu, drops⟩ := drop_of_indebts cached run idle numbered idle' asked hv begun settles
      ⟨rfl, unwritten⟩
    exact quiet u hu drops
  · exact unwritten ⟨x, told, hash⟩

/-- A token is refreshed only after the calls that draw it have returned. -/
def Known (ts us : List Transition) : Prop :=
  ∀ a t b f token e, us = a ++ t :: b → t.event = .begun f (.refresh token) →
    Drew e token (ts ++ us) → Returned e (ts ++ a)

/-- A digest that a refresh has not found in the cache does not stay there. -/
theorem not_cached_of_lookUp (cached : m.cached = true)
    (first : Service.Run (service m) (fresh settings) ts s) (idle : s.Idle)
    (second : Service.Run (service m) s us s') (idle' : s'.Idle)
    (only : ∀ o ∈ Service.orders us, o = .destroyOfUser userId ∨ ∃ token, o = .refresh token)
    (known : Known ts us) (distinct : Distinct token (ts ++ us))
    (hv : v ∈ us) (begun : v.event = .begun f (.refresh token))
    (missed : History.Missed (history f us) (Token.digest token)) :
    ¬ s'.world.Cached (Token.digest token) := by
  have numbered := first.numbered (fresh_numbered settings)
  obtain ⟨hit, told, none⟩ := missed
  obtain ⟨l, hl, moment, asked⟩ := mem_history.mp told
  obtain ⟨a, b, rfl⟩ := List.append_of_mem hv
  have hl : l ∈ b := second.mem_of_begun numbered begun hl (by rw [asked]; rfl)
    (by rw [asked]; nofun)
  obtain ⟨b, d, rfl⟩ := List.append_of_mem hl
  obtain ⟨_, lookUp, rest⟩ := second.mid.2.2.mid
  intro held
  obtain ⟨p, g, q, e, moment', n, x, answer, rfl, filled, quiet⟩ :=
    fill_of_cached rest (not_cached_of_missed lookUp asked none) held
  have parts : a ++ v :: (b ++ l :: (p ++ g :: q)) = (a ++ v :: (b ++ l :: p)) ++ g :: q := by simp
  -- The call has stored the session itself, so it has drawn the token that is refreshed.
  have whole := second
  rw [parts] at whole only
  obtain ⟨w, hw, y, stores, own, hash⟩ :=
    stores_of_fill cached whole idle numbered idle' only filled quiet
  have drew : Drew e token (ts ++ (a ++ v :: (b ++ l :: (p ++ g :: q)))) := by
    rw [← own]
    refine distinct.drew_of_stores (first.append second) ?_ stores hash
    rw [parts]
    exact List.mem_append_right _ (List.mem_append_left _ hw)
  obtain ⟨z, hz, o, r, returned⟩ := known a v _ f token e rfl begun drew
  -- That call had returned before the refresh began, and fills nothing in any more.
  have all := first.append second
  rw [← List.append_assoc] at all
  obtain ⟨_, early, late⟩ := all.split
  have ended := early.ended (fresh_numbered settings) hz returned
  refine (late.call_ne ended).1 g (by simp) ?_
  rw [filled]
  rfl

/-- Of what was in the storage and is there no longer, the cache has nothing. -/
theorem not_cached_of_gone (first : Service.Run (service m) (fresh settings) ts s) (idle : s.Idle)
    (second : Service.Run (service m) s us s') (idle' : s'.Idle) (brief : Brief (ts ++ us))
    (only : ∀ o ∈ Service.orders us, o = .destroyOfUser userId ∨ ∃ token, o = .refresh token)
    (known : Known ts us)
    (distinct : ∀ token, .refresh token ∈ Service.orders us → Distinct token (ts ++ us))
    (stored : s.world.Stored tokenHash ∨ ∃ t ∈ us, t.after.world.Stored tokenHash)
    (gone : ¬ s'.world.Stored tokenHash) : ¬ s'.world.Cached tokenHash := by
  have numbered := first.numbered (fresh_numbered settings)
  have whole := first.append second
  by_cases cached : m.cached = true
  · obtain ⟨a, t, b, rfl, before, after⟩ := removal_of_gone second stored gone
    obtain ⟨_, step, _⟩ := second.mid
    obtain ⟨f, moment, r, answer, asked, covers⟩ := asked_of_removal step before (after t (by simp))
    obtain ⟨o, ⟨v, hv, begun⟩, asks, _⟩ :=
      Manager.grounded_of_asked second idle numbered (fun _ => rfl) asked
    have hv : v ∈ a ++ t :: b := List.mem_append_left _ hv
    obtain ⟨settles, indebts | ⟨missed, token, rfl, rfl⟩⟩ := indebts_of_covers (history f a)
      (only o (Service.mem_orders hv begun)) asks covers
    · -- The digest is dropped while it is out of the storage for good.
      obtain ⟨u, hu, drops⟩ :=
        drop_of_indebts cached second idle numbered idle' asked hv begun settles indebts
      obtain ⟨p, q, rfl⟩ := List.append_of_mem hu
      have parts : ts ++ (a ++ t :: (p ++ u :: q)) = (ts ++ a ++ t :: p) ++ u :: q := by simp
      intro held
      have exposed := exposed_of_cached whole brief held
      rw [parts] at exposed
      refine not_exposed_of_drop drops ?_ exposed
      intro w hw
      exact after w (by simp [List.mem_cons.mp hw])
    · refine not_cached_of_lookUp cached first idle second idle' only known
        (distinct token (Service.mem_orders hv begun)) hv begun ?_
      rw [history_concat]
      exact missed.mono (List.prefix_append _ _)
  · exact not_cached_of_uncached (Bool.eq_false_iff.mpr cached) whole

/-! ## After all have returned -/

/-- A call that has stored a session has returned when nothing is under way. -/
theorem returned_of_stores (run : Service.Run (service m) s ts s') (idle : s'.Idle) (ht : t ∈ ts)
    (stores : Stores x t.event) : Returned t.event.call ts := by
  obtain ⟨c, moment, asked⟩ := eq_of_stores stores
  obtain ⟨a, b, rfl⟩ := List.append_of_mem ht
  obtain ⟨_, step, rest⟩ := run.mid
  rw [asked] at step ⊢
  obtain ⟨f, flying⟩ := step.flight_after_asked
  obtain ⟨u, hu, o, r, returned⟩ := rest.returned_of_flight flying (idle c)
  exact ⟨u, by simp [hu], o, r, returned⟩

/-- A digest that is in neither of them does not come back once its session was stored. -/
theorem fails_of_gone (first : Service.Run (service m) (fresh settings) ts s) (idle : s.Idle)
    (second : Service.Run (service m) s us s') (distinct : Distinct token (ts ++ us))
    (ht : t ∈ ts) (stores : Stores x t.event) (hash : x.tokenHash = Token.digest token)
    (unstored : ¬ s.world.Stored (Token.digest token))
    (uncached : ¬ s.world.Cached (Token.digest token)) {r : o.Result}
    (order : [Service.Event.begun d o, .returned d o r].Sublist (us.map (·.event)))
    (presents : Presents token o) : Fails r := by
  have kept : ∀ u ∈ us, ∀ y, Stores y u.event → y.tokenHash ≠ Token.digest token := by
    apply tokenHash_ne_of_stores first second
    intro e k drew digest
    obtain rfl := distinct.apart e k drew digest
    have drew' :=
      (distinct.mono (List.subset_append_left ts us)).drew_of_stores first ht stores hash
    rw [distinct.sole e _ drew (drew'.mono (List.subset_append_left ts us))]
    exact returned_of_stores first idle ht stores
  have absent := not_stored_of_kept second unstored kept
  refine fails_of_absent second (fun w hw held => ?_) absent order presents
  -- Whoever filled the cache would have seen the session in the storage, or put it there.
  obtain ⟨a, b, rfl⟩ := List.append_of_mem hw
  obtain ⟨before, _, _⟩ := second.mid
  obtain ⟨p, g, q, e, moment, n, y, answer, rfl, filled, _⟩ := fill_of_cached before uncached held
  obtain ⟨_, _, _, same, told | told⟩ := Manager.grounded_of_asked before idle
    (first.numbered (fresh_numbered settings)) (fun _ => rfl) filled
  · obtain ⟨l, hl, moment', asked⟩ := mem_history.mp told
    have mem : l ∈ p ++ g :: q ++ w :: b := by simp [hl]
    have step := second.step_of_mem mem
    rw [asked] at step
    obtain ⟨answered, world⟩ := step.answer_eq
    apply absent l mem
    rw [world]
    exact (stored_of_byHash_ok answered.symm).2
  · obtain ⟨l, hl, moment', asked⟩ := mem_history.mp told
    refine kept l (by simp [hl]) y ?_ same
    rw [asked]
    exact rfl

/-- A sign-out beside any number of refreshes, when all of them have returned: what is left of the
user's sessions in the storage has escaped, and so has whatever is verified from then on. No token
is drawn twice, and none is refreshed before its owner has got it. -/
theorem escaped_of_kept_or_verified {m : Manager} {settings : Cache.Settings}
    {userId : String} {ts us vs : List Transition} {s s' s'' : State} {c n : Nat}
    (first : Service.Run (service m) (fresh settings) ts s) (idle : s.Idle)
    (second : Service.Run (service m) s us s') (idle' : s'.Idle) (brief : Brief (ts ++ us))
    (third : Service.Run (service m) s' vs s'')
    (only : ∀ o ∈ Service.orders us, o = .destroyOfUser userId ∨ ∃ token, o = .refresh token)
    (known : Known ts us)
    (distinct : ∀ token, .refresh token ∈ Service.orders us ∨ .verify token ∈ Service.orders vs →
      Distinct token (ts ++ us ++ vs))
    (ended : Service.Event.returned c (.destroyOfUser userId) (.ok n) ∈ us.map (·.event)) :
    (∀ x ∈ s'.world.storage.sessions, x.userId = userId → Escaped userId us x) ∧
      ∀ d token x, [Service.Event.begun d (.verify token),
          .returned d (.verify token) (.ok x)].Sublist (vs.map (·.event)) → x.userId = userId →
        (x ∈ s.world.storage.sessions ∨ ∃ t ∈ us, Stores x t.event) → Escaped userId us x := by
  have numbered := first.numbered (fresh_numbered settings)
  have both := first.append second
  have early : ∀ token, .refresh token ∈ Service.orders us → Distinct token (ts ++ us) :=
    fun token mem => (distinct token (.inl mem)).mono (List.subset_append_left _ _)
  obtain ⟨t, ht, returned⟩ := List.mem_map.mp ended
  have told : History.Told (history c us) (.store (.deleteOfUser userId)) (.ok n) :=
    Manager.keeps_of_returned second idle numbered (fun _ => rfl) ht returned
  obtain ⟨w, hw, moment, swept⟩ := mem_history.mp told
  have left : ∀ x ∈ s'.world.storage.sessions, x.userId = userId → Escaped userId us x := by
    obtain ⟨a, b, rfl⟩ := List.append_of_mem hw
    obtain ⟨_, step, rest⟩ := second.mid
    intro x mem user
    rcases mem_or_stores_of_mem rest mem with old | ⟨u, hu, stores⟩
    · exact absurd user (userId_ne_of_swept step swept old)
    · exact escaped_of_stores first idle second swept only early u hu x stores user
  refine ⟨left, ?_⟩
  intro d token x order user held
  have whole := both.append third
  obtain ⟨p, v, q, rfl, begun, rest⟩ := Service.cons_sublist_events order
  obtain ⟨q, v', q', rfl, verified, _⟩ := Service.cons_sublist_events rest
  have apart := distinct token (.inr (Service.mem_orders (by simp) begun))
  have accepts : History.Accepts _ token x := Manager.keeps_of_returned whole (fresh_idle settings)
    (fresh_numbered settings) (fun _ => rfl) (by simp) verified
  obtain ⟨hash, _⟩ := stores_of_found whole (accepts.found.imp_right And.left)
  have stored : ∃ u ∈ ts ++ us, Stores x u.event := by
    rcases held with mem | ⟨u, hu, stores⟩
    · obtain ⟨u, hu, stores⟩ := stores_of_mem first rfl mem
      exact ⟨u, List.mem_append_left _ hu, stores⟩
    · exact ⟨u, List.mem_append_right _ hu, stores⟩
  obtain ⟨u, hu, stores⟩ := stored
  have apart' := apart.mono (List.subset_append_left (ts ++ us) _)
  by_cases kept : s'.world.Stored (Token.digest token)
  · -- There is no other session under the digest than the one that is left.
    obtain ⟨y, mem, hash'⟩ := kept
    obtain ⟨u', hu', stores'⟩ := stores_of_mem both rfl mem
    obtain rfl := apart'.eq_of_stores both hu stores hash hu' stores' hash'
    exact left x mem user
  · have uncached : ¬ s'.world.Cached (Token.digest token) := by
      refine not_cached_of_gone first idle second idle' brief only known early ?_ kept
      rcases held with mem | ⟨z, hz, stores⟩
      · exact .inl ⟨x, mem, hash⟩
      · refine .inr ⟨z, hz, ?_⟩
        obtain ⟨_, _, asked⟩ := eq_of_stores stores
        have step := second.step_of_mem hz
        rw [asked] at step
        obtain ⟨answered, world⟩ := step.answer_eq
        rw [world, ← hash]
        exact stored_of_create_ok answered.symm
    exact absurd rfl (fails_of_gone both idle' third apart hu stores hash kept uncached order rfl x)

/-! ## A session that escapes -/

/-- A moment at which other bytes and another identifier are drawn. -/
def otherMoment : Moment :=
  { sampleMoment with bytes := fun n => .ok (Vector.replicate n 1), identifier := .ok "r" }

/-- The token that is drawn then. -/
def otherToken : String := Token.ofBytes (List.replicate Token.defaultBytes 1)

/-- The session that a refresh of the sample token puts in its place then. -/
def otherSession : Session :=
  { sampleCreated.session with id := "r", tokenHash := Token.digest otherToken }

/-- A user is signed out while a refresh has ended the old session and has yet to store the new
one. -/
def SampleEscape (ts us vs : List Transition) (s s' s'' : State) : Prop :=
  Service.Run (service sampleManager) (fresh {}) ts s ∧ s.Idle ∧
    Service.Run (service sampleManager) s us s' ∧ s'.Idle ∧ Brief (ts ++ us) ∧
    Service.Run (service sampleManager) s' vs s'' ∧
    Service.orders us = [.refresh sampleToken, .destroyOfUser "u"] ∧
    Service.orders vs = [.verify otherToken] ∧
    draws (ts ++ us ++ vs) = [(0, sampleToken), (1, otherToken)] ∧ returnedCalls ts = [0] ∧
    Service.marks us = [(1, .inl (.refresh sampleToken)), (2, .inl (.destroyOfUser "u")),
      (2, .inr ⟨.destroyOfUser "u", .ok 0⟩),
      (1, .inr ⟨.refresh sampleToken, .ok ⟨otherSession, otherToken⟩⟩)] ∧
    Service.marks vs = [(3, .inl (.verify otherToken)),
      (3, .inr ⟨.verify otherToken, .ok otherSession⟩)] ∧
    s'.world.storage.sessions = [otherSession]

theorem exists_sampleEscape : ∃ ts us vs s s' s'', SampleEscape ts us vs s s' s'' := by
  have play : ((fresh {}).play? (service sampleManager)
      (wholeCall 0 (.create "u" "i" "a") 7 sampleMoment)).bind (fun p =>
        (p.2.play? (service sampleManager)
          (.start (.refresh sampleToken) :: (List.replicate 4 (.proceed 1 sampleMoment) ++
            (wholeCall 2 (.destroyOfUser "u") 2 sampleMoment ++
              (List.replicate 9 (.proceed 1 otherMoment) ++ [.finish 1]))))).bind fun q =>
        (q.2.play? (service sampleManager) (wholeCall 3 (.verify otherToken) 2 otherMoment)).map
          fun r => decide (
            p.2.begun = 1 ∧ (∀ c < 1, (p.2.flights c).isNone) ∧
            q.2.begun = 3 ∧ (∀ c < 3, (q.2.flights c).isNone) ∧
            Service.orders q.1 = [.refresh sampleToken, .destroyOfUser "u"] ∧
            Service.orders r.1 = [.verify otherToken] ∧
            draws (p.1 ++ q.1 ++ r.1) = [(0, sampleToken), (1, otherToken)] ∧
            returnedCalls p.1 = [0] ∧
            Service.marks q.1 = [(1, .inl (.refresh sampleToken)), (2, .inl (.destroyOfUser "u")),
              (2, .inr ⟨.destroyOfUser "u", .ok 0⟩),
              (1, .inr ⟨.refresh sampleToken, .ok ⟨otherSession, otherToken⟩⟩)] ∧
            Service.marks r.1 = [(3, .inl (.verify otherToken)),
              (3, .inr ⟨.verify otherToken, .ok otherSession⟩)] ∧
            q.2.world.storage.sessions = [otherSession])) = some true := by
    decide +kernel
  obtain ⟨⟨ts, s⟩, first, rest⟩ := Option.bind_eq_some_iff.mp play
  obtain ⟨⟨us, s'⟩, second, rest⟩ := Option.bind_eq_some_iff.mp rest
  obtain ⟨⟨vs, s''⟩, third, seen⟩ := Option.map_eq_some_iff.mp rest
  obtain ⟨one, none, three, none', seen⟩ := of_decide_eq_true seen
  have run := Service.Run.of_play? first
  have run' := Service.Run.of_play? second
  have numbered := run.numbered (fresh_numbered {})
  exact ⟨ts, us, vs, s, s', s'', run, numbered.idle fun c hc => none c (one ▸ hc), run',
    (run'.numbered numbered).idle fun c hc => none' c (three ▸ hc),
    .of_plays first second (by decide), .of_play? third, seen⟩

theorem escaped_of_kept_or_verified_sample :
    ∃ ts us vs s s' s'', SampleEscape ts us vs s s' s'' ∧ Escaped "u" us otherSession := by
  obtain ⟨ts, us, vs, s, s', s'', sample⟩ := exists_sampleEscape
  obtain ⟨first, idle, second, idle', brief, third, begun, verified, drawn, ended, marks, _,
    kept⟩ := id sample
  have known : Known ts us := by
    intro a t b f token e split begins drew
    have mem := Service.mem_orders (show t ∈ us by simp [split]) begins
    have other : sampleToken ≠ otherToken := by decide +kernel
    have draw := mem_draws (drew.mono (List.subset_append_left _ vs))
    rw [begun] at mem
    rw [drawn] at draw
    -- The token that is refreshed was drawn by the first call.
    obtain rfl : token = sampleToken := by simpa using mem
    obtain rfl : e = 0 := by simpa [other] using draw
    have back : 0 ∈ returnedCalls ts := by simp [ended]
    obtain ⟨w, hw, o, r, ended⟩ := returned_of_mem back
    exact ⟨w, List.mem_append_left a hw, o, r, ended⟩
  have distinct : ∀ token, .refresh token ∈ Service.orders us ∨ .verify token ∈ Service.orders vs →
      Distinct token (ts ++ us ++ vs) := by
    rw [begun, verified]
    intro token mem
    obtain rfl | rfl : token = sampleToken ∨ token = otherToken := by simpa using mem
    · apply distinct_of_draws <;> (rw [drawn]; decide +kernel)
    · apply distinct_of_draws <;> (rw [drawn]; decide +kernel)
  have returned : Service.Event.returned 2 (.destroyOfUser "u") (.ok 0) ∈ us.map (·.event) := by
    obtain ⟨t, ht, event⟩ := Service.mem_of_mem_marks
      (show (2, .inr ⟨.destroyOfUser "u", .ok 0⟩) ∈ Service.marks us by simp [marks])
    exact List.mem_map.mpr ⟨t, ht, event⟩
  obtain ⟨left, _⟩ := escaped_of_kept_or_verified first idle second idle' brief third
    (by simp [begun]) known distinct returned
  exact ⟨ts, us, vs, s, s', s'', sample, left otherSession (by simp [kept]) rfl⟩

/-- Nobody sees the new session in time: the sign-out ends none, and the new token is good. -/
theorem kept_after_sign_out :
    ∃ ts us vs s s' s'', SampleEscape ts us vs s s' s'' ∧
      otherSession.userId = "u" ∧ otherSession ∈ s'.world.storage.sessions ∧
      Service.Event.returned 3 (.verify otherToken) (.ok otherSession) ∈ vs.map (·.event) := by
  obtain ⟨ts, us, vs, s, s', s'', sample⟩ := exists_sampleEscape
  obtain ⟨_, _, _, _, _, _, _, _, _, _, _, marks, kept⟩ := id sample
  obtain ⟨t, ht, event⟩ := Service.mem_of_mem_marks
    (show (3, .inr ⟨.verify otherToken, .ok otherSession⟩) ∈ Service.marks vs by simp [marks])
  exact ⟨ts, us, vs, s, s', s'', sample, rfl, by simp [kept], List.mem_map.mpr ⟨t, ht, event⟩⟩

end SessionKit.Traffic
