import SessionKit.Proofs.Rules
import SessionKit.Proofs.Traffic
import SessionKit.Proofs.Values

/-!
# Operations by themselves

An operation that goes from its start to its end with nothing else under way. Each of its requests
has a moment of its own, so clocks go on between two of them, and any call to the storage may fail.
Between two operations every entry of the cache is what the storage has under its digest, and the
next operation relies on it. A digest may fall out of this by a destruction by identifier that fails
to look up what it deletes; it is stale from then on, and the others are not affected.
-/

namespace SessionKit.Traffic

open Manager (Request Answer Action Order andThen)

variable {α β : Type} {P : Moment → Prop} {w w' : World} {m : Manager} {k token : String}
  {s x : Session} {stale : String → Prop}

/-! ## Runs -/

/-- Takes a program to its end, each request at the next moment. -/
def alone : (Nat → Moment) → Action α → World → α × World
  | _, .done a, w => (a, w)
  | t, .ask r next, w =>
    alone (fun n => t (n + 1)) (next ((t 0).serve r w).1) ((t 0).serve r w).2

/-- The discipline of a call that knows the world, since nobody else changes it. -/
def solitude (P : Moment → Prop) : Discipline Request Answer World where
  later := Eq
  allows _ _ := True
  learns r x w w' := ∃ t, P t ∧ t.serve r w = (x, w')
  later_refl _ := rfl
  later_trans := Eq.trans

theorem solitude_done {a : α} {post : α → World → Prop} :
    (solitude P).wp (.done a) post w ↔ post a w := by
  constructor
  · intro h
    exact h w rfl
  · rintro h _ rfl
    exact h

theorem solitude_ask {r : Request} {next : Answer r → Action α} {post : α → World → Prop} :
    (solitude P).wp (.ask r next) post w ↔
      ∀ t, P t → (solitude P).wp (next (t.serve r w).1) post (t.serve r w).2 := by
  constructor
  · intro h t ht
    exact (h w rfl).2 _ _ ⟨t, ht, rfl⟩
  · rintro h _ rfl
    refine ⟨trivial, ?_⟩
    rintro _ _ ⟨t, ht, served⟩
    have next := h t ht
    rw [served] at next
    exact next

theorem solitude_quiet : (solitude P).Quiet where
  allows _ _ := trivial
  learns := by
    rintro _ _ _ _ ⟨t, _, served⟩
    exact congrArg Prod.snd served

/-- What a program promises of every run by itself holds of the one at some moments. -/
theorem post_of_alone {p : Action α} {post : α → World → Prop} {t : Nat → Moment}
    (h : (solitude P).wp p post w) (ht : ∀ n, P (t n)) :
    post (alone t p w).1 (alone t p w).2 := by
  induction p generalizing t w with
  | done a => exact solitude_done.mp h
  | ask r next ih => exact ih _ (solitude_ask.mp h (t 0) (ht 0)) fun n => ht (n + 1)

theorem serve_token {t : Moment} {n : Nat} : t.serve (.token n) w = (t.token n, w) := rfl

theorem serve_identifier {t : Moment} {a : Identifier.Alphabet} {n : Nat} :
    t.serve (.identifier a n) w = (t.identifier, w) := rfl

/-- The world after a call to its storage that does not fail. -/
def World.called (w : World) (now : Timestamp) (call : Storage.Call) : World :=
  { w with storage := (w.storage.call now call).state }

theorem solitude_store {call : Storage.Call} {next : Storage.Answer call → Action α}
    {post : α → World → Prop}
    (fails : ∀ t reason, P t → t.fault = some reason →
      (solitude P).wp (next (.error (.backend reason))) post w)
    (done : ∀ t, P t → (solitude P).wp (next (w.storage.call t.now call).answer) post
      (w.called t.now call)) :
    (solitude P).wp (.ask (.store call) next) post w := by
  apply solitude_ask.mpr
  intro t ht
  rw [serve_store, Moment.store]
  cases fault : t.fault with
  | some reason => exact fails t reason ht fault
  | none => exact done t ht

theorem solitude_andThen_store {operation : String} {call : Storage.Call}
    {f : call.Value → Action (Except Session.Error β)}
    {post : Except Session.Error β → World → Prop}
    (fails : ∀ t reason, P t → t.fault = some reason →
      post (.error (.storage operation (.backend reason))) w)
    (ok : ∀ t v, P t → (w.storage.call t.now call).answer = .ok v →
      (solitude P).wp (f v) post (w.called t.now call))
    (error : ∀ t cause, P t → (w.storage.call t.now call).answer = .error cause →
      post (.error (.storage operation cause)) (w.called t.now call)) :
    (solitude P).wp (andThen (Manager.store operation call).run f) post w := by
  rw [Manager.store_run]
  apply solitude_store
  · intro t reason ht fault
    exact solitude_done.mpr (fails t reason ht fault)
  · intro t ht
    cases answer : (w.storage.call t.now call).answer with
    | ok v => exact ok t v ht answer
    | error cause => exact solitude_done.mpr (error t cause ht answer)

/-- An operation that goes by itself and calls the storage first, which does not fail. -/
theorem alone_store {operation : String} {call : Storage.Call} {v : call.Value}
    {f : call.Value → Action (Except Session.Error β)} (sound : (t 0).fault = none)
    (ok : (w.storage.call (t 0).now call).answer = .ok v) :
    alone t (andThen (Manager.store operation call).run f) w =
      alone (fun n => t (n + 1)) (f v) (w.called (t 0).now call) := by
  have served : (t 0).serve (.store call) w = (.ok v, w.called (t 0).now call) := by
    rw [serve_store, Moment.store, sound, ← ok]
    rfl
  rw [Manager.store_run, andThen, Program.ask_bind, alone, served]
  rfl

/-! ## The cache and the storage -/

/-- Every entry of the cache is what the storage has under its digest, except for digests that are
stale. -/
def Faithful (stale : String → Prop) (w : World) : Prop :=
  ∀ e ∈ w.cache.entries, stale e.1 ∨ w.storage.byHash? e.1 = some e.2.session

/-- How an operation finds the world, and how it leaves it. -/
def Settled (m : Manager) (stale : String → Prop) (w : World) : Prop := m.cached → Faithful stale w

namespace Faithful

variable {stale' : String → Prop}

/-- The storage keeps what is not stale, and the cache has nothing new. -/
theorem of_keeps (h : Faithful stale w)
    (keeps : ∀ key s, ¬ stale' key → w.storage.byHash? key = some s →
      w'.storage.byHash? key = some s)
    (entries : ∀ e ∈ w'.cache.entries, e ∈ w.cache.entries ∧ (stale e.1 → stale' e.1)) :
    Faithful stale' w' := by
  intro e mem
  obtain ⟨before, weaker⟩ := entries e mem
  by_cases hs : stale' e.1
  · exact .inl hs
  · exact .inr (keeps _ _ hs ((h e before).resolve_left fun old => hs (weaker old)))

/-- A removal under one digest makes that digest stale. -/
theorem of_removal (h : Faithful stale w) (cache : w'.cache = w.cache)
    (others : ∀ key, key ≠ k → w'.storage.byHash? key = w.storage.byHash? key) :
    Faithful (fun key => stale key ∨ key = k) w' := by
  refine h.of_keeps (fun key s fresh stored => ?_) fun e mem => ⟨cache ▸ mem, .inl⟩
  exact (others key fun same => fresh (.inr same)).trans stored

/-- Nothing is stale that the cache has no entry for. -/
theorem of_absent (h : Faithful (fun key => stale key ∨ key = k) w) (absent : ¬ w.Cached k) :
    Faithful stale w := by
  refine h.of_keeps (fun _ _ _ stored => stored) fun e mem => ⟨mem, fun old => ?_⟩
  exact old.resolve_right fun key => absent ⟨e, mem, key⟩

end Faithful

/-- A creation that is refused changes nothing, and one that is not hides nothing. -/
theorem Settled.create (h : Settled m stale w) (now : Timestamp) (s : Session) :
    Settled m stale (w.called now (.create s)) := by
  intro cached
  apply (h cached).of_keeps
  · intro key y _ stored
    exact Storage.Memory.byHash?_create_of_some stored
  · intro e mem
    exact ⟨mem, id⟩

theorem wp_cacheFill {n : UInt64} (settled : Settled m stale w)
    (stored : w.storage.byHash? k = some s) :
    (solitude P).wp (m.cacheFill n k s)
      (fun _ w' => Settled m stale w' ∧ w'.storage = w.storage) w := by
  by_cases cached : m.cached
  · rw [m.cacheFill_cached cached]
    apply solitude_ask.mpr
    intro t _
    rw [serve_fill]
    by_cases current : w.generation = n
    · rw [if_pos current]
      refine solitude_done.mpr ⟨fun _ e mem => ?_, rfl⟩
      rcases Cache.Memory.mem_of_mem_set mem with ⟨mem, _⟩ | rfl
      · exact settled cached e mem
      · exact .inr stored
    · rw [if_neg current]
      exact solitude_quiet.wp_log fun _ same => same ▸ ⟨settled, rfl⟩
  · rw [Manager.cacheFill, if_neg cached]
    exact solitude_done.mpr ⟨settled, rfl⟩

theorem wp_invalidate (old : m.cached → Faithful (fun key => stale key ∨ key = k) w) :
    (solitude P).wp (m.invalidate k)
      (fun _ w' => Settled m stale w' ∧ w'.storage = w.storage) w := by
  by_cases cached : m.cached
  · rw [m.invalidate_cached cached]
    apply solitude_ask.mpr
    intro t _
    have answer : (t.serve (.invalidate k) w).1 = .ok () := w.cache.delete_ok k
    have mended : Settled m stale (t.serve (.invalidate k) w).2 := fun _ =>
      (old cached).of_keeps (fun _ _ _ stored => stored) fun _ mem =>
        (Cache.Memory.mem_delete.mp mem).imp_right fun other old => old.resolve_right other
    rw [answer]
    exact solitude_done.mpr ⟨mended, rfl⟩
  · rw [m.invalidate_uncached (Bool.eq_false_iff.mpr cached)]
    exact solitude_done.mpr ⟨fun h => absurd h cached, rfl⟩

theorem wp_invalidateAll : (solitude P).wp m.invalidateAll (fun _ w' => Settled m stale w') w := by
  by_cases cached : m.cached
  · rw [m.invalidateAll_cached cached]
    apply solitude_ask.mpr
    intro t _
    exact solitude_done.mpr fun _ e mem => absurd mem List.not_mem_nil
  · rw [m.invalidateAll_uncached (Bool.eq_false_iff.mpr cached)]
    exact solitude_done.mpr fun h => absurd h cached

/-- A hit is what is stored, unless it is stale, and after a miss there is no entry. -/
theorem wp_cacheGet (settled : Settled m stale w) :
    (solitude P).wp (m.cacheGet k)
      (fun hit w' => Settled m stale w' ∧ w'.storage = w.storage ∧
        (∀ x, hit = some x → ¬ stale k → w.storage.byHash? k = some x) ∧
        (hit = none → m.cached → ¬ w'.Cached k)) w := by
  by_cases cached : m.cached
  · rw [m.cacheGet_cached cached]
    apply solitude_ask.mpr
    intro t _
    have kept : Settled m stale (t.serve (.lookUp k) w).2 := fun _ e mem =>
      settled cached e (Cache.Memory.mem_of_mem_get mem)
    obtain ⟨hit, answer⟩ := w.cache.get_ok t.instant k
    have served : (t.serve (.lookUp k) w).1 = .ok hit := answer
    rw [served]
    refine solitude_done.mpr ⟨kept, rfl, ?_, ?_⟩
    · rintro x rfl fresh
      obtain ⟨e, mem, session⟩ := Cache.Memory.mem_of_get_ok answer
      exact session ▸ (settled cached _ mem).resolve_left fresh
    · rintro rfl _
      exact Cache.Memory.not_holds_of_get_none answer
  · rw [Manager.cacheGet, if_neg cached]
    have misses (x : Session) (hit : none = some x) :
        ¬ stale k → w.storage.byHash? k = some x := absurd hit.symm (Option.some_ne_none x)
    exact solitude_done.mpr ⟨settled, rfl, misses, fun _ h => absurd h cached⟩

theorem wp_currentGeneration :
    (solitude P).wp m.currentGeneration (fun _ w' => w' = w) w := by
  unfold Manager.currentGeneration
  split
  · exact solitude_ask.mpr fun t _ => solitude_done.mpr rfl
  · exact solitude_done.mpr rfl

/-- The removal of an expired session leaves the other digests as they are. -/
theorem wp_removeExpired :
    (solitude P).wp (Manager.removeExpired k)
      (fun _ w' => w'.cache = w.cache ∧
        ∀ key, key ≠ k → w'.storage.byHash? key = w.storage.byHash? key) w := by
  rw [Manager.removeExpired_run]
  apply solitude_store
  · intro t reason _ _
    exact solitude_done.mpr ⟨rfl, fun _ _ => rfl⟩
  · intro t _
    have others (key : String) (other : key ≠ k) :
        (w.called t.now (.deleteByHash k)).storage.byHash? key = w.storage.byHash? key :=
      Storage.Memory.byHash?_deleteByHash_of_ne other
    rcases (w.storage.call t.now (.deleteByHash k)).answer with (_ | _) | _
    all_goals exact solitude_done.mpr ⟨rfl, others⟩

/-! ## Operations -/

/-- What a verification comes to. -/
inductive Verdict (P : Moment → Prop) (token : String) (w : World) :
    Except Session.Error Session → World → Prop
  | accepted {x : Session} {w' : World} (stored : w.storage.byHash? (Token.digest token) = some x)
    (nonempty : ¬ token.isEmpty) (same : w'.storage = w.storage) : Verdict P token w (.ok x) w'
  /-- The storage could not be asked. -/
  | unread {t : Moment} {reason : String} {w' : World} (moment : P t)
    (fault : t.fault = some reason) (same : w'.storage = w.storage) :
    Verdict P token w (.error (.storage "look up session" (.backend reason))) w'
  | missing {w' : World} (absent : ¬ w.Stored (Token.digest token))
    (same : w'.storage = w.storage) : Verdict P token w (.error .notFound) w'
  | expired {x : Session} {t : Moment} {e : Session.Error} {w' : World}
    (stored : w.storage.byHash? (Token.digest token) = some x) (moment : P t)
    (late : x.expiresAt ≤ t.now) : Verdict P token w (.error e) w'
  | empty {w' : World} (empty : token.isEmpty) : Verdict P token w (.error .invalidToken) w'

theorem wp_verifyCached (settled : Settled m stale w) (nonempty : ¬ token.isEmpty)
    (stored : ¬ stale (Token.digest token) → w.storage.byHash? (Token.digest token) = some x) :
    (solitude P).wp (m.verifyCached (Token.digest token) x).run
      (fun r w' => Settled m stale w' ∧
        (¬ stale (Token.digest token) → Verdict P token w r w')) w := by
  rw [Manager.verifyCached_run]
  apply solitude_ask.mpr
  intro t ht
  show (solitude P).wp (ite (x.isExpiredAt t.now = true) _ _) _ w
  split
  next late =>
    apply solitude_quiet.wp_log_bind
    refine Discipline.wp_bind_of wp_removeExpired ?_
    rintro fault w₁ ⟨cache, others⟩
    refine Discipline.wp_bind_of (wp_invalidate fun cached =>
      (settled cached).of_removal cache others) ?_
    rintro _ w₂ ⟨settled, _⟩
    refine solitude_done.mpr ⟨settled, fun fresh => ?_⟩
    exact .expired (stored fresh) ht (of_decide_eq_true late)
  next => exact solitude_done.mpr ⟨settled, fun fresh => .accepted (stored fresh) nonempty rfl⟩

theorem wp_verifyStored (settled : Settled m stale w) (nonempty : ¬ token.isEmpty)
    (absent : m.cached → ¬ w.Cached (Token.digest token)) :
    (solitude P).wp (m.verifyStored token (Token.digest token)).run
      (fun r w' => Settled m stale w' ∧ Verdict P token w r w') w := by
  rw [Manager.verifyStored_run]
  refine Discipline.wp_bind_of wp_currentGeneration ?_
  intro n w₁ same
  rw [same, Manager.storeFound_run]
  apply solitude_store
  · intro t reason ht fault
    exact solitude_done.mpr ⟨settled, .unread ht fault rfl⟩
  · intro t _
    show (solitude P).wp _ _ w
    cases answer : (w.storage.call t.now (.byHash (Token.digest token))).answer with
    | error cause =>
      simp only [Storage.Memory.call] at answer
      cases found : w.storage.byHash? (Token.digest token) with
      | some y => simp [found] at answer
      | none =>
        obtain rfl : Storage.Error.notFound = cause := by simpa [found] using answer
        exact solitude_done.mpr ⟨settled, .missing (Storage.Memory.byHash?_eq_none.mp found) rfl⟩
    | ok x =>
      have stored := Storage.Memory.byHash?_of_ok t.now answer
      -- What is stored under the digest of a token always matches the token.
      have matching : (Token.verify token x.tokenHash).toOption = some true := by
        rw [(Storage.Memory.mem_of_byHash? stored).2, Token.verify_digest nonempty]
        rfl
      show (solitude P).wp (ite (¬ _ = some true) _ _) _ w
      rw [if_neg (not_not_intro matching)]
      apply solitude_ask.mpr
      intro t ht
      show (solitude P).wp (ite (x.isExpiredAt t.now = true) _ _) _ w
      split
      next late =>
        apply solitude_quiet.wp_log_bind
        refine Discipline.wp_bind_of wp_removeExpired ?_
        rintro fault w' ⟨cache, others⟩
        -- The cache is not told of the removal, but it has no entry to keep.
        have settled' : Settled m stale w' := by
          intro cached
          apply ((settled cached).of_removal cache others).of_absent
          intro held
          apply absent cached
          obtain ⟨e, mem, key⟩ := held
          exact ⟨e, cache ▸ mem, key⟩
        exact solitude_done.mpr ⟨settled', .expired stored ht (of_decide_eq_true late)⟩
      next =>
        refine Discipline.wp_bind_of (wp_cacheFill settled stored) ?_
        rintro _ w' ⟨settled, same⟩
        exact solitude_done.mpr ⟨settled, .accepted stored nonempty same⟩

theorem wp_verify (settled : Settled m stale w) (token : String) :
    (solitude P).wp (m.verify token).run
      (fun r w' => Settled m stale w' ∧
        (¬ stale (Token.digest token) → Verdict P token w r w')) w := by
  rw [Manager.verify_run]
  split
  next empty => exact solitude_done.mpr ⟨settled, fun _ => .empty empty⟩
  next nonempty =>
    refine Discipline.wp_bind_of (wp_cacheGet settled) ?_
    rintro hit w₁ ⟨settled, same, hits, misses⟩
    -- A verdict on the storage after the lookup is one on the storage before it.
    have verdict {r : Except Session.Error Session} {w₂ : World} (h : Verdict P token w₁ r w₂) :
        Verdict P token w r w₂ := by
      cases h with
      | accepted stored nonempty same' =>
        exact .accepted (same ▸ stored) nonempty (same'.trans same)
      | unread ht fault same' => exact .unread ht fault (same'.trans same)
      | missing absent same' =>
        refine .missing ?_ (same'.trans same)
        rwa [World.Stored, ← same]
      | expired stored ht late => exact .expired (same ▸ stored) ht late
      | empty empty => exact .empty empty
    cases hit with
    | some x =>
      have stored := hits x rfl
      rw [← same] at stored
      exact Discipline.wp_mono (fun _ _ h => h.imp_right fun known fresh => verdict (known fresh))
        (wp_verifyCached settled nonempty stored)
    | none =>
      exact Discipline.wp_mono (fun _ _ h => h.imp_right fun known _ => verdict known)
        (wp_verifyStored settled nonempty (misses rfl))

theorem wp_verify_of_fresh (settled : Settled m stale w) (fresh : ¬ stale (Token.digest token)) :
    (solitude P).wp (m.verify token).run
      (fun r w' => Settled m stale w' ∧ Verdict P token w r w') w :=
  Discipline.wp_mono (fun _ _ h => h.imp_right fun known => known fresh) (wp_verify settled token)

/-- What a destruction comes to. -/
inductive Destruction (P : Moment → Prop) (token : String) (w : World) :
    Except Session.Error Unit → World → Prop
  | gone {w' : World} (absent : ¬ w'.Stored (Token.digest token)) :
    Destruction P token w (.ok ()) w'
  | missing {w' : World} (absent : ¬ w.Stored (Token.digest token))
    (same : w'.storage = w.storage) : Destruction P token w (.error .notFound) w'
  | failed {t : Moment} {reason : String} {w' : World} (moment : P t)
    (fault : t.fault = some reason) (same : w'.storage = w.storage) :
    Destruction P token w (.error (.storage "delete session" (.backend reason))) w'
  | empty {w' : World} (empty : token.isEmpty) : Destruction P token w (.error .invalidToken) w'

theorem wp_destroy (settled : Settled m stale w) (token : String) :
    (solitude P).wp (m.destroy token).run
      (fun r w' => Settled m stale w' ∧ Destruction P token w r w') w := by
  rw [Manager.destroy_run]
  split
  next empty => exact solitude_done.mpr ⟨settled, .empty empty⟩
  next =>
    apply solitude_store
    · intro t reason ht fault
      refine Discipline.wp_bind_of (wp_invalidate fun cached =>
        (settled cached).of_removal rfl fun _ _ => rfl) ?_
      rintro _ w' ⟨settled, same⟩
      exact solitude_done.mpr ⟨settled, .failed ht fault same⟩
    · intro t _
      refine Discipline.wp_bind_of (wp_invalidate fun cached =>
        (settled cached).of_removal rfl fun _ other =>
          Storage.Memory.byHash?_deleteByHash_of_ne other) ?_
      rintro _ w' ⟨settled, same⟩
      rcases w.storage.deleteByHash_cases t.now (Token.digest token) with ok | ⟨error, absent⟩
      · rw [ok]
        apply solitude_quiet.wp_log_bind
        refine solitude_done.mpr ⟨settled, .gone ?_⟩
        rw [World.Stored, same]
        exact Storage.Memory.not_holds_deleteByHash
      · rw [error]
        refine solitude_done.mpr ⟨settled, .missing absent (same.trans ?_)⟩
        show (w.storage.deleteByHash (Token.digest token)).state = w.storage
        rw [Storage.Memory.deleteByHash, Storage.Memory.byHash?_eq_none.mpr absent]

/-- Why no session was created. -/
inductive Uncreated (m : Manager) : Session.Error → Prop
  /-- The random source fails at the token or at the identifier. -/
  | generation (cause : CredentialError) : Uncreated m (.generation cause)
  | lifetime : Uncreated m (.lifetimeOutOfRange m.settings.maxAge)
  | storage (cause : Storage.Error) : Uncreated m (.storage "create session" cause)

theorem wp_create (settled : Settled m stale w) (userId ipAddress userAgent : String) :
    (solitude P).wp (m.create userId ipAddress userAgent).run
      (fun r w' => Settled m stale w' ∧
        ∀ e, r = .error e → Uncreated m e ∧ w'.storage = w.storage) w := by
  -- Whatever is drawn, the world stays as it is.
  have draws : (solitude P).wp m.drawCredentials.run
      (fun r w' => w' = w ∧ ∀ e, r = .error e → Uncreated m e) w := by
    rw [Manager.drawCredentials_run]
    apply solitude_ask.mpr
    intro t _
    rw [serve_token]
    rcases t.token m.settings.tokenBytes with cause | pair
    · exact solitude_done.mpr ⟨rfl, fun e same => Except.error.inj same ▸ .generation cause⟩
    · apply solitude_ask.mpr
      intro t _
      rw [serve_identifier]
      rcases t.identifier with cause | id
      · exact solitude_done.mpr ⟨rfl, fun e same => Except.error.inj same ▸ .generation cause⟩
      · exact solitude_done.mpr ⟨rfl, nofun⟩
  rw [Manager.create_run]
  refine Discipline.wp_andThen draws ?_ ?_
  · rintro y w₁ ⟨same, _⟩
    rw [same]
    apply solitude_ask.mpr
    intro t _
    show (solitude P).wp (m.createAt userId ipAddress userAgent y t.now) _ w
    cases h : t.now.add? m.settings.maxAge with
    | none =>
      rw [Manager.createAt_none m h]
      exact solitude_done.mpr ⟨settled, fun e same => Except.error.inj same ▸ ⟨.lifetime, rfl⟩⟩
    | some expiresAt =>
      rw [Manager.createAt_some m h]
      refine Discipline.wp_bind_of wp_currentGeneration ?_
      intro n w₁ same
      rw [same]
      apply solitude_andThen_store
      · intro t reason _ _
        exact ⟨settled, fun e same => Except.error.inj same ▸ ⟨.storage _, rfl⟩⟩
      · intro t _ _ answer
        refine Discipline.wp_bind_of (wp_cacheFill (settled.create t.now _)
          (Storage.Memory.byHash?_create_of_ok answer)) ?_
        rintro _ w' ⟨settled, _⟩
        apply solitude_quiet.wp_log_bind
        exact solitude_done.mpr ⟨settled, nofun⟩
      · intro t cause _ answer
        refine ⟨settled.create t.now _, fun e failed => ?_⟩
        exact Except.error.inj failed ▸ ⟨.storage cause, Storage.Memory.create_of_error answer⟩
  · rintro e w₁ ⟨same, uncreated⟩
    rw [same]
    exact solitude_done.mpr ⟨settled, fun e' same => Except.error.inj same ▸ ⟨uncreated e rfl, rfl⟩⟩

/-- What is left of a deletion of many sessions, once it is known how many there were. -/
theorem wp_sweep {picks : Session → Bool} {n : Nat} (settled : Settled m stale w)
    (storage : w'.storage = w.storage.without picks) (cache : w'.cache = w.cache)
    (count : w.storage.sessions.countP picks = n) :
    (solitude P).wp (if 0 < n then m.invalidateAll else .done ())
      (fun _ w' => Settled m stale w') w' := by
  split
  · exact wp_invalidateAll
  next none =>
    -- Nothing was picked, so nothing has changed.
    refine solitude_done.mpr fun cached => (settled cached).of_keeps ?_ ?_
    · intro key s _ stored
      rwa [storage, Storage.Memory.without_eq_self (by omega)]
    · intro e mem
      exact ⟨cache ▸ mem, id⟩

theorem wp_destroyOfUser (settled : Settled m stale w) (userId : String) :
    (solitude P).wp (m.destroyOfUser userId).run (fun _ w' => Settled m stale w') w := by
  rw [Manager.destroyOfUser_run]
  apply solitude_andThen_store
  · intro t reason _ _
    exact settled
  · intro t n _ answer
    refine Discipline.wp_bind_of (wp_sweep settled rfl rfl (Except.ok.inj answer)) ?_
    intro _ w' settled
    exact solitude_quiet.wp_log_bind (solitude_done.mpr settled)
  · intro t cause _ answer
    cases answer

theorem wp_purge (settled : Settled m stale w) :
    (solitude P).wp m.purge.run (fun _ w' => Settled m stale w') w := by
  rw [Manager.purge_run]
  apply solitude_andThen_store
  · intro t reason _ _
    exact settled
  · intro t n _ answer
    refine Discipline.wp_bind_of (wp_sweep settled rfl rfl (Except.ok.inj answer)) ?_
    intro _ w' settled
    exact solitude_quiet.wp_log_bind (solitude_done.mpr settled)
  · intro t cause _ answer
    cases answer

theorem wp_refresh (settled : Settled m stale w) (token : String) :
    (solitude P).wp (m.refresh token).run (fun _ w' => Settled m stale w') w := by
  rw [Manager.refresh_run]
  refine Discipline.wp_andThen (wp_verify settled token) ?_ fun _ _ h => solitude_done.mpr h.1
  rintro old w₁ ⟨settled, _⟩
  refine Discipline.wp_andThen (wp_destroy settled token) ?_ fun _ _ h => solitude_done.mpr h.1
  rintro _ w₂ ⟨settled, _⟩
  refine Discipline.wp_andThen (wp_create settled _ _ _) ?_ fun _ _ h => solitude_done.mpr h.1
  rintro created w₃ ⟨settled, _⟩
  exact solitude_quiet.wp_log_bind (solitude_done.mpr settled)

theorem wp_list (settled : Settled m stale w) (userId : String) :
    (solitude P).wp (m.list userId).run (fun _ w' => Settled m stale w') w := by
  rw [Manager.list_run]
  apply solitude_ask.mpr
  intro t _
  apply solitude_andThen_store
  · intro t reason _ _
    exact settled
  · intro t sessions _ _
    exact solitude_done.mpr settled
  · intro t cause _ answer
    cases answer

theorem wp_get (settled : Settled m stale w) (id : String) :
    (solitude P).wp (m.get id).run (fun _ w' => Settled m stale w') w := by
  rw [Manager.get_run, Manager.storeFound_run]
  apply solitude_ask.mpr
  intro t _
  have kept : Settled m stale (t.serve (.store (.byId id)) w).2 := by
    rw [serve_store]
    rcases store_cases (t := t) (w := w) (.byId id) with ⟨reason, failed⟩ | done
    · rwa [failed]
    · rwa [done]
  rcases (t.serve (.store (.byId id)) w).1 with (_ | _) | _
  all_goals exact solitude_done.mpr kept

/-- What a lookup has shown, if it has shown something, is dropped. -/
theorem wp_invalidateFound (stale : String → Prop) {found : Except Storage.Error Session}
    (ok : ∀ s, found = .ok s → m.cached → Faithful (fun key => stale key ∨ key = s.tokenHash) w)
    (error : ∀ cause, found = .error cause → Settled m stale w) :
    (solitude P).wp (m.invalidateFound found) (fun _ w' => Settled m stale w') w := by
  cases found with
  | ok s => exact Discipline.wp_mono (fun _ _ h => h.1) (wp_invalidate (ok s rfl))
  | error cause => exact solitude_done.mpr (error cause rfl)

theorem world_of_wp {Q : World → Prop} {p : Action α} (t : Nat → Moment)
    (h : (solitude fun _ => True).wp p (fun _ w' => Q w') w) : Q (alone t p w).2 :=
  post_of_alone h fun _ => trivial

/-- The lookup of a destruction by identifier says which digest is to be dropped. -/
theorem settled_destroyById_of_seen {t : Nat → Moment} (settled : Settled m stale w) (id : String)
    (seen : (t 0).fault = none) : Settled m stale (alone t (m.destroyById id).run w).2 := by
  have served : (t 0).serve (.store (.byId id)) w =
      ((w.storage.call (t 0).now (.byId id)).answer, w) := by
    rw [serve_store, Moment.store, seen]
    rfl
  rw [Manager.destroyById_run, alone, served]
  apply world_of_wp
  apply solitude_store
  · intro t' reason _ _
    refine Discipline.wp_bind_of (wp_invalidateFound stale ?_ fun _ _ => settled) ?_
    · intro s _ cached
      exact (settled cached).of_removal rfl fun _ _ => rfl
    · intro _ w' settled
      exact solitude_done.mpr settled
  · intro t' _
    refine Discipline.wp_bind_of (wp_invalidateFound stale ?_ ?_) ?_
    · intro s shown cached
      -- What a lookup by identifier shows does not depend on the time.
      have found : (w.storage.call t'.now (.byId id)).answer = .ok s := shown
      refine (settled cached).of_removal rfl fun key other => ?_
      show (w.storage.call t'.now (.deleteById id)).state.byHash? key = w.storage.byHash? key
      rw [Storage.Memory.deleteById_of_ok found, Storage.Memory.byHash?_without_of_ne other]
    · intro cause missed cached
      have found : (w.storage.call t'.now (.byId id)).answer = .error cause := missed
      have same : (w.called t'.now (.deleteById id)).storage = w.storage :=
        Storage.Memory.deleteById_of_error found
      refine (settled cached).of_keeps ?_ fun _ mem => ⟨mem, fun old => old⟩
      intro key s _ stored
      rwa [same]
    · intro _ w' settled
      rcases (w.storage.call t'.now (.deleteById id)).answer with (_ | _) | _
      · exact solitude_quiet.wp_log_bind (solitude_done.mpr settled)
      · exact solitude_done.mpr settled
      · exact solitude_quiet.wp_log_bind (solitude_done.mpr settled)

/-- If the lookup fails, the cache is left alone. -/
theorem world_destroyById_of_unseen {t : Nat → Moment} (id : String)
    (unseen : (t 0).fault ≠ none) :
    (alone t (m.destroyById id).run w).2 = w ∨
      ∃ now, (alone t (m.destroyById id).run w).2 = w.called now (.deleteById id) := by
  obtain ⟨reason, fault⟩ := Option.ne_none_iff_exists'.mp unseen
  have served : (t 0).serve (.store (.byId id)) w = (.error (.backend reason), w) := by
    rw [serve_store, Moment.store, fault]
  rw [Manager.destroyById_run, alone, served]
  refine world_of_wp (Q := fun w' => w' = w ∨ ∃ now, w' = w.called now (.deleteById id)) _ ?_
  apply solitude_store
  · intro t' reason' _ _
    exact solitude_done.mpr (.inl rfl)
  · intro t' _
    have taken : ∃ now, w.called t'.now (.deleteById id) = w.called now (.deleteById id) :=
      ⟨t'.now, rfl⟩
    show (solitude _).wp _ _ (w.called t'.now (.deleteById id))
    rcases (w.storage.call t'.now (.deleteById id)).answer with (_ | _) | _
    · exact solitude_quiet.wp_log_bind (solitude_done.mpr (.inr taken))
    · exact solitude_done.mpr (.inr taken)
    · exact solitude_quiet.wp_log_bind (solitude_done.mpr (.inr taken))

/-- A destruction by identifier whose lookup fails may leave an entry behind, but only under a
digest that it takes out of the storage. -/
theorem settled_destroyById {t : Nat → Moment} (settled : Settled m stale w) (id : String)
    (seen : ∀ key, ¬ stale key → (t 0).fault ≠ none → w.Stored key →
      (alone t (m.destroyById id).run w).2.Stored key) :
    Settled m stale (alone t (m.destroyById id).run w).2 := by
  by_cases fault : (t 0).fault = none
  · exact settled_destroyById_of_seen settled id fault
  obtain same | ⟨now, same⟩ := world_destroyById_of_unseen id fault
  · rwa [same]
  rw [same] at seen ⊢
  cases answer : (w.storage.call now (.byId id)).answer with
  | error cause =>
    have kept : (w.called now (.deleteById id)).storage = w.storage :=
      Storage.Memory.deleteById_of_error answer
    intro cached
    refine (settled cached).of_keeps ?_ fun _ mem => ⟨mem, fun old => old⟩
    intro key s _ stored
    rwa [kept]
  | ok x =>
    have taken : (w.called now (.deleteById id)).storage =
        w.storage.without fun s => s.tokenHash = x.tokenHash :=
      Storage.Memory.deleteById_of_ok answer
    intro cached
    refine (settled cached).of_keeps ?_ fun _ mem => ⟨mem, fun old => old⟩
    intro key s fresh stored
    have other : key ≠ x.tokenHash := by
      rintro rfl
      obtain ⟨y, mem, hash⟩ := seen _ fresh fault ⟨s, Storage.Memory.mem_of_byHash? stored⟩
      rw [taken] at mem
      exact (Storage.Memory.mem_without.mp mem).2 (decide_eq_true hash)
    rwa [taken, Storage.Memory.byHash?_without_of_ne other]

/-! ## Sequences -/

/-- What operations that run one after the other may lead to, as far as one digest goes. Any call to
the storage may fail. But no destruction by identifier whose lookup has failed takes the digest out
of the storage. -/
inductive Reached (m : Manager) (settings : Cache.Settings) (tokenHash : String) : World → Prop
  | fresh : Reached m settings tokenHash (fresh settings).world
  | performed {w : World} (reached : Reached m settings tokenHash w) (o : Order) (t : Nat → Moment)
    (seen : ∀ id, o = .destroyById id → (t 0).fault ≠ none → w.Stored tokenHash →
      (alone t (o.program m) w).2.Stored tokenHash) :
    Reached m settings tokenHash (alone t (o.program m) w).2

theorem settled_program {t : Nat → Moment} (settled : Settled m stale w) (o : Order)
    (seen : ∀ id, o = .destroyById id → ∀ key, ¬ stale key → (t 0).fault ≠ none → w.Stored key →
      (alone t (o.program m) w).2.Stored key) :
    Settled m stale (alone t (o.program m) w).2 := by
  cases o with
  | create userId ipAddress userAgent =>
    exact world_of_wp t (Discipline.wp_mono (fun _ _ h => h.1) (wp_create settled _ _ _))
  | verify token =>
    exact world_of_wp t (Discipline.wp_mono (fun _ _ h => h.1) (wp_verify settled token))
  | destroy token =>
    exact world_of_wp t (Discipline.wp_mono (fun _ _ h => h.1) (wp_destroy settled token))
  | destroyById id => exact settled_destroyById settled id (seen id rfl)
  | destroyOfUser userId => exact world_of_wp t (wp_destroyOfUser settled userId)
  | refresh token => exact world_of_wp t (wp_refresh settled token)
  | list userId => exact world_of_wp t (wp_list settled userId)
  | get id => exact world_of_wp t (wp_get settled id)
  | purge => exact world_of_wp t (wp_purge settled)

theorem Reached.settled {settings : Cache.Settings} {tokenHash : String}
    (h : Reached m settings tokenHash w) : Settled m (· ≠ tokenHash) w := by
  induction h with
  | fresh => exact fun _ _ mem => absurd mem List.not_mem_nil
  | performed _ o t seen ih =>
    refine settled_program ih o fun id same key fresh => ?_
    obtain rfl := not_not.mp fresh
    exact seen id same

end SessionKit.Traffic
