import SessionKit.Proofs.Sequence
import SessionKit.Proofs.Values

/-!
# With a cache and without

Operations that run one after the other come to the same with a cache and without one. Between two
of them the cache has nothing that the storage has not: each entry, good or stale, is the session
that is stored under its digest. A removal breaks this for the digests it removes, and the same
operation mends it.
-/

namespace SessionKit

namespace Manager

/-- The same manager with a cache. -/
def withCache (m : Manager) : Manager := { m with cached := true }

/-- The same manager without a cache. -/
def withoutCache (m : Manager) : Manager := { m with cached := false }

end Manager

namespace Sequence

open Manager (Order andThen)

variable {σ α β : Type} {g : Stage σ} {now : Timestamp} {m : Manager} {b b' : Bench σ}
  {k token : String} {s : Session}

/-! ## Benches in step -/

/-- Two benches with the same storage and the same source. Each entry of the first one's cache is
what is stored under its digest, except for digests that are stale. -/
structure Synced (stale : String → Prop) (b b' : Bench σ) : Prop where
  source : b.source = b'.source
  storage : b.storage = b'.storage
  faithful : ∀ e ∈ b.cache.entries, stale e.1 ∨ b.storage.byHash? e.1 = some e.2.session

abbrev InStep (b b' : Bench σ) : Prop := Synced (fun _ => False) b b'

/-- The same result on benches in step. -/
def Alike (x y : α) (c c' : Bench σ) : Prop := x = y ∧ InStep c c'

namespace Synced

variable {stale stale' : String → Prop}

/-- A call to both storages. -/
theorem called {call : Storage.Call} (sync : Synced stale b b')
    (keeps : ∀ key s, ¬ stale' key → b.storage.byHash? key = some s →
      (b.called now call).storage.byHash? key = some s)
    (weaker : ∀ key, stale key → stale' key) :
    Synced stale' (b.called now call) (b'.called now call) where
  source := sync.source
  storage := congrArg (fun t : Storage.Memory => (t.call now call).state) sync.storage
  faithful e mem := by
    by_cases hs : stale' e.1
    · exact .inl hs
    · exact .inr (keeps _ _ hs ((sync.faithful e mem).resolve_left (hs ∘ weaker _)))

/-- A change of the first cache that adds no entries. -/
theorem shrink (sync : Synced stale b b') {c : Bench σ} (source : c.source = b.source)
    (storage : c.storage = b.storage)
    (subset : ∀ e ∈ c.cache.entries, e ∈ b.cache.entries ∧ (stale e.1 → stale' e.1)) :
    Synced stale' c b' where
  source := source.trans sync.source
  storage := storage.trans sync.storage
  faithful e mem := by
    rw [storage]
    exact (sync.faithful e (subset e mem).1).imp_left (subset e mem).2

theorem create (sync : InStep b b') :
    InStep (b.called now (.create s)) (b'.called now (.create s)) :=
  sync.called (fun _ _ _ => Storage.Memory.byHash?_create_of_some) fun _ => id

theorem deleteByHash (sync : Synced (· = k) b b') :
    Synced (· = k) (b.called now (.deleteByHash k)) (b'.called now (.deleteByHash k)) :=
  sync.called
    (fun _ _ other found => (Storage.Memory.byHash?_deleteByHash_of_ne other).trans found)
    fun _ => id

theorem deleteById_of_ok {id : String} (sync : InStep b b')
    (found : (b.storage.call now (.byId id)).answer = .ok s) :
    Synced (· = s.tokenHash) (b.called now (.deleteById id)) (b'.called now (.deleteById id)) := by
  refine sync.called (fun key t other stored => ?_) fun _ => False.elim
  show Storage.Memory.byHash? (b.storage.call now (.deleteById id)).state key = some t
  rw [Storage.Memory.deleteById_of_ok found, Storage.Memory.byHash?_without_of_ne other, stored]

theorem deleteById_of_error {id : String} {cause : Storage.Error} (sync : InStep b b')
    (missed : (b.storage.call now (.byId id)).answer = .error cause) :
    InStep (b.called now (.deleteById id)) (b'.called now (.deleteById id)) := by
  refine sync.called (fun key t _ stored => ?_) fun _ => False.elim
  show Storage.Memory.byHash? (b.storage.call now (.deleteById _)).state key = some t
  rw [Storage.Memory.deleteById_of_error missed, stored]

theorem of_inStep (sync : InStep b b') : Synced stale b b' :=
  sync.shrink rfl rfl fun _ mem => ⟨mem, False.elim⟩

/-- Nothing is stale that the cache has no entries for. -/
theorem inStep (sync : Synced (· = k) b b') (absent : ¬ b.cache.Holds k) : InStep b b' :=
  sync.shrink rfl rfl fun e mem => ⟨mem, fun key => absent ⟨e, mem, key⟩⟩

end Synced

/-! ## The cache -/

theorem relates_currentGeneration :
    Relates g now m.withCache.currentGeneration m.withoutCache.currentGeneration
      (fun _ _ c c' => c = b ∧ c' = b') b b' := ⟨rfl, rfl⟩

theorem relates_cacheFill {n n' : UInt64} (sync : InStep b b')
    (stored : b.storage.byHash? k = some s) :
    Relates g now (m.withCache.cacheFill n k s) (m.withoutCache.cacheFill n' k s)
      (fun _ _ => InStep) b b' := by
  rw [Manager.cacheFill_cached _ rfl, Manager.cacheFill_uncached _ rfl, relates_ask_left,
    answer_fill]
  by_cases current : b.generation = n
  · rw [if_pos current]
    refine ⟨sync.source, sync.storage, fun e mem => .inr ?_⟩
    rcases Cache.Memory.mem_of_mem_set mem with ⟨mem, _⟩ | rfl
    · exact (sync.faithful e mem).resolve_left id
    · exact stored
  · rw [if_neg current]
    exact sync

/-- An invalidation mends what the removal of a digest has broken. -/
theorem relates_invalidate (sync : Synced (· = k) b b') :
    Relates g now (m.withCache.invalidate k) (m.withoutCache.invalidate k)
      (fun _ _ => InStep) b b' := by
  rw [Manager.invalidate_cached _ rfl, Manager.invalidate_uncached _ rfl, relates_ask_left,
    answer_invalidate, Cache.Memory.delete_ok]
  refine sync.shrink rfl rfl fun e mem => ?_
  obtain ⟨mem, other⟩ := Cache.Memory.mem_delete.mp mem
  exact ⟨mem, other⟩

/-- A clear mends everything. -/
theorem relates_invalidateAll {stale : String → Prop} (sync : Synced stale b b') :
    Relates g now m.withCache.invalidateAll m.withoutCache.invalidateAll
      (fun _ _ => InStep) b b' := by
  rw [Manager.invalidateAll_cached _ rfl, Manager.invalidateAll_uncached _ rfl, relates_ask_left,
    answer_invalidateAll]
  refine sync.shrink rfl rfl fun e mem => ?_
  exact absurd mem List.not_mem_nil

/-! ## Calls to the storage -/

theorem relates_store {call : Storage.Call} {p p' : Storage.Answer call → Manager.Action α}
    {post : α → α → Bench σ → Bench σ → Prop} (same : b.storage = b'.storage)
    (next : ∀ x, (b.storage.call now call).answer = x →
      Relates g now (p x) (p' x) post (b.called now call) (b'.called now call)) :
    Relates g now (.ask (.store call) p) (.ask (.store call) p') post b b' := by
  rw [relates_ask, answer_store, answer_store, ← same]
  exact next _ rfl

theorem relates_andThen_store {operation : String} {call : Storage.Call}
    {f f' : call.Value → Manager.Action (Except Session.Error β)}
    {post : Except Session.Error β → Except Session.Error β → Bench σ → Bench σ → Prop}
    (same : b.storage = b'.storage)
    (ok : ∀ v, (b.storage.call now call).answer = .ok v →
      Relates g now (f v) (f' v) post (b.called now call) (b'.called now call))
    (error : ∀ cause, (b.storage.call now call).answer = .error cause →
      post (.error (.storage operation cause)) (.error (.storage operation cause))
        (b.called now call) (b'.called now call)) :
    Relates g now (andThen (Manager.store operation call).run f)
      (andThen (Manager.store operation call).run f') post b b' := by
  rw [Manager.store_run]
  refine relates_store same fun x answer => ?_
  cases x with
  | ok v => exact ok v answer
  | error cause => exact error cause answer

theorem relates_removeExpired (sync : Synced (· = k) b b') :
    Relates g now (Manager.removeExpired k) (Manager.removeExpired k)
      (fun x y c c' => x = y ∧ Synced (· = k) c c' ∧ c.cache = b.cache) b b' := by
  rw [Manager.removeExpired_run]
  refine relates_store sync.storage fun x _ => ?_
  rcases x with (_ | _) | _
  · exact ⟨rfl, sync.deleteByHash, rfl⟩
  · exact ⟨rfl, sync.deleteByHash, rfl⟩
  · exact ⟨rfl, sync.deleteByHash, rfl⟩

/-! ## Operations -/

/-- Both draw the same. -/
theorem relates_draw {r : Manager.Request} {p p' : Manager.Answer r → Manager.Action α}
    {post : α → α → Bench σ → Bench σ → Prop} (draw : σ → Manager.Answer r × σ)
    (draws : ∀ b : Bench σ, g.answer now r b =
      ((draw b.source).1, { b with source := (draw b.source).2 }))
    (sync : InStep b b')
    (next : ∀ x c c', InStep c c' → Relates g now (p x) (p' x) post c c') :
    Relates g now (.ask r p) (.ask r p') post b b' := by
  rw [relates_ask, draws, draws, ← sync.source]
  exact next _ _ _ ⟨rfl, sync.storage, sync.faithful⟩

theorem relates_andThen {p p' : Manager.Action (Except Session.Error α)}
    {f f' : α → Manager.Action (Except Session.Error β)}
    (h : Relates g now p p' Alike b b')
    (next : ∀ x c c', InStep c c' → Relates g now (f x) (f' x) Alike c c') :
    Relates g now (andThen p f) (andThen p' f') Alike b b' := by
  refine relates_bind_of h ?_
  rintro x _ c c' ⟨rfl, sync⟩
  cases x with
  | ok a => exact next a c c' sync
  | error e => exact ⟨rfl, sync⟩

theorem relates_drawCredentials (sync : InStep b b') :
    Relates g now m.withCache.drawCredentials.run m.withoutCache.drawCredentials.run
      Alike b b' := by
  rw [Manager.drawCredentials_run, Manager.drawCredentials_run]
  refine relates_draw _ (fun _ => answer_token) sync fun x c c' sync => ?_
  cases x with
  | error cause => exact ⟨rfl, sync⟩
  | ok pair =>
    refine relates_draw _ (fun _ => answer_identifier) sync fun x c c' sync => ?_
    cases x with
    | error cause => exact ⟨rfl, sync⟩
    | ok id => exact ⟨rfl, sync⟩

theorem relates_create (sync : InStep b b') (userId ipAddress userAgent : String) :
    Relates g now (m.withCache.create userId ipAddress userAgent).run
      (m.withoutCache.create userId ipAddress userAgent).run Alike b b' := by
  rw [Manager.create_run, Manager.create_run]
  refine relates_andThen (relates_drawCredentials sync) fun x c c' sync => ?_
  rw [relates_ask, answer_now, answer_now]
  cases h : now.add? m.settings.maxAge with
  | none =>
    rw [Manager.createAt_none m.withCache h, Manager.createAt_none m.withoutCache h]
    exact ⟨rfl, sync⟩
  | some expiresAt =>
    rw [Manager.createAt_some m.withCache h, Manager.createAt_some m.withoutCache h]
    refine relates_bind_of relates_currentGeneration ?_
    rintro n n' _ _ ⟨rfl, rfl⟩
    refine relates_andThen_store sync.storage (fun u answer => ?_)
      (fun cause answer => ⟨rfl, sync.create⟩)
    refine relates_bind_of (relates_cacheFill sync.create
      (Storage.Memory.byHash?_create_of_ok answer)) ?_
    exact fun _ _ _ _ sync => ⟨rfl, sync⟩

/-- What is not in the cache is verified in the same way. -/
theorem relates_verifyStored (sync : InStep b b') (absent : ¬ b.cache.Holds k) :
    Relates g now (m.withCache.verifyStored token k).run (m.withoutCache.verifyStored token k).run
      Alike b b' := by
  rw [Manager.verifyStored_run, Manager.verifyStored_run]
  refine relates_bind_of relates_currentGeneration ?_
  rintro n n' _ _ ⟨rfl, rfl⟩
  rw [Manager.storeFound_run]
  refine relates_store sync.storage fun x answer => ?_
  rcases x with (_ | _) | s
  · exact ⟨rfl, sync⟩
  · exact ⟨rfl, sync⟩
  · show Relates g now (ite _ _ _) (ite _ _ _) Alike _ _
    split
    · exact relates_log ⟨rfl, sync⟩
    · show Relates g now (ite _ _ _) (ite _ _ _) Alike _ _
      split
      · -- The cache is not told of the deletion, but it has no entry to keep.
        refine relates_log (relates_bind_of (relates_removeExpired sync.of_inStep) ?_)
        rintro x _ c c' ⟨rfl, sync, same⟩
        exact ⟨rfl, sync.inStep (same ▸ absent)⟩
      · exact relates_bind_of (relates_cacheFill sync (Storage.Memory.byHash?_of_ok now answer))
          fun _ _ _ _ sync => ⟨rfl, sync⟩

/-- A session in the cache is what the other manager finds in its storage. -/
theorem relates_verifyCached (sync : InStep b b') (nonempty : ¬ token.isEmpty)
    (stored : b.storage.byHash? (Token.digest token) = some s) :
    Relates g now (m.withCache.verifyCached (Token.digest token) s).run
      (m.withoutCache.verifyStored token (Token.digest token)).run Alike b b' := by
  have found : (b'.storage.call now (.byHash (Token.digest token))).answer = .ok s := by
    rw [← sync.storage]
    exact Storage.Memory.byHash_of_some now stored
  have matching : (Token.verify token s.tokenHash).toOption = some true := by
    rw [(Storage.Memory.mem_of_byHash? stored).2, Token.verify_digest nonempty]
    rfl
  rw [Manager.verifyCached_run, Manager.verifyStored_run, Manager.currentGeneration_uncached _ rfl,
    Manager.storeFound_run]
  show Relates g now _ (.ask (.store _) _) Alike b b'
  -- The manager without a cache finds the session and compares the digests, which always match.
  rw [relates_ask_right, answer_store, found]
  show Relates g now (.ask .now _) (ite _ _ _) Alike b b'
  rw [if_neg (not_not_intro matching), relates_ask, answer_now, answer_now]
  show Relates g now (ite _ _ _) (ite _ _ _) Alike b b'
  split
  · -- Both delete it, and the one with a cache drops it from there.
    refine relates_log (relates_bind_of (relates_removeExpired sync.of_inStep) ?_)
    rintro x _ c c' ⟨rfl, sync, _⟩
    exact relates_bind_left (relates_invalidate sync) fun _ _ _ sync => ⟨rfl, sync⟩
  · exact ⟨rfl, sync⟩

theorem relates_verify (sync : InStep b b') (token : String) :
    Relates g now (m.withCache.verify token).run (m.withoutCache.verify token).run Alike b b' := by
  rw [Manager.verify_run, Manager.verify_run]
  split
  · exact ⟨rfl, sync⟩
  next nonempty =>
    rw [Manager.cacheGet_cached _ rfl, Manager.cacheGet_uncached _ rfl]
    show Relates g now (.ask (.lookUp _) _) _ Alike b b'
    rw [relates_ask_left, answer_lookUp]
    have kept : InStep { b with
        cache := (b.cache.get (g.instant b.ticks) (Token.digest token)).state
        ticks := b.ticks + 1 } b' :=
      sync.shrink rfl rfl fun e mem => ⟨Cache.Memory.mem_of_mem_get mem, id⟩
    obtain ⟨hit, answer⟩ := b.cache.get_ok (g.instant b.ticks) (Token.digest token)
    rw [answer]
    cases hit with
    | some s =>
      -- A hit is good only because the entry is what is stored.
      obtain ⟨x, mem, rfl⟩ := Cache.Memory.mem_of_get_ok answer
      exact relates_verifyCached kept nonempty ((sync.faithful _ mem).resolve_left id)
    | none => exact relates_verifyStored kept (Cache.Memory.not_holds_of_get_none answer)

theorem relates_destroy (sync : InStep b b') (token : String) :
    Relates g now (m.withCache.destroy token).run (m.withoutCache.destroy token).run
      Alike b b' := by
  rw [Manager.destroy_run, Manager.destroy_run]
  split
  · exact ⟨rfl, sync⟩
  · refine relates_store sync.storage fun deleted _ => ?_
    refine relates_bind_of (relates_invalidate sync.of_inStep.deleteByHash) fun _ _ c c' sync => ?_
    rcases deleted with (_ | _) | _
    · exact ⟨rfl, sync⟩
    · exact ⟨rfl, sync⟩
    · exact relates_log ⟨rfl, sync⟩

theorem relates_destroyById (sync : InStep b b') (id : String) :
    Relates g now (m.withCache.destroyById id).run (m.withoutCache.destroyById id).run
      Alike b b' := by
  rw [Manager.destroyById_run, Manager.destroyById_run]
  refine relates_store sync.storage fun found answer => ?_
  refine relates_store sync.storage fun deleted _ => ?_
  have mended : Relates g now (m.withCache.invalidateFound found)
      (m.withoutCache.invalidateFound found)
      (fun _ _ => InStep) ((b.called now (.byId id)).called now (.deleteById id))
      ((b'.called now (.byId id)).called now (.deleteById id)) := by
    cases found with
    | ok s => exact relates_invalidate (sync.deleteById_of_ok answer)
    | error cause => exact sync.deleteById_of_error answer
  refine relates_bind_of mended fun _ _ c c' sync => ?_
  rcases deleted with (_ | _) | _
  · exact relates_log ⟨rfl, sync⟩
  · exact ⟨rfl, sync⟩
  · exact relates_log ⟨rfl, sync⟩

/-- A deletion of many sessions that deletes none leaves the cache alone. -/
theorem relates_sweep {call : Storage.Call} {picks : Session → Bool} (sync : InStep b b')
    (state : ∀ t : Storage.Memory, (t.call now call).state = t.without picks) {n : Nat}
    (count : b.storage.sessions.countP picks = n) :
    Relates g now (if 0 < n then m.withCache.invalidateAll else .done ())
      (if 0 < n then m.withoutCache.invalidateAll else .done ()) (fun _ _ => InStep)
      (b.called now call) (b'.called now call) := by
  split
  · have swept : Synced (fun _ => True) (b.called now call) (b'.called now call) :=
      sync.called (fun _ _ live => absurd trivial live) fun _ _ => trivial
    exact relates_invalidateAll swept
  next none =>
    -- Nothing was picked, so nothing has changed.
    refine sync.called (fun key s _ stored => ?_) fun _ => id
    show Storage.Memory.byHash? (b.storage.call now call).state key = some s
    rw [state, Storage.Memory.without_eq_self (by omega), stored]

theorem relates_destroyOfUser (sync : InStep b b') (userId : String) :
    Relates g now (m.withCache.destroyOfUser userId).run (m.withoutCache.destroyOfUser userId).run
      Alike b b' := by
  rw [Manager.destroyOfUser_run, Manager.destroyOfUser_run]
  refine relates_andThen_store sync.storage (fun n answer => ?_) nofun
  refine relates_bind_of (relates_sweep sync (fun _ => rfl) (Except.ok.inj answer)) ?_
  exact fun _ _ _ _ sync => relates_log ⟨rfl, sync⟩

theorem relates_purge (sync : InStep b b') :
    Relates g now m.withCache.purge.run m.withoutCache.purge.run Alike b b' := by
  rw [Manager.purge_run, Manager.purge_run]
  refine relates_andThen_store sync.storage (fun n answer => ?_) nofun
  refine relates_bind_of (relates_sweep sync (fun _ => rfl) (Except.ok.inj answer)) ?_
  exact fun _ _ _ _ sync => relates_log ⟨rfl, sync⟩

theorem relates_refresh (sync : InStep b b') (token : String) :
    Relates g now (m.withCache.refresh token).run (m.withoutCache.refresh token).run
      Alike b b' := by
  rw [Manager.refresh_run, Manager.refresh_run]
  refine relates_andThen (relates_verify sync token) fun old c c' sync => ?_
  refine relates_andThen (relates_destroy sync token) fun _ c c' sync => ?_
  refine relates_andThen (relates_create sync _ _ _) fun created c c' sync => ?_
  exact relates_log ⟨rfl, sync⟩

theorem relates_list (sync : InStep b b') (userId : String) :
    Relates g now (m.withCache.list userId).run (m.withoutCache.list userId).run Alike b b' := by
  rw [Manager.list_run, Manager.list_run, relates_ask]
  exact relates_andThen_store sync.storage (fun _ _ => ⟨rfl, sync⟩) nofun

theorem relates_get (sync : InStep b b') (id : String) :
    Relates g now (m.withCache.get id).run (m.withoutCache.get id).run Alike b b' := by
  rw [Manager.get_run, Manager.get_run, Manager.storeFound_run]
  refine relates_store sync.storage fun x _ => ?_
  rcases x with (_ | _) | s
  · exact ⟨rfl, sync⟩
  · exact ⟨rfl, sync⟩
  · exact ⟨rfl, sync⟩

/-- An operation keeps two benches in step. -/
theorem relates_program (sync : InStep b b') (o : Order) :
    Relates g now (o.program m.withCache) (o.program m.withoutCache) Alike b b' := by
  cases o with
  | create userId ipAddress userAgent => exact relates_create sync userId ipAddress userAgent
  | verify token => exact relates_verify sync token
  | destroy token => exact relates_destroy sync token
  | destroyById id => exact relates_destroyById sync id
  | destroyOfUser userId => exact relates_destroyOfUser sync userId
  | refresh token => exact relates_refresh sync token
  | list userId => exact relates_list (m := m) sync userId
  | get id => exact relates_get (m := m) sync id
  | purge => exact relates_purge sync

/-! ## Sequences -/

theorem inStep_fresh (settings : Cache.Settings) (source : σ) :
    InStep (Bench.fresh settings source) (Bench.fresh settings source) :=
  ⟨rfl, rfl, fun _ mem => absurd mem List.not_mem_nil⟩

theorem observe_eq_of_inStep (sync : InStep b b') (occasions : List Occasion) :
    g.observe m.withCache occasions b = g.observe m.withoutCache occasions b' := by
  induction occasions generalizing b b' with
  | nil => rfl
  | cons occasion rest ih =>
    obtain ⟨o, now⟩ := occasion
    obtain ⟨result, sync⟩ : Alike (g.perform now m.withCache o b).1
        (g.perform now m.withoutCache o b').1 (g.perform now m.withCache o b).2
        (g.perform now m.withoutCache o b').2 := relates_program sync o
    simp only [Stage.observe]
    rw [result, sync.storage, ih sync]

/-- With a cache and without one all operations of a sequence have the same results and leave the
same sessions in the storage. -/
theorem observe_withCache_eq_withoutCache (g : Stage σ) (m : Manager) (settings : Cache.Settings)
    (source : σ) (occasions : List Occasion) :
    g.observe m.withCache occasions (.fresh settings source) =
      g.observe m.withoutCache occasions (.fresh settings source) :=
  observe_eq_of_inStep (inStep_fresh settings source) occasions

end Sequence
end SessionKit
