import SessionKit.Proofs.History
import SessionKit.Proofs.Rules
import SessionKit.Proofs.Transparency

/-!
# A cache that always fails

A manager whose cache fails at every call does what it would do without a cache. It asks its cache
for more and logs that this was in vain, but it asks its storage, its clock and its random source
for the same things in the same order. So it comes to the same results, whatever the storage is.
-/

namespace SessionKit

namespace Manager

open Program

/-! ## Requests about the cache -/

/-- The request is about the entries of the cache, or about the fill generation. -/
def Request.OfCache : Request → Prop
  | .lookUp _ | .generation | .fill _ _ _ | .invalidate _ | .invalidateAll => True
  | _ => False

/-- The answer to a request about the cache is one that it may get when every call to the cache
fails. -/
def Request.Fails : (r : Request) → Answer r → Prop
  | .lookUp _, x | .invalidate _, x | .invalidateAll, x => ∃ e, x = .error e
  | .fill _ _ _, x => x ≠ .done
  | .generation, _ => True
  | _, _ => False

/-! ## Programs in the shadow of others -/

/-- When all calls to the cache fail, the first program makes the requests of the second one and
comes to the same result. Besides, it asks the cache and writes to the log. -/
inductive Shadows {α : Type} : Action α → Action α → Prop
  | done (a : α) : Shadows (.done a) (.done a)
  | ask {r : Request} {p q : Answer r → Action α} (outside : ¬ r.OfCache)
    (next : ∀ x, Shadows (p x) (q x)) : Shadows (.ask r p) (.ask r q)
  | fails {r : Request} {p : Answer r → Action α} {q : Action α} (inside : r.OfCache)
    (next : ∀ x, r.Fails x → Shadows (p x) q) : Shadows (.ask r p) q
  | log {e : Event} {p : Unit → Action α} {q : Action α} (next : Shadows (p ()) q) :
    Shadows (.ask (.log e) p) q

namespace Shadows

variable {α β : Type} {p q : Action α} {f g : α → Action β}

theorem bind (first : Shadows p q) (next : ∀ a, Shadows (f a) (g a)) :
    Shadows (p.bind f) (q.bind g) := by
  induction first with
  | done a => exact next a
  | ask outside _ ih => exact .ask outside ih
  | fails inside _ ih => exact .fails inside ih
  | log _ ih => exact .log ih

theorem refl (only : p.Only fun r => ¬ r.OfCache) : Shadows p p := by
  induction p with
  | done a => exact .done a
  | ask r k ih => exact .ask only.1 fun x => ih x (only.2 x)

theorem andThen {p q : Action (Except Session.Error α)}
    {f g : α → Action (Except Session.Error β)} (first : Shadows p q)
    (next : ∀ a, Shadows (f a) (g a)) : Shadows (andThen p f) (Manager.andThen q g) := by
  refine first.bind fun x => ?_
  cases x with
  | ok a => exact next a
  | error e => exact .done _

theorem log_bind {level : Level} {message : String} {fields : List (String × Event.Value)}
    {p q : Action α} (next : Shadows p q) :
    Shadows ((Manager.log level message fields).bind fun _ => p)
      ((Manager.log level message fields).bind fun _ => q) :=
  .ask id fun _ => next

theorem store {operation : String} {call : Storage.Call} :
    Shadows (Manager.store operation call).run (Manager.store operation call).run :=
  .refl (only_store id)

theorem storeFound {operation : String} {call : Storage.Call} :
    Shadows (Manager.storeFound operation call).run (Manager.storeFound operation call).run :=
  .refl (only_storeFound id)

end Shadows

/-! ## Pieces -/

section Pieces

variable {β : Type} {m : Manager} {k token : String} {s : Session}

theorem shadows_drawCredentials :
    Shadows m.withCache.drawCredentials.run m.withoutCache.drawCredentials.run := by
  rw [drawCredentials_run, drawCredentials_run]
  refine .ask id fun drawn => ?_
  cases drawn with
  | error cause => exact .done _
  | ok pair =>
    refine .ask id fun drawn => ?_
    cases drawn with
    | error cause => exact .done _
    | ok id => exact .done _

/-- A generation is good for nothing but a fill, which comes to nothing. -/
theorem shadows_currentGeneration {f g : UInt64 → Action β} (next : ∀ n n', Shadows (f n) (g n')) :
    Shadows (m.withCache.currentGeneration.bind f) (m.withoutCache.currentGeneration.bind g) :=
  .fails trivial fun n _ => next n 0

theorem shadows_cacheFill {n n' : UInt64} :
    Shadows (m.withCache.cacheFill n k s) (m.withoutCache.cacheFill n' k s) := by
  rw [cacheFill_cached _ rfl, cacheFill_uncached _ rfl]
  refine .fails trivial fun x fails => ?_
  cases x with
  | done => exact absurd rfl fails
  | outdated => exact .log (.done ())
  | failed e => exact .log (.done ())

theorem shadows_invalidate : Shadows (m.withCache.invalidate k) (m.withoutCache.invalidate k) := by
  rw [invalidate_cached _ rfl, invalidate_uncached _ rfl]
  refine .fails trivial ?_
  rintro _ ⟨e, rfl⟩
  exact .log (.done ())

theorem shadows_invalidateAll : Shadows m.withCache.invalidateAll m.withoutCache.invalidateAll := by
  rw [invalidateAll_cached _ rfl, invalidateAll_uncached _ rfl]
  refine .fails trivial ?_
  rintro _ ⟨e, rfl⟩
  exact .log (.done ())

theorem shadows_removeExpired : Shadows (removeExpired k) (removeExpired k) :=
  .refl (only_removeExpired id)

/-- What follows a deletion of many sessions. -/
theorem shadows_sweep {removed : Nat} {p q : Action β} (next : Shadows p q) :
    Shadows ((if 0 < removed then m.withCache.invalidateAll else .done ()).bind fun _ => p)
      ((if 0 < removed then m.withoutCache.invalidateAll else .done ()).bind fun _ => q) := by
  split
  · exact shadows_invalidateAll.bind fun _ => next
  · exact next

end Pieces

/-! ## Operations -/

section Operations

variable (m : Manager) (token userId : String)

theorem shadows_create (ipAddress userAgent : String) :
    Shadows (m.withCache.create userId ipAddress userAgent).run
      (m.withoutCache.create userId ipAddress userAgent).run := by
  rw [create_run, create_run]
  refine shadows_drawCredentials.andThen fun x => .ask id fun (now : Timestamp) => ?_
  cases h : now.add? m.settings.maxAge with
  | none =>
    rw [createAt_none m.withCache h, createAt_none m.withoutCache h]
    exact .done _
  | some expiresAt =>
    rw [createAt_some m.withCache h, createAt_some m.withoutCache h]
    refine shadows_currentGeneration fun n n' => Shadows.store.andThen fun _ => ?_
    exact shadows_cacheFill.bind fun _ => Shadows.log_bind (.done _)

theorem shadows_verifyStored (tokenHash : String) :
    Shadows (m.withCache.verifyStored token tokenHash).run
      (m.withoutCache.verifyStored token tokenHash).run := by
  rw [verifyStored_run, verifyStored_run]
  refine shadows_currentGeneration fun n n' => Shadows.storeFound.andThen fun s => ?_
  split
  · exact Shadows.log_bind (.done _)
  · refine .ask id fun (now : Timestamp) => ?_
    show Shadows (ite (s.isExpiredAt now = true) _ _) (ite (s.isExpiredAt now = true) _ _)
    split
    · exact Shadows.log_bind (shadows_removeExpired.bind fun _ => .done _)
    · exact shadows_cacheFill.bind fun _ => .done _

/-- A lookup finds nothing, so the storage has to say what the token is good for. -/
theorem shadows_verify :
    Shadows (m.withCache.verify token).run (m.withoutCache.verify token).run := by
  rw [verify_run, verify_run]
  split
  · exact .done _
  · rw [cacheGet_cached _ rfl, cacheGet_uncached _ rfl]
    refine .fails trivial ?_
    rintro _ ⟨e, rfl⟩
    exact .log (m.shadows_verifyStored token (Token.digest token))

theorem shadows_destroy :
    Shadows (m.withCache.destroy token).run (m.withoutCache.destroy token).run := by
  rw [destroy_run, destroy_run]
  split
  · exact .done _
  · refine .ask id fun deleted => shadows_invalidate.bind fun _ => ?_
    rcases deleted with (_ | _) | _
    · exact .done _
    · exact .done _
    · exact Shadows.log_bind (.done _)

theorem shadows_destroyById (id : String) :
    Shadows (m.withCache.destroyById id).run (m.withoutCache.destroyById id).run := by
  rw [destroyById_run, destroyById_run]
  refine .ask (fun h => h) fun found => .ask (fun h => h) fun deleted => ?_
  have dropped : Shadows (m.withCache.invalidateFound found)
      (m.withoutCache.invalidateFound found) := by
    cases found with
    | ok s => exact shadows_invalidate
    | error cause => exact .done ()
  refine dropped.bind fun _ => ?_
  rcases deleted with (_ | _) | _
  · exact Shadows.log_bind (.done _)
  · exact .done _
  · exact Shadows.log_bind (.done _)

theorem shadows_destroyOfUser :
    Shadows (m.withCache.destroyOfUser userId).run (m.withoutCache.destroyOfUser userId).run := by
  rw [destroyOfUser_run, destroyOfUser_run]
  exact Shadows.store.andThen fun _ => shadows_sweep (Shadows.log_bind (.done _))

theorem shadows_purge : Shadows m.withCache.purge.run m.withoutCache.purge.run := by
  rw [purge_run, purge_run]
  exact Shadows.store.andThen fun _ => shadows_sweep (Shadows.log_bind (.done _))

theorem shadows_refresh :
    Shadows (m.withCache.refresh token).run (m.withoutCache.refresh token).run := by
  rw [refresh_run, refresh_run]
  refine (m.shadows_verify token).andThen fun old => ?_
  refine (m.shadows_destroy token).andThen fun _ => ?_
  exact (m.shadows_create _ _ _).andThen fun _ => Shadows.log_bind (.done _)

/-- An order is carried out in the same way, as far as it does not concern the cache. -/
theorem shadows_program (o : Order) :
    Shadows (o.program m.withCache) (o.program m.withoutCache) := by
  cases o with
  | create userId ipAddress userAgent => exact m.shadows_create userId ipAddress userAgent
  | verify token => exact m.shadows_verify token
  | destroy token => exact m.shadows_destroy token
  | destroyById id => exact m.shadows_destroyById id
  | destroyOfUser userId => exact m.shadows_destroyOfUser userId
  | refresh token => exact m.shadows_refresh token
  | list userId => exact .refl (m.withCache.only_list (fun h => h) fun h => h)
  | get id => exact .refl (m.withCache.only_get fun h => h)
  | purge => exact m.shadows_purge

end Operations

end Manager

/-! ## Sequences -/

namespace Outage

open Manager (Request Answer Order Action Surroundings Shadows)

/-- The clock, the random source and the storage of a manager may be anything and share a state, and
so a storage may fail, or forget, or read the same clock. Of the cache there is only to say why a
call to it fails. -/
structure Stage (World Cause : Type) where
  now : StateM World Timestamp
  token : Nat → StateM World (Except CredentialError Token.Pair)
  identifier : Identifier.Alphabet → Nat → StateM World (Except CredentialError String)
  storage : (call : Storage.Call) → StateM World (Storage.Answer call)
  fault : Cache.Call → StateM Cause Cache.Error

/-- A call to the storage with the answer to it. -/
abbrev Contact := Exchange Storage.Call Storage.Answer

structure Bench (World Cause : Type) where
  world : World
  cause : Cause
  generation : UInt64 := 0
  /-- The calls to the storage. -/
  contacts : List Contact := []

variable {World Cause α : Type} {b b' : Bench World Cause}

namespace Stage

variable (g : Stage World Cause)

def surroundings : Surroundings (StateM (Bench World Cause)) where
  now b :=
    let (x, world) := g.now b.world
    (x, { b with world })
  token n b :=
    let (x, world) := g.token n b.world
    (x, { b with world })
  identifier alphabet n b :=
    let (x, world) := g.identifier alphabet n b.world
    (x, { b with world })
  storage call b :=
    let (x, world) := g.storage call b.world
    (x, { b with world, contacts := b.contacts ++ [⟨call, x⟩] })
  cache call b :=
    let (e, cause) := g.fault call b.cause
    (.error e, { b with cause })
  generation b := (b.generation, b)
  setGeneration generation b := ((), { b with generation })
  log _ := pure ()

def answer (r : Request) (b : Bench World Cause) : Answer r × Bench World Cause :=
  (g.surroundings.answer r).run b

/-- Runs an operation. -/
def perform (m : Manager) (o : Order) (b : Bench World Cause) : o.Result × Bench World Cause :=
  (o.program m).run g.answer b

/-- What operations one after the other come to, each with its calls to the storage. -/
def observe (m : Manager) : List Order → Bench World Cause →
    List (((o : Order) × o.Result) × List Contact)
  | [], _ => []
  | o :: rest, b =>
    let (x, c) := g.perform m o { b with contacts := [] }
    (⟨o, x⟩, c.contacts) :: observe m rest c

end Stage

/-- All is alike but what concerns the cache. -/
structure Alike (b b' : Bench World Cause) : Prop where
  world : b.world = b'.world
  contacts : b.contacts = b'.contacts

variable {g : Stage World Cause} {r : Request} {p q : Action α} {m : Manager}

theorem answer_of_outside (outside : ¬ r.OfCache) (alike : Alike b b') :
    (g.answer r b).1 = (g.answer r b').1 ∧ Alike (g.answer r b).2 (g.answer r b').2 := by
  obtain ⟨world, cause, generation, contacts⟩ := b
  obtain ⟨world', cause', generation', contacts'⟩ := b'
  obtain ⟨rfl, rfl⟩ : world = world' ∧ contacts = contacts' := ⟨alike.world, alike.contacts⟩
  cases r with
  | lookUp | generation | fill | invalidate | invalidateAll => exact absurd trivial outside
  | _ => exact ⟨rfl, rfl, rfl⟩

theorem answer_of_inside (inside : r.OfCache) :
    r.Fails (g.answer r b).1 ∧ Alike (g.answer r b).2 b := by
  cases r with
  | lookUp k => exact ⟨⟨_, rfl⟩, rfl, rfl⟩
  | generation => exact ⟨trivial, rfl, rfl⟩
  | fill n k s =>
    have fill : g.answer (.fill n k s) b =
        let fault := g.fault (.set k s) b.cause
        if b.generation = n then (.failed fault.1, { b with cause := fault.2 })
        else (.outdated, b) := by
      show StateT.run (ite (b.generation = n) _ _ : StateM (Bench World Cause) Manager.Filled) b = _
      split
      · rfl
      · rfl
    rw [fill]
    split
    · exact ⟨nofun, rfl, rfl⟩
    · exact ⟨nofun, rfl, rfl⟩
  | invalidate k => exact ⟨⟨_, rfl⟩, rfl, rfl⟩
  | invalidateAll => exact ⟨⟨_, rfl⟩, rfl, rfl⟩
  | _ => exact absurd inside id

/-- A program in the shadow of another one comes to the same result by the same calls. -/
theorem run_of_shadows (shadows : Shadows p q) (alike : Alike b b') :
    (p.run g.answer b).1 = (q.run g.answer b').1 ∧
      Alike (p.run g.answer b).2 (q.run g.answer b').2 := by
  induction shadows generalizing b b' with
  | done a => exact ⟨rfl, alike⟩
  | @ask r p q outside _ ih =>
    obtain ⟨answer, alike⟩ := answer_of_outside (g := g) outside alike
    rw [Program.run_ask, Program.run_ask, answer]
    exact ih _ alike
  | fails inside _ ih =>
    obtain ⟨fails, same⟩ := answer_of_inside (g := g) (b := b) inside
    exact ih _ fails ⟨same.world.trans alike.world, same.contacts.trans alike.contacts⟩
  | log _ ih => exact ih alike

theorem observe_eq_of_alike (orders : List Order) (world : b.world = b'.world) :
    g.observe m.withCache orders b = g.observe m.withoutCache orders b' := by
  induction orders generalizing b b' with
  | nil => rfl
  | cons o rest ih =>
    have alike : Alike { b with contacts := [] } { b' with contacts := [] } := ⟨world, rfl⟩
    obtain ⟨result, alike⟩ : (g.perform m.withCache o { b with contacts := [] }).1 =
          (g.perform m.withoutCache o { b' with contacts := [] }).1 ∧
        Alike (g.perform m.withCache o { b with contacts := [] }).2
          (g.perform m.withoutCache o { b' with contacts := [] }).2 :=
      run_of_shadows (m.shadows_program o) alike
    simp only [Stage.observe]
    rw [result, alike.contacts, ih alike.world]

/-- Over any storage, a manager whose cache fails at every call has the results of one without a
cache, by the same calls to the storage in the same order. -/
theorem observe_failing_eq_withoutCache {World Cause : Type} (g : Stage World Cause) (m : Manager)
    (world : World) (cause : Cause) (orders : List Order) :
    g.observe m.withCache orders { world, cause } =
      g.observe m.withoutCache orders { world, cause } :=
  observe_eq_of_alike orders rfl

end Outage
end SessionKit
