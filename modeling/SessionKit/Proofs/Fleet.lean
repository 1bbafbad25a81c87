import SessionKit.Proofs.Exposure
import SessionKit.Proofs.Genuine
import SessionKit.Proofs.Provenance

/-!
# Managers side by side

Any number of managers over one storage and one cache. Each manager has a fill generation of its
own, and counts only what it drops itself. A call to the cache may fail, and then has no effect; the
manager that makes it goes on as if nothing had been there.
-/

namespace SessionKit

/-! ## Programs of many -/

namespace Program

variable {ι Request : Type} {Answer : Request → Type} {α : Type} {P : Request → Prop}

/-- The program of one of many, who signs every request. -/
def sign (i : ι) : Program Request Answer α → Program (ι × Request) (fun q => Answer q.2) α
  | .done a => .done a
  | .ask r k => .ask (i, r) fun x => (k x).sign i

theorem Only.sign {p : Program Request Answer α} (only : p.Only P) (i : ι) :
    (p.sign i).Only fun q => q.1 = i ∧ P q.2 := by
  induction p with
  | done a => trivial
  | ask r k ih => exact ⟨⟨rfl, only.1⟩, fun x => ih x (only.2 x)⟩

end Program

namespace Discipline

variable {ι Request : Type} {Answer : Request → Type} {Knowledge α : Type}

/-- The discipline of one of many. -/
def signed (i : ι) (D : Discipline Request Answer Knowledge) :
    Discipline (ι × Request) (fun q => Answer q.2) Knowledge where
  later := D.later
  allows q g := q.1 = i ∧ D.allows q.2 g
  learns q x g g' := q.1 = i → D.learns q.2 x g g'
  later_refl := D.later_refl
  later_trans := D.later_trans

theorem wp_sign {D : Discipline Request Answer Knowledge} {p : Program Request Answer α}
    {post : α → Knowledge → Prop} {g : Knowledge} (i : ι) (h : D.wp p post g) :
    (D.signed i).wp (p.sign i) post g := by
  induction p generalizing g with
  | done a => exact h
  | ask r k ih =>
    intro g' later
    obtain ⟨allowed, next⟩ := h g' later
    exact ⟨⟨rfl, allowed⟩, fun x g'' learnt => ih x (next x g'' (learnt rfl))⟩

/-- A history without the signatures. -/
def unsigned (h : List (Exchange (ι × Request) fun q => Answer q.2)) :
    List (Exchange Request Answer) :=
  h.map fun e => ⟨e.1.2, e.2⟩

theorem remembering_sign {allows : Request → List (Exchange Request Answer) → Prop}
    {p : Program Request Answer α} {post : α → List (Exchange Request Answer) → Prop}
    {h : List (Exchange (ι × Request) fun q => Answer q.2)} (i : ι)
    (hp : (remembering allows).wp p post (unsigned h)) :
    (remembering fun q h => allows q.2 (unsigned h)).wp (p.sign i)
      (fun a h => post a (unsigned h)) h := by
  induction p generalizing h with
  | done a => exact remembering_done.mpr (remembering_done.mp hp)
  | ask r k ih =>
    rw [remembering_ask] at hp
    refine remembering_ask.mpr ⟨hp.1, fun x => ih x ?_⟩
    rw [unsigned, List.map_append]
    exact hp.2 x

end Discipline

namespace Manager.Request

/-- The request dropped a digest from the cache. -/
def Clears (tokenHash : String) : (r : Request) → Answer r → Prop
  | .invalidate k, .ok () => k = tokenHash
  | .invalidateAll, .ok () => True
  | _, _ => False

/-- The request put a session into the cache. -/
def Fills (tokenHash : String) : (r : Request) → Answer r → Prop
  | .fill _ k _, .done => k = tokenHash
  | _, _ => False

theorem Clears.drops {tokenHash : String} {r : Request} {x : Answer r} (h : r.Clears tokenHash x) :
    r.Drops tokenHash := by
  cases r with
  | invalidate k =>
    cases x with
    | ok u => exact h
    | error cause => exact absurd h id
  | invalidateAll => trivial
  | _ => exact absurd h id

end Manager.Request

namespace Fleet

open Manager (Request Answer Order Surroundings History)
open Discipline (history mem_history unsigned)

/-- The storage and the cache of all managers, and the generation of each. -/
structure World (ι : Type) where
  storage : Storage.Memory := {}
  cache : Cache.Memory
  generation : ι → UInt64 := fun _ => 0

/-- A moment at which a call to the cache may fail, too. -/
structure Moment extends Traffic.Moment where
  /-- Why a call to the cache fails, if it does. -/
  cacheFault : Option String := none

variable {ι : Type}

/-- The world as one of the managers has it. -/
def World.view (w : World ι) (i : ι) : Traffic.World :=
  { storage := w.storage, cache := w.cache, generation := w.generation i }

/-! ## A cache that fails -/

namespace Moment

variable (t : Moment) (w : Traffic.World)

/-- A call to the cache fails without effect, or takes place. -/
def cache (call : Cache.Call) : StateM Traffic.World (Cache.Answer call) :=
  match t.cacheFault with
  | some reason => pure (.error (.backend reason))
  | none => t.toMoment.surroundings.cache call

def surroundings : Surroundings (StateM Traffic.World) :=
  { t.toMoment.surroundings with cache := t.cache }

/-- The answer to a request of one manager, as the surroundings give it. -/
def answer (r : Request) (w : Traffic.World) : Answer r × Traffic.World :=
  (t.surroundings.answer r).run w

theorem answer_store (call : Storage.Call) :
    t.answer (.store call) w = t.toMoment.serve (.store call) w := rfl

theorem answer_of_sound (sound : t.cacheFault = none) (r : Request) :
    t.answer r w = t.toMoment.serve r w := by
  have same : t.surroundings = t.toMoment.surroundings := by
    have cache : t.cache = t.toMoment.surroundings.cache := by
      funext call
      rw [Moment.cache, sound]
    rw [surroundings, cache]
  rw [answer, same]
  rfl

theorem answer_lookUp_of_fault {reason : String} (fault : t.cacheFault = some reason)
    (tokenHash : String) :
    t.answer (.lookUp tokenHash) w = (.error (.backend reason), w) := by
  show (t.cache (.get tokenHash)).run w = _
  rw [cache, fault]
  rfl

theorem answer_fill_of_fault {reason : String} (fault : t.cacheFault = some reason) (n : UInt64)
    (tokenHash : String) (s : Session) :
    t.answer (.fill n tokenHash s) w =
      (if w.generation = n then .failed (.backend reason) else .outdated, w) := by
  show StateT.run (ite (w.generation = n) (t.cache (.set tokenHash s) >>= _) _ :
    StateM Traffic.World Manager.Filled) w = _
  rw [cache, fault]
  split
  · rfl
  · rfl

theorem answer_invalidate_of_fault {reason : String} (fault : t.cacheFault = some reason)
    (tokenHash : String) :
    t.answer (.invalidate tokenHash) w =
      (.error (.backend reason), { w with generation := w.generation + 1 }) := by
  show (t.cache (.delete tokenHash)).run { w with generation := w.generation + 1 } = _
  rw [cache, fault]
  rfl

theorem answer_invalidateAll_of_fault {reason : String} (fault : t.cacheFault = some reason) :
    t.answer .invalidateAll w =
      (.error (.backend reason), { w with generation := w.generation + 1 }) := by
  show (t.cache .clear).run { w with generation := w.generation + 1 } = _
  rw [cache, fault]
  rfl

end Moment

/-- What a failure of the cache comes to. The generation is bumped all the same. -/
inductive Failed (w : Traffic.World) : (r : Request) → Answer r → Traffic.World → Prop
  | lookUp (k : String) (e : Cache.Error) : Failed w (.lookUp k) (.error e) w
  | fill (n : UInt64) (k : String) (s : Session) (e : Cache.Error) :
    Failed w (.fill n k s) (.failed e) w
  | invalidate (k : String) (e : Cache.Error) :
    Failed w (.invalidate k) (.error e) { w with generation := w.generation + 1 }
  | invalidateAll (e : Cache.Error) :
    Failed w .invalidateAll (.error e) { w with generation := w.generation + 1 }

section Effects

variable {t : Moment} {w : Traffic.World} {r : Request} {s : Session} {tokenHash : String}

theorem answer_cases (t : Moment) (w : Traffic.World) (r : Request) :
    t.answer r w = t.toMoment.serve r w ∨ Failed w r (t.answer r w).1 (t.answer r w).2 := by
  cases fault : t.cacheFault with
  | none => exact .inl (t.answer_of_sound w fault r)
  | some reason =>
    cases r with
    | lookUp k =>
      rw [t.answer_lookUp_of_fault w fault]
      exact .inr (.lookUp k _)
    | fill n k s =>
      rw [t.answer_fill_of_fault w fault, Traffic.serve_fill]
      split
      · exact .inr (.fill n k s _)
      · exact .inl rfl
    | invalidate k =>
      rw [t.answer_invalidate_of_fault w fault]
      exact .inr (.invalidate k _)
    | invalidateAll =>
      rw [t.answer_invalidateAll_of_fault w fault]
      exact .inr (.invalidateAll _)
    | _ => exact .inl rfl

theorem mem_of_mem_answer (h : s ∈ (t.answer r w).2.storage.sessions) :
    s ∈ w.storage.sessions ∨ r.Stores s (t.answer r w).1 := by
  rcases answer_cases t w r with same | failed
  · rw [same] at h ⊢
    exact Traffic.mem_of_mem_serve h
  · revert h
    generalize t.answer r w = served at failed
    intro h
    obtain ⟨x, w'⟩ := served
    cases failed <;> exact .inl h

/-- An entry gets into the cache only by a fill that succeeds. -/
theorem cached_of_cached_answer (h : (t.answer r w).2.Cached tokenHash) :
    w.Cached tokenHash ∧ ¬ r.Clears tokenHash (t.answer r w).1 ∨
      r.Fills tokenHash (t.answer r w).1 := by
  rcases answer_cases t w r with same | failed
  · rw [same] at h ⊢
    rcases Traffic.cached_of_cached_serve h with ⟨held, kept⟩ | ⟨s, rfl⟩
    · exact .inl ⟨held, fun clears => kept clears.drops⟩
    · rw [Traffic.serve_fill, if_pos rfl]
      exact .inr rfl
  · revert h
    generalize t.answer r w = served at failed
    intro h
    obtain ⟨x, w'⟩ := served
    cases failed <;> exact .inl ⟨h, id⟩

theorem current_of_fills (h : r.Fills tokenHash (t.answer r w).1) :
    ∃ s, r = .fill w.generation tokenHash s := by
  cases r with
  | fill n k s =>
    rcases answer_cases t w (.fill n k s) with same | failed
    · rw [same, Traffic.serve_fill] at h
      split at h
      next current =>
        obtain rfl : k = tokenHash := h
        rw [current]
        exact ⟨s, rfl⟩
      next => exact absurd h id
    · generalize t.answer (.fill n k s) w = served at failed h
      obtain ⟨x, w'⟩ := served
      cases failed
      exact absurd h id
  | _ => exact absurd h id

theorem generation_answer : (t.answer r w).2.generation =
    if r.bumps then w.generation + 1 else w.generation := by
  rcases answer_cases t w r with same | failed
  · rw [same]
    exact Traffic.generation_serve
  · generalize t.answer r w = served at failed
    obtain ⟨x, w'⟩ := served
    cases failed with
    | lookUp k e => rfl
    | fill n k s e => rfl
    | invalidate k e => rfl
    | invalidateAll e => rfl

theorem cached_of_hit (h : (t.answer (.lookUp tokenHash) w).1 = .ok (some s)) :
    w.Cached tokenHash := by
  rcases answer_cases t w (.lookUp tokenHash) with same | failed
  · rw [same] at h
    exact Traffic.cached_of_lookUp_ok h
  · generalize t.answer (.lookUp tokenHash) w = served at failed h
    obtain ⟨x, w'⟩ := served
    cases failed
    cases h

end Effects

/-! ## The service -/

/-- The world of all managers after one of them has changed it. -/
def World.restore [DecidableEq ι] (w : World ι) (i : ι) (v : Traffic.World) : World ι :=
  { storage := v.storage, cache := v.cache
    generation := Function.update w.generation i v.generation }

/-- The answer to a request, which is signed by the manager that makes it. -/
def Moment.serve [DecidableEq ι] (t : Moment) (q : ι × Request) (w : World ι) :
    Answer q.2 × World ι :=
  ((t.answer q.2 (w.view q.1)).1, w.restore q.1 (t.answer q.2 (w.view q.1)).2)

theorem generation_serve [DecidableEq ι] (t : Moment) (q : ι × Request) (w : World ι) :
    (t.serve q w).2.generation q.1 = (t.answer q.2 (w.view q.1)).2.generation :=
  Function.update_self ..

theorem generation_serve_of_ne [DecidableEq ι] (t : Moment) (q : ι × Request) (w : World ι) {i : ι}
    (other : i ≠ q.1) : (t.serve q w).2.generation i = w.generation i :=
  Function.update_of_ne other ..

/-- There is a session under a digest in the storage. -/
def World.Stored (w : World ι) (tokenHash : String) : Prop := w.storage.Holds tokenHash

/-- There is an entry under a digest in the cache. -/
def World.Cached (w : World ι) (tokenHash : String) : Prop := w.cache.Holds tokenHash

abbrev State (ι : Type) :=
  Service.State (ι × Request) (fun q => Answer q.2) (ι × Order) (fun o => o.2.Result) (World ι)

abbrev Event (ι : Type) :=
  Service.Event (ι × Request) (fun q => Answer q.2) (ι × Order) (fun o => o.2.Result) Moment

abbrev Transition (ι : Type) := Service.Transition (ι × Request) (fun q => Answer q.2) (ι × Order)
  (fun o => o.2.Result) (World ι) Moment

/-- Managers at work. -/
abbrev service [DecidableEq ι] (m : ι → Manager) : Service (ι × Request) (fun q => Answer q.2)
    (ι × Order) (fun o => o.2.Result) (World ι) Moment where
  program o := (o.2.program (m o.1)).sign o.1
  serve := Moment.serve

/-- An empty storage, an empty cache, and no calls. -/
def fresh (settings : Cache.Settings) : State ι := .initial { cache := .new settings }

theorem fresh_idle (settings : Cache.Settings) : (fresh settings : State ι).Idle :=
  Service.State.initial_idle _

theorem fresh_numbered (settings : Cache.Settings) : (fresh settings : State ι).Numbered :=
  Service.State.initial_numbered _

/-! ## What a step does -/

/-- The step put a session into the storage. -/
def Stores (x : Session) : Event ι → Prop
  | .asked _ _ q answer => q.2.Stores x answer
  | _ => False

/-- The step dropped a digest from the cache. -/
def Clears (tokenHash : String) : Event ι → Prop
  | .asked _ _ q answer => q.2.Clears tokenHash answer
  | _ => False

/-- The step put a session into the cache. -/
def Fills (tokenHash : String) : Event ι → Prop
  | .asked _ _ q answer => q.2.Fills tokenHash answer
  | _ => False

/-- One of the managers drops a digest, or tries to. -/
def Drops (i : ι) (tokenHash : String) : Event ι → Prop
  | .asked _ _ q _ => q.1 = i ∧ q.2.Drops tokenHash
  | _ => False

/-- One of the managers bumps its generation. -/
def bumps [DecidableEq ι] (i : ι) : Event ι → Bool
  | .asked _ _ q _ => decide (q.1 = i) && q.2.bumps
  | _ => false

theorem Drops.bumps [DecidableEq ι] {i : ι} {tokenHash : String} {e : Event ι}
    (h : Drops i tokenHash e) : bumps i e = true := by
  cases e with
  | asked c moment q x =>
    obtain ⟨own, drops⟩ := h
    simp [Fleet.bumps, own, drops.bumps]
  | _ => exact absurd h id

/-- Fewer invalidations of one manager happen during any of its calls than a machine word has
values. -/
abbrev Brief [DecidableEq ι] (i : ι) (ts : List (Transition ι)) : Prop :=
  Service.Brief (fun o e => decide (o.1 = i) && bumps i e) ts

/-- No call to the cache fails in the step. -/
def Sound : Event ι → Prop
  | .asked _ moment _ _ => moment.cacheFault = none
  | _ => True

instance : (e : Event ι) → Decidable (Sound e)
  | .asked _ moment _ _ => inferInstanceAs (Decidable (moment.cacheFault = none))
  | .begun _ _ => .isTrue trivial
  | .returned _ _ _ => .isTrue trivial

theorem exists_drops_of_clears {tokenHash : String} {f : Event ι} (clears : Clears tokenHash f) :
    ∃ i, Drops i tokenHash f := by
  cases f with
  | asked c moment q answer => exact ⟨q.1, rfl, clears.drops⟩
  | _ => exact absurd clears id

section Steps

variable [DecidableEq ι] {m : ι → Manager} {s s' : State ι} {e : Event ι} {x : Session} {i : ι}
  {tokenHash : String}

theorem mem_of_mem_step (step : Service.Step (service m) s e s')
    (h : x ∈ s'.world.storage.sessions) : x ∈ s.world.storage.sessions ∨ Stores x e := by
  cases step with
  | begun o => exact .inl h
  | asked found => exact mem_of_mem_answer h
  | returned found => exact .inl h

theorem cached_of_cached_step (step : Service.Step (service m) s e s')
    (h : s'.world.Cached tokenHash) :
    s.world.Cached tokenHash ∧ ¬ Clears tokenHash e ∨ Fills tokenHash e := by
  cases step with
  | begun o => exact .inl ⟨h, id⟩
  | asked found => exact cached_of_cached_answer h
  | returned found => exact .inl ⟨h, id⟩

theorem not_cached_of_clears (step : Service.Step (service m) s e s') (h : Clears tokenHash e) :
    ¬ s'.world.Cached tokenHash := by
  intro held
  rcases cached_of_cached_step step held with ⟨_, kept⟩ | fills
  · exact kept h
  · cases e with
    | asked c t q answer =>
      obtain ⟨j, r⟩ := q
      cases r with
      | fill n k y => exact absurd h id
      | _ => exact absurd fills id
    | _ => exact absurd h id

theorem generation_step (step : Service.Step (service m) s e s') : s'.world.generation i =
    if bumps i e then s.world.generation i + 1 else s.world.generation i := by
  cases step with
  | begun o => rfl
  | @asked c t o q k found =>
    show (t.serve q s.world).2.generation i = _
    by_cases own : q.1 = i
    · subst own
      rw [generation_serve, generation_answer]
      simp [bumps, World.view]
    · rw [generation_serve_of_ne t q s.world (Ne.symm own)]
      simp [bumps, own]
  | returned found => rfl

/-- The generation of a manager counts its bumps as far as the word goes. -/
theorem generation_run {ts : List (Transition ι)} (run : Service.Run (service m) s ts s') :
    s'.world.generation i =
      s.world.generation i + UInt64.ofNat (ts.countP fun t => bumps i t.event) := by
  induction run with
  | start => simp
  | snoc _ step ih =>
    rw [generation_step step, ih, List.countP_append, List.countP_singleton]
    split
    · rw [UInt64.ofNat_add, UInt64.add_assoc]
      rfl
    · rfl

end Steps

end Fleet
end SessionKit
