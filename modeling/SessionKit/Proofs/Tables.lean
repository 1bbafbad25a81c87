import SessionKit.Session.Cache
import SessionKit.Session.Storage
import Mathlib.Data.List.Nodup

/-!
# Storage and cache in memory

What each call does to the sessions of a storage and to the entries of a cache.
-/

namespace SessionKit

/-- Where no two have the same key, one key is that of one. -/
theorem length_filter_key_ne {α : Type} {key : α → String} {l : List α} {a : α}
    (nodup : (l.map key).Nodup) (mem : a ∈ l) :
    (l.filter fun b => key b ≠ key a).length + 1 = l.length := by
  have one : l.countP (fun b => key b = key a) = 1 := by
    have once := List.count_eq_one_of_mem nodup (List.mem_map_of_mem mem)
    rw [List.count, List.countP_map] at once
    exact once
  have parts := List.length_eq_countP_add_countP (fun b => decide (key b = key a)) (l := l)
  simp only [decide_eq_true_eq, one] at parts
  rw [← List.countP_eq_length_filter, parts]
  exact Nat.add_comm _ _

/-! ## Storage -/

namespace Storage

/-- The call put this session into the storage. -/
def Call.Stores (s : Session) : (c : Call) → Answer c → Prop
  | .create t, .ok () => t = s
  | _, _ => False

/-- The call took something out of the storage. -/
def Call.Removes : (c : Call) → Answer c → Prop
  | .deleteByHash _, .ok () => True
  | .deleteById _, .ok () => True
  | .deleteOfUser _, .ok n => 0 < n
  | .deleteExpired, .ok n => 0 < n
  | _, _ => False

/-- The answer says that at least so many sessions were taken out, all of them such that a test
picks them. -/
def Call.Takes (picks : Session → Bool) (n : Nat) : (c : Call) → Answer c → Prop
  | .deleteByHash k, .ok () => n ≤ 1 ∧ ∀ s, s.tokenHash = k → picks s
  | .deleteOfUser u, .ok removed => n ≤ removed ∧ ∀ s, s.userId = u → picks s
  | .deleteExpired, .ok removed => n ≤ removed ∧ ∀ s, picks s
  | _, _ => False

namespace Memory

variable {m : Memory} {s : Session} {tokenHash : String} {now : Timestamp} {c : Call}

/-- There is a session under a digest. -/
def Holds (m : Memory) (tokenHash : String) : Prop := ∃ s ∈ m.sessions, s.tokenHash = tokenHash

instance : Decidable (m.Holds tokenHash) :=
  inferInstanceAs (Decidable (∃ s ∈ m.sessions, s.tokenHash = tokenHash))

theorem mem_of_byHash? (h : m.byHash? tokenHash = some s) :
    s ∈ m.sessions ∧ s.tokenHash = tokenHash := by
  have hash := List.find?_some h
  exact ⟨List.mem_of_find?_eq_some h, of_decide_eq_true hash⟩

theorem byHash?_eq_none : m.byHash? tokenHash = none ↔ ¬ m.Holds tokenHash := by
  simp [byHash?, Holds, List.find?_eq_none]

@[simp] theorem mem_without {picks : Session → Bool} :
    s ∈ (m.without picks).sessions ↔ s ∈ m.sessions ∧ ¬ picks s := by
  simp [without]

theorem mem_deleteByHash :
    s ∈ (m.deleteByHash tokenHash).state.sessions ↔ s ∈ m.sessions ∧ s.tokenHash ≠ tokenHash := by
  unfold deleteByHash
  cases hf : m.byHash? tokenHash with
  | some t => simp
  | none =>
    have absent := byHash?_eq_none.mp hf
    exact ⟨fun h => ⟨h, fun hash => absent ⟨s, h, hash⟩⟩, And.left⟩

theorem mem_create {t : Session} :
    s ∈ (m.create t).state.sessions ↔
      s ∈ m.sessions ∨ s = t ∧ (m.create t).answer = .ok () := by
  unfold create
  cases m.byHash? t.tokenHash <;> simp

/-- The call does not delete a session, if a lookup under its digest finds this session. -/
def Spares (m : Memory) (now : Timestamp) (s : Session) : Call → Prop
  | .deleteByHash k => k ≠ s.tokenHash
  | .deleteById id => ∀ t, m.byId? id = some t → t.tokenHash ≠ s.tokenHash
  | .deleteOfUser u => s.userId ≠ u
  | .deleteExpired => ¬ s.expiresAt ≤ now
  | _ => True

theorem call_create (t : Session) : m.call now (.create t) = m.create t := rfl

theorem call_deleteByHash (k : String) : m.call now (.deleteByHash k) = m.deleteByHash k := rfl

/-- What is there after a call was put there by it, or was there before and was spared. -/
theorem mem_call : s ∈ (m.call now c).state.sessions ↔
    c.Stores s (m.call now c).answer ∨ s ∈ m.sessions ∧ m.Spares now s c := by
  cases c with
  | create t =>
    rw [call_create, mem_create]
    cases answer : (m.create t).answer with
    | ok _ => simp [Call.Stores, Spares, or_comm, eq_comm]
    | error cause => simp [Call.Stores, Spares]
  | byHash _ => simp [call, Call.Stores, Spares]
  | byId _ => simp [call, Call.Stores, Spares]
  | ofUser _ => simp [call, Call.Stores, Spares]
  | deleteByHash k =>
    rw [call_deleteByHash, mem_deleteByHash]
    simp [Call.Stores, Spares, eq_comm]
  | deleteById id =>
    cases found : m.byId? id with
    | none => simp [call, found, Call.Stores, Spares]
    | some t => simp [call, found, Call.Stores, Spares, eq_comm]
  | deleteOfUser u => simp [call, deleteAll, Call.Stores, Spares]
  | deleteExpired => simp [call, deleteAll, Call.Stores, Spares, Session.isExpiredAt]

/-- A session gets into a storage only by its creation. -/
theorem mem_of_mem_call (h : s ∈ (m.call now c).state.sessions) :
    s ∈ m.sessions ∨ c.Stores s (m.call now c).answer := by
  rcases mem_call.mp h with stores | ⟨mem, _⟩
  · exact .inr stores
  · exact .inl mem

/-- A session gets out of a storage only by a call that says so. -/
theorem mem_call_of_mem (h : s ∈ m.sessions) :
    s ∈ (m.call now c).state.sessions ∨ c.Removes (m.call now c).answer := by
  -- A deletion of many says how many it has deleted.
  have counted : ∀ picks : Session → Bool,
      s ∈ (m.without picks).sessions ∨ 0 < m.sessions.countP picks := by
    intro picks
    by_cases hp : picks s
    · exact .inr (List.countP_pos_iff.mpr ⟨s, h, hp⟩)
    · exact .inl (mem_without.mpr ⟨h, hp⟩)
  cases c with
  | create t => exact .inl (mem_create.mpr (.inl h))
  | byHash _ => exact .inl h
  | byId _ => exact .inl h
  | ofUser _ => exact .inl h
  | deleteByHash k =>
    simp only [call, deleteByHash]
    cases m.byHash? k with
    | none => exact .inl h
    | some t => exact .inr trivial
  | deleteById id =>
    simp only [call]
    cases m.byId? id with
    | none => exact .inl h
    | some t => exact .inr trivial
  | deleteOfUser u => exact counted _
  | deleteExpired => exact counted _

theorem not_holds_deleteByHash : ¬ (m.call now (.deleteByHash tokenHash)).state.Holds tokenHash :=
  fun ⟨_, mem, hash⟩ => (mem_deleteByHash.mp mem).2 hash

theorem deleteByHash_cases (m : Memory) (now : Timestamp) (tokenHash : String) :
    (m.call now (.deleteByHash tokenHash)).answer = .ok () ∨
      (m.call now (.deleteByHash tokenHash)).answer = .error .notFound ∧ ¬ m.Holds tokenHash := by
  simp only [call, deleteByHash]
  cases found : m.byHash? tokenHash with
  | some s => exact .inl rfl
  | none => exact .inr ⟨rfl, byHash?_eq_none.mp found⟩

theorem userId_ne_of_mem_deleteOfUser (now : Timestamp) {userId : String}
    (h : s ∈ (m.call now (.deleteOfUser userId)).state.sessions) : s.userId ≠ userId := by
  simpa using (mem_without.mp h).2

theorem byHash?_of_ok (now : Timestamp)
    (h : (m.call now (.byHash tokenHash)).answer = .ok s) : m.byHash? tokenHash = some s := by
  simp only [call] at h
  cases hf : m.byHash? tokenHash with
  | none => simp [hf] at h
  | some t => simpa [hf] using h

theorem byHash_of_some (now : Timestamp) (h : m.byHash? tokenHash = some s) :
    (m.call now (.byHash tokenHash)).answer = .ok s := by
  simp only [call, h]

theorem mem_of_byHash_ok (now : Timestamp)
    (h : (m.call now (.byHash tokenHash)).answer = .ok s) :
    s ∈ m.sessions ∧ s.tokenHash = tokenHash := mem_of_byHash? (byHash?_of_ok now h)

theorem mem_of_create_ok (h : (m.call now (.create s)).answer = .ok ()) :
    s ∈ (m.call now (.create s)).state.sessions :=
  mem_create.mpr (.inr ⟨rfl, h⟩)

/-! ### Lookups by digest -/

theorem byHash?_without_of_ne {k : String} (other : tokenHash ≠ k) :
    (m.without fun s => s.tokenHash = k).byHash? tokenHash = m.byHash? tokenHash := by
  unfold byHash? without
  rw [List.find?_filter]
  congr 1
  funext s
  by_cases hash : s.tokenHash = tokenHash
  · simp [hash, other]
  · simp [hash]

theorem byHash?_deleteByHash_of_ne {k : String} (other : tokenHash ≠ k) :
    (m.deleteByHash k).state.byHash? tokenHash = m.byHash? tokenHash := by
  unfold deleteByHash
  cases m.byHash? k with
  | some t => exact byHash?_without_of_ne other
  | none => rfl

/-- A creation hides nothing. -/
theorem byHash?_create_of_some {t : Session} (h : m.byHash? tokenHash = some t) :
    (m.create s).state.byHash? tokenHash = some t := by
  unfold create
  cases m.byHash? s.tokenHash with
  | some _ => exact h
  | none =>
    show (m.sessions ++ [s]).find? _ = some t
    rw [List.find?_append, show m.sessions.find? _ = some t from h]
    rfl

theorem byHash?_create_of_ok (h : (m.create s).answer = .ok ()) :
    (m.create s).state.byHash? s.tokenHash = some s := by
  unfold create at h ⊢
  cases absent : m.byHash? s.tokenHash with
  | some _ =>
    rw [absent] at h
    cases h
  | none =>
    show (m.sessions ++ [s]).find? _ = some s
    rw [List.find?_append, show m.sessions.find? _ = none from absent]
    simp

theorem create_of_error {cause : Error} (h : (m.create s).answer = .error cause) :
    (m.create s).state = m := by
  unfold create at h ⊢
  cases found : m.byHash? s.tokenHash with
  | some _ => rfl
  | none => simp [found] at h

/-- A creation fails only if there is a session under its digest. -/
theorem holds_of_create_error {cause : Error} (h : (m.create s).answer = .error cause) :
    m.Holds s.tokenHash := by
  unfold create at h
  cases found : m.byHash? s.tokenHash with
  | some t => exact ⟨t, mem_of_byHash? found⟩
  | none => simp [found] at h

theorem sessions_create_of_ok (h : (m.create s).answer = .ok ()) :
    ¬ m.Holds s.tokenHash ∧ (m.create s).state.sessions = m.sessions ++ [s] := by
  unfold create at h ⊢
  cases found : m.byHash? s.tokenHash with
  | none => exact ⟨byHash?_eq_none.mp found, rfl⟩
  | some _ => simp [found] at h

/-- A session is put into the storage only if its digest is free. -/
theorem not_holds_of_stores (stores : c.Stores s (m.call now c).answer) :
    ¬ m.Holds s.tokenHash := by
  cases c with
  | create t =>
    cases answer : (m.create t).answer with
    | ok _ =>
      rw [call_create, answer] at stores
      exact stores ▸ (sessions_create_of_ok answer).1
    | error cause =>
      rw [call_create, answer] at stores
      exact absurd stores id
  | _ => exact absurd stores id

/-- A session that comes under a free digest is what is found there, and hides nothing else. -/
theorem byHash?_of_added {n : Memory} (added : n.sessions = m.sessions ++ [s])
    (free : ¬ m.Holds s.tokenHash) :
    n.byHash? tokenHash = if tokenHash = s.tokenHash then some s else m.byHash? tokenHash := by
  unfold byHash?
  rw [added, List.find?_append]
  split
  next own =>
    have none : m.sessions.find? (fun t => t.tokenHash = tokenHash) = none :=
      own ▸ byHash?_eq_none.mpr free
    rw [none]
    simp [own]
  next other => simp [Ne.symm other]

/-- A deletion by identifier deletes under the digest of the session that a lookup shows. -/
theorem deleteById_of_ok {id : String} (h : (m.call now (.byId id)).answer = .ok s) :
    (m.call now (.deleteById id)).state = m.without fun t => t.tokenHash = s.tokenHash := by
  simp only [call] at h ⊢
  cases hf : m.byId? id with
  | none => simp [hf] at h
  | some t =>
    simp only [hf, Except.ok.injEq] at h
    rw [h]

theorem deleteById_of_error {id : String} {cause : Error}
    (h : (m.call now (.byId id)).answer = .error cause) :
    (m.call now (.deleteById id)).state = m := by
  simp only [call] at h ⊢
  cases hf : m.byId? id with
  | none => rfl
  | some t => simp [hf] at h

theorem byHash?_without_of_not {picks : Session → Bool} (h : m.byHash? tokenHash = some s)
    (kept : ¬ picks s) : (m.without picks).byHash? tokenHash = some s := by
  -- What is in front of the session does not have the digest, whether it is picked or not.
  obtain ⟨hash, before, after, split, others⟩ := List.find?_eq_some_iff_append.mp h
  unfold byHash? without
  rw [split, List.filter_append, List.filter_cons_of_pos (by simpa using kept)]
  refine List.find?_eq_some_iff_append.mpr ⟨hash, _, _, rfl, fun t mem => ?_⟩
  exact others t (List.mem_filter.mp mem).1

/-- A digest under which nothing is picked is not affected. -/
theorem byHash?_without_of_spared {picks : Session → Bool}
    (spared : ∀ s ∈ m.sessions, s.tokenHash = tokenHash → ¬ picks s) :
    (m.without picks).byHash? tokenHash = m.byHash? tokenHash := by
  cases found : m.byHash? tokenHash with
  | some s =>
    obtain ⟨mem, hash⟩ := mem_of_byHash? found
    exact byHash?_without_of_not found (spared s mem hash)
  | none =>
    refine byHash?_eq_none.mpr ?_
    rintro ⟨s, mem, hash⟩
    exact byHash?_eq_none.mp found ⟨s, (mem_without.mp mem).1, hash⟩

theorem byHash?_call_of_spares (h : m.byHash? tokenHash = some s) (spares : m.Spares now s c) :
    (m.call now c).state.byHash? tokenHash = some s := by
  obtain ⟨-, hash⟩ := mem_of_byHash? h
  cases c with
  | create t => exact byHash?_create_of_some h
  | byHash _ => exact h
  | byId _ => exact h
  | ofUser _ => exact h
  | deleteByHash k =>
    have other : tokenHash ≠ k := fun same => spares (same.symm.trans hash.symm)
    exact (byHash?_deleteByHash_of_ne other).trans h
  | deleteById id =>
    simp only [call]
    cases found : m.byId? id with
    | none => exact h
    | some t =>
      refine byHash?_without_of_not h fun same => ?_
      exact spares t found (of_decide_eq_true same).symm
  | deleteOfUser u =>
    exact byHash?_without_of_not h fun same => spares (of_decide_eq_true same)
  | deleteExpired =>
    exact byHash?_without_of_not h fun same => spares (of_decide_eq_true same)

theorem without_eq_self {picks : Session → Bool} (h : m.sessions.countP picks = 0) :
    m.without picks = m := by
  have none := List.countP_eq_zero.mp h
  unfold without
  congr 1
  exact List.filter_eq_self.mpr fun s mem => by simpa using none s mem

/-! ### Counting -/

/-- A deletion takes what its test picks. -/
theorem countP_without (p picks : Session → Bool) :
    (m.without picks).sessions.countP p + (m.sessions.filter picks).countP p =
      m.sessions.countP p := by
  have parts := List.countP_eq_countP_filter_add m.sessions p picks
  rw [parts, Nat.add_comm]
  rfl

theorem length_without (picks : Session → Bool) :
    (m.without picks).sessions.length + m.sessions.countP picks = m.sessions.length := by
  have all := countP_without (m := m) (fun _ => true) picks
  rw [List.countP_true] at all
  rwa [List.countP_eq_length_filter]

theorem countP_create_le (p : Session → Bool) {t : Session} :
    (m.create t).state.sessions.countP p ≤ m.sessions.countP p +
      if (m.create t).answer = .ok () ∧ p t then 1 else 0 := by
  unfold create
  cases m.byHash? t.tokenHash with
  | some _ => simp
  | none => simp [List.countP_append]

/-- Only a creation adds sessions. -/
theorem countP_call_le (p : Session → Bool) (h : ∀ t, c ≠ .create t) :
    (m.call now c).state.sessions.countP p ≤ m.sessions.countP p := by
  have fewer (picks : Session → Bool) : (m.without picks).sessions.countP p ≤
      m.sessions.countP p := by
    have all := countP_without (m := m) p picks
    omega
  cases c with
  | create t => exact absurd rfl (h t)
  | byHash _ => exact Nat.le_refl _
  | byId _ => exact Nat.le_refl _
  | ofUser _ => exact Nat.le_refl _
  | deleteByHash k =>
    simp only [call, deleteByHash]
    cases m.byHash? k with
    | none => exact Nat.le_refl _
    | some t => exact fewer _
  | deleteById id =>
    simp only [call]
    cases m.byId? id with
    | none => exact Nat.le_refl _
    | some t => exact fewer _
  | deleteOfUser u => exact fewer _
  | deleteExpired => exact fewer _

/-- What a deletion says that it has taken is gone. -/
theorem countP_add_le_of_takes {p : Session → Bool} {n : Nat}
    (takes : c.Takes p n (m.call now c).answer) :
    (m.call now c).state.sessions.countP p + n ≤ m.sessions.countP p := by
  -- A deletion of many says how many sessions its test picks, and they are all counted.
  have many (picks : Session → Bool) (enough : n ≤ m.sessions.countP picks)
      (counted : ∀ s, picks s → p s) :
      (m.without picks).sessions.countP p + n ≤ m.sessions.countP p := by
    have all := countP_without (m := m) p picks
    have picked : (m.sessions.filter picks).countP p = m.sessions.countP picks := by
      rw [List.countP_eq_length_filter (p := picks), List.countP_eq_length]
      intro s mem
      exact counted s (List.mem_filter.mp mem).2
    omega
  cases c with
  | deleteByHash k =>
    simp only [call, deleteByHash] at takes ⊢
    cases found : m.byHash? k with
    | none =>
      rw [found] at takes
      exact absurd takes id
    | some t =>
      rw [found] at takes
      obtain ⟨mem, hash⟩ := mem_of_byHash? found
      refine many _ ?_ fun s same => takes.2 s (of_decide_eq_true same)
      have some : 0 < m.sessions.countP fun s => decide (s.tokenHash = k) :=
        List.countP_pos_iff.mpr ⟨t, mem, decide_eq_true hash⟩
      exact Nat.le_trans takes.1 some
  | deleteOfUser u => exact many _ takes.1 fun s same => takes.2 s (of_decide_eq_true same)
  | deleteExpired => exact many _ takes.1 fun s _ => takes.2 s
  | _ => exact absurd takes id

/-! ### One session for each digest -/

/-- No two sessions are stored under the same digest. -/
def Keyed (m : Memory) : Prop := (m.sessions.map (·.tokenHash)).Nodup

namespace Keyed

theorem of_fewer {n : Memory} (keyed : m.Keyed) (fewer : n.sessions.Sublist m.sessions) :
    n.Keyed :=
  keyed.sublist (fewer.map _)

theorem eq_of_byHash? {t : Session} (keyed : m.Keyed) (found : m.byHash? tokenHash = some s)
    (mem : t ∈ m.sessions) (hash : t.tokenHash = tokenHash) : t = s := by
  obtain ⟨mem', hash'⟩ := mem_of_byHash? found
  exact List.inj_on_of_nodup_map keyed mem mem' (hash.trans hash'.symm)

theorem create (keyed : m.Keyed) (s : Session) : (m.create s).state.Keyed := by
  cases answer : (m.create s).answer with
  | ok _ =>
    obtain ⟨free, added⟩ := sessions_create_of_ok answer
    unfold Keyed
    rw [added, List.map_append]
    refine List.nodup_append'.mpr ⟨keyed, List.nodup_singleton _, ?_⟩
    rw [List.map_singleton, List.disjoint_singleton]
    intro taken
    obtain ⟨t, held, hash⟩ := List.mem_map.mp taken
    exact free ⟨t, held, hash⟩
  | error _ => rwa [create_of_error answer]

theorem call (keyed : m.Keyed) (now : Timestamp) (c : Call) : (m.call now c).state.Keyed := by
  have fewer (picks : Session → Bool) : (m.without picks).Keyed :=
    keyed.of_fewer List.filter_sublist
  cases c with
  | create s => exact keyed.create s
  | byHash _ => exact keyed
  | byId _ => exact keyed
  | ofUser _ => exact keyed
  | deleteByHash k =>
    simp only [Memory.call, deleteByHash]
    cases m.byHash? k with
    | none => exact keyed
    | some _ => exact fewer _
  | deleteById id =>
    simp only [Memory.call]
    cases m.byId? id with
    | none => exact keyed
    | some _ => exact fewer _
  | deleteOfUser _ => exact fewer _
  | deleteExpired => exact fewer _

/-- A deletion under a digest takes one session. -/
theorem length_deleteByHash (keyed : m.Keyed) (found : m.byHash? tokenHash = some s) :
    (m.deleteByHash tokenHash).state.sessions.length + 1 = m.sessions.length := by
  obtain ⟨mem, rfl⟩ := mem_of_byHash? found
  have rest := length_filter_key_ne keyed mem
  simp only [deleteByHash, found, without, ← decide_not]
  exact rest

end Keyed

end Memory
end Storage

/-! ## Cache -/

namespace Cache.Memory

variable {m : Memory} {s : Session} {tokenHash : String} {now : Instant} {e : String × Entry}

/-- There is an entry under a digest, good or stale. -/
def Holds (m : Memory) (tokenHash : String) : Prop := ∃ e ∈ m.entries, e.1 = tokenHash

instance : Decidable (m.Holds tokenHash) :=
  inferInstanceAs (Decidable (∃ e ∈ m.entries, e.1 = tokenHash))

@[simp] theorem not_holds_new (settings : Settings) : ¬ (new settings).Holds tokenHash := by
  simp [Holds, new]

theorem mem_of_entry? {x : Entry} (h : m.entry? tokenHash = some x) :
    (tokenHash, x) ∈ m.entries := by
  obtain ⟨e, found, rfl⟩ := Option.map_eq_some_iff.mp h
  have key : e.1 = tokenHash := of_decide_eq_true (List.find?_some found :)
  exact key ▸ List.mem_of_find?_eq_some found

@[simp] theorem mem_withoutKey :
    e ∈ m.withoutKey tokenHash ↔ e ∈ m.entries ∧ e.1 ≠ tokenHash := by
  simp [withoutKey]

theorem key_ne_of_entry?_eq_none (h : m.entry? tokenHash = none) :
    ∀ e ∈ m.entries, e.1 ≠ tokenHash := by
  simpa [ entry?, List.find?_eq_none] using h

/-- A lookup finds nothing, finds what is stale and drops it, or finds what is good. -/
theorem get_cases (m : Memory) (now : Instant) (tokenHash : String) :
    (m.entry? tokenHash = none ∧ (m.get now tokenHash).answer = .ok none ∧
      (m.get now tokenHash).state.entries = m.entries) ∨
    ((m.get now tokenHash).answer = .ok none ∧
      (m.get now tokenHash).state.entries = m.withoutKey tokenHash) ∨
    ∃ x, m.entry? tokenHash = some x ∧ (m.get now tokenHash).answer = .ok (some x.session) ∧
      (m.get now tokenHash).state.entries = m.entries := by
  unfold get glance
  cases hf : m.entry? tokenHash with
  | none => exact .inl ⟨rfl, rfl, rfl⟩
  | some x =>
    by_cases stale : x.isStale m.settings.ttl now
    · have again : Memory.entry? { m with
          counters := { m.counters with misses := m.counters.misses + 1 } } tokenHash = some x := hf
      refine .inr (.inl ?_)
      simp [stale, dropStale, again]
      rfl
    · simp only [stale]
      exact .inr (.inr ⟨x, rfl, rfl, rfl⟩)

/-- A lookup adds no entries. -/
theorem mem_of_mem_get (h : e ∈ (m.get now tokenHash).state.entries) : e ∈ m.entries := by
  obtain ⟨_, _, same⟩ | ⟨_, fewer⟩ | ⟨_, _, _, same⟩ := m.get_cases now tokenHash
  · exact same ▸ h
  · rw [fewer] at h
    exact (mem_withoutKey.mp h).1
  · exact same ▸ h

theorem get_ok (m : Memory) (now : Instant) (tokenHash : String) :
    ∃ hit, (m.get now tokenHash).answer = .ok hit := by
  obtain ⟨_, answer, _⟩ | ⟨answer, _⟩ | ⟨_, _, answer, _⟩ := m.get_cases now tokenHash
  · exact ⟨_, answer⟩
  · exact ⟨_, answer⟩
  · exact ⟨_, answer⟩

theorem mem_of_get_ok (h : (m.get now tokenHash).answer = .ok (some s)) :
    ∃ x, (tokenHash, x) ∈ m.entries ∧ x.session = s := by
  obtain ⟨_, answer, _⟩ | ⟨answer, _⟩ | ⟨x, found, answer, _⟩ := m.get_cases now tokenHash
  · rw [answer] at h
    cases h
  · rw [answer] at h
    cases h
  · rw [answer] at h
    cases h
    exact ⟨x, mem_of_entry? found, rfl⟩

/-- A lookup that finds nothing good leaves nothing stale. -/
theorem not_holds_of_get_none (h : (m.get now tokenHash).answer = .ok none) :
    ¬ (m.get now tokenHash).state.Holds tokenHash := by
  rintro ⟨e, mem, key⟩
  obtain ⟨none, _, same⟩ | ⟨_, fewer⟩ | ⟨_, _, answer, _⟩ := m.get_cases now tokenHash
  · exact key_ne_of_entry?_eq_none none e (same ▸ mem) key
  · rw [fewer] at mem
    exact (mem_withoutKey.mp mem).2 key
  · rw [answer] at h
    cases h

theorem mem_of_mem_makeRoom {victim : Nat} (h : e ∈ (m.makeRoom victim tokenHash).1.entries) :
    e ∈ m.entries := by
  unfold makeRoom at h
  split at h
  · exact List.mem_of_mem_eraseIdx h
  · exact h

/-- An insertion adds its own entry only, and replaces the one under the same digest. -/
theorem mem_of_mem_set {victim : Nat} (h : e ∈ (m.set now victim tokenHash s).state.entries) :
    e ∈ m.entries ∧ e.1 ≠ tokenHash ∨ e = (tokenHash, { session := s, insertedAt := now }) := by
  rcases List.mem_append.mp h with h | h
  · obtain ⟨mem, key⟩ := mem_withoutKey.mp h
    exact .inl ⟨mem_of_mem_makeRoom mem, key⟩
  · exact .inr (List.mem_singleton.mp h)

theorem delete_ok (m : Memory) (tokenHash : String) : (m.delete tokenHash).answer = .ok () := by
  unfold delete
  cases m.entry? tokenHash with
  | some x => rfl
  | none => rfl

@[simp] theorem mem_delete :
    e ∈ (m.delete tokenHash).state.entries ↔ e ∈ m.entries ∧ e.1 ≠ tokenHash := by
  unfold delete
  cases hf : m.entry? tokenHash with
  | some x => simp
  | none => exact ⟨fun h => ⟨h, key_ne_of_entry?_eq_none hf e h⟩, And.left⟩

@[simp] theorem entries_clear : m.clear.state.entries = [] := rfl

end Cache.Memory
end SessionKit
