import SessionKit.Proofs.Interleaving
import SessionKit.Proofs.Listing
import Mathlib.Algebra.Ring.Nat

/-!
# The chronicle of a storage

What a storage in memory holds is known from the calls that were made on it: the sessions that were
created and that no later call has deleted. The order in which a call goes through the table is open
and may be another one at each call, so that which of several sessions of one identifier is deleted
is known from the call only.
-/

namespace SessionKit.Storage

variable {x : Session} {m n : Memory} {now : Timestamp} {c : Call} {id : String}

/-- How many sessions the call has added, by its answer. -/
def Call.added : (c : Call) → Answer c → Nat
  | .create _, .ok () => 1
  | _, _ => 0

/-- How many sessions the call has deleted, by its answer. -/
def Call.deleted : (c : Call) → Answer c → Nat
  | .deleteByHash _, .ok () => 1
  | .deleteById _, .ok () => 1
  | .deleteOfUser _, .ok count => count
  | .deleteExpired, .ok count => count
  | _, _ => 0

/-! ## One call -/

namespace Memory

/-- There is a session with an identifier. -/
def Has (m : Memory) (id : String) : Prop := ∃ s ∈ m.sessions, s.id = id

theorem mem_of_byId? (found : m.byId? id = some x) : x ∈ m.sessions ∧ x.id = id :=
  ⟨List.mem_of_find?_eq_some found, of_decide_eq_true (List.find?_some found :)⟩

theorem byId?_eq_none : m.byId? id = none ↔ ¬ m.Has id := by
  simp [byId?, Has, List.find?_eq_none]

namespace Keyed

/-- A lookup under a digest shows the session that has it. -/
theorem byHash_eq_ok (keyed : m.Keyed) {k : String} :
    (m.call now (.byHash k)).answer = .ok x ↔ x ∈ m.sessions ∧ x.tokenHash = k := by
  constructor
  · exact mem_of_byHash_ok now
  · rintro ⟨mem, rfl⟩
    exact byHash_of_some now (keyed.byHash?_of_mem mem)

/-- What a deletion under the digest of a session takes is this session. -/
theorem perm_without (keyed : m.Keyed) (mem : x ∈ m.sessions) :
    m.sessions.Perm (x :: (m.without fun s => s.tokenHash = x.tokenHash).sessions) := by
  have once : m.sessions.Nodup := List.Nodup.of_map _ keyed
  have others : m.sessions.erase x = (m.without fun s => s.tokenHash = x.tokenHash).sessions := by
    rw [once.erase_eq_filter]
    refine List.filter_congr fun s held => ?_
    have same : s = x ↔ s.tokenHash = x.tokenHash :=
      ⟨congrArg _, List.inj_on_of_nodup_map keyed held mem⟩
    simp [bne, same, beq_eq_decide]
  exact others ▸ List.perm_cons_erase mem

theorem length_call (keyed : m.Keyed) (now : Timestamp) (c : Call) :
    (m.call now c).state.sessions.length + c.deleted (m.call now c).answer =
      m.sessions.length + c.added (m.call now c).answer := by
  cases c with
  | create s =>
    rw [call_create]
    cases answer : (m.create s).answer with
    | ok _ => simp [(sessions_create_of_ok answer).2, Call.added, Call.deleted]
    | error cause => simp [create_of_error answer, Call.added, Call.deleted]
  | byHash _ => rfl
  | byId _ => rfl
  | ofUser _ => rfl
  | deleteByHash k =>
    rw [call_deleteByHash]
    cases found : m.byHash? k with
    | none => simp [Memory.deleteByHash, found, Call.added, Call.deleted]
    | some s =>
      have answer : (m.deleteByHash k).answer = .ok () := by
        rw [Memory.deleteByHash, found]
      rw [answer]
      exact keyed.length_deleteByHash found
  | deleteById id =>
    cases found : m.byId? id with
    | none => simp [Memory.call, found, Call.added, Call.deleted]
    | some s =>
      have taken := (keyed.perm_without (mem_of_byId? found).1).length_eq
      simp only [Memory.call, found, Call.added, Call.deleted]
      exact taken.symm
  | deleteOfUser u => exact length_without _
  | deleteExpired => exact length_without _

end Keyed

end Memory

/-! ## Calls one after the other -/

/-- A call that is made at some time. It goes through the table in the order that it finds. -/
structure Visit where
  found : Memory
  now : Timestamp
  call : Call

namespace Visit

def answer (v : Visit) : Answer v.call := (v.found.call v.now v.call).answer

def after (v : Visit) : Memory := (v.found.call v.now v.call).state

end Visit

/-- The calls that were made on a storage since it was empty, and what is there after them. -/
inductive Chronicle : List Visit → Memory → Prop
  | empty : Chronicle [] {}
  | visit {visits : List Visit} {m : Memory} {v : Visit} (before : Chronicle visits m)
    (order : v.found.sessions.Perm m.sessions) : Chronicle (visits ++ [v]) v.after

/-- The last creation under the digest of a session that succeeded was that of the session, and no
call has deleted the session since. -/
def Current (x : Session) (visits : List Visit) : Prop :=
  Since (fun _ v => v.call.Stores x v.answer)
    (fun v => (∀ y, v.call.Stores y v.answer → y.tokenHash ≠ x.tokenHash) ∧
      v.found.Spares v.now x v.call) visits

/-- How many creations have succeeded. -/
def added (visits : List Visit) : Nat := (visits.map fun v => v.call.added v.answer).sum

/-- How many sessions were deleted, one by one or many at once. -/
def deleted (visits : List Visit) : Nat := (visits.map fun v => v.call.deleted v.answer).sum

theorem added_snoc (visits : List Visit) (v : Visit) :
    added (visits ++ [v]) = added visits + v.call.added v.answer := by
  simp [added]

theorem deleted_snoc (visits : List Visit) (v : Visit) :
    deleted (visits ++ [v]) = deleted visits + v.call.deleted v.answer := by
  simp [deleted]

/-- The table is what the calls say that it is. -/
structure Recorded (visits : List Visit) (m : Memory) : Prop where
  keyed : m.Keyed
  stored (x : Session) : x ∈ m.sessions ↔ Current x visits
  length : m.sessions.length + deleted visits = added visits

namespace Recorded

variable {visits : List Visit} {v : Visit}

theorem empty : Recorded [] {} where
  keyed := List.nodup_nil
  stored _ := ⟨nofun, fun current => absurd current not_since_nil⟩
  length := rfl

theorem perm (recorded : Recorded visits m) (order : n.sessions.Perm m.sessions) :
    Recorded visits n where
  keyed := (order.map _).nodup_iff.mpr recorded.keyed
  stored x := order.mem_iff.trans (recorded.stored x)
  length := order.length_eq ▸ recorded.length

theorem visit (recorded : Recorded visits v.found) : Recorded (visits ++ [v]) v.after where
  keyed := recorded.keyed.call _ _
  stored x := by
    -- A creation that succeeds has found no session under its digest.
    have other (held : x ∈ v.found.sessions) (y : Session) (stores : v.call.Stores y v.answer) :
        y.tokenHash ≠ x.tokenHash := fun same =>
      Memory.not_holds_of_stores stores ⟨x, held, same.symm⟩
    rw [Visit.after, Memory.mem_call, Current, since_snoc, recorded.stored]
    refine or_congr Iff.rfl (and_congr_right fun current => ?_)
    exact (and_iff_right (other ((recorded.stored x).mpr current))).symm
  length := by
    have step := recorded.keyed.length_call v.now v.call
    have before := recorded.length
    rw [added_snoc, deleted_snoc]
    simp only [Visit.after, Visit.answer]
    omega

end Recorded

theorem recorded_of_chronicle {visits : List Visit} (chronicle : Chronicle visits m) :
    Recorded visits m := by
  induction chronicle with
  | empty => exact .empty
  | visit _ order recorded => exact (recorded.perm order).visit

/-! ## What is answered -/

/-- What is stored, and what a call is answered, is known from the calls that were made before. -/
structure Exact (visits : List Visit) (m : Memory) : Prop where
  stored (x : Session) : x ∈ m.sessions ↔ Current x visits
  length : m.sessions.length + deleted visits = added visits
  /-- Every session is stored under its own digest. -/
  own (now : Timestamp) : ∀ x ∈ m.sessions, (m.call now (.byHash x.tokenHash)).answer = .ok x
  byHash (now : Timestamp) (k : String) (x : Session) :
    (m.call now (.byHash k)).answer = .ok x ↔ x.tokenHash = k ∧ Current x visits
  byHash_none (now : Timestamp) (k : String) : (∀ x, x.tokenHash = k → ¬ Current x visits) →
    (m.call now (.byHash k)).answer = .error .notFound
  create (now : Timestamp) (x : Session) :
    (m.call now (.create x)).answer = .ok () ∧ ¬ m.Holds x.tokenHash ∨
      (∃ cause, (m.call now (.create x)).answer = .error cause) ∧ m.Holds x.tokenHash ∧
        (m.call now (.create x)).state = m
  byId (now : Timestamp) (id : String) :
    (∃ x ∈ m.sessions, x.id = id ∧ (m.call now (.byId id)).answer = .ok x) ∨
      (m.call now (.byId id)).answer = .error .notFound ∧ ¬ m.Has id
  deleteById (now : Timestamp) (id : String) :
    ((m.call now (.deleteById id)).answer = .ok () ∧ ∃ x ∈ m.sessions, x.id = id ∧
        m.sessions.Perm (x :: (m.call now (.deleteById id)).state.sessions)) ∨
      (m.call now (.deleteById id)).answer = .error .notFound ∧ ¬ m.Has id ∧
        (m.call now (.deleteById id)).state = m
  ofUser (now : Timestamp) (userId : String) :
    ∃ sessions, (m.call now (.ofUser userId)).answer = .ok sessions ∧
      sessions.Perm (m.sessions.filter fun s => s.userId = userId) ∧
      sessions.Pairwise fun s t => t.createdAt ≤ s.createdAt

theorem Recorded.exact {visits : List Visit} (recorded : Recorded visits m) : Exact visits m where
  stored := recorded.stored
  length := recorded.length
  own now x mem := recorded.keyed.byHash_eq_ok.mpr ⟨mem, rfl⟩
  byHash now k x := by
    rw [recorded.keyed.byHash_eq_ok, recorded.stored]
    exact and_comm
  byHash_none now k never := by
    have absent : m.byHash? k = none := by
      refine Memory.byHash?_eq_none.mpr ?_
      rintro ⟨x, mem, hash⟩
      exact never x hash ((recorded.stored x).mp mem)
    simp only [Memory.call, absent]
  create now x := by
    rw [Memory.call_create]
    cases answer : (m.create x).answer with
    | ok _ => exact .inl ⟨rfl, (Memory.sessions_create_of_ok answer).1⟩
    | error cause =>
      exact .inr ⟨⟨cause, rfl⟩, Memory.holds_of_create_error answer, Memory.create_of_error answer⟩
  byId now id := by
    cases found : m.byId? id with
    | none => exact .inr ⟨by simp only [Memory.call, found], Memory.byId?_eq_none.mp found⟩
    | some x =>
      obtain ⟨mem, own⟩ := Memory.mem_of_byId? found
      exact .inl ⟨x, mem, own, by simp only [Memory.call, found]⟩
  deleteById now id := by
    simp only [Memory.call]
    cases found : m.byId? id with
    | none => exact .inr ⟨rfl, Memory.byId?_eq_none.mp found, rfl⟩
    | some x =>
      obtain ⟨mem, own⟩ := Memory.mem_of_byId? found
      exact .inl ⟨rfl, x, mem, own, recorded.keyed.perm_without mem⟩
  ofUser now userId :=
    ⟨_, rfl, Session.newestFirst_perm _, Session.pairwise_newestFirst _⟩

/-- A storage in memory is known from the calls that were made on it. -/
theorem exact_of_chronicle {visits : List Visit} {m n : Memory} (chronicle : Chronicle visits m)
    (order : n.sessions.Perm m.sessions) : Exact visits n :=
  ((recorded_of_chronicle chronicle).perm order).exact

/-- A session of a user, with an identifier that others have too. -/
def twin (tokenHash : String) : Session where
  id := "a"
  userId := "u"
  tokenHash
  ipAddress := ""
  userAgent := ""
  createdAt := .epoch
  updatedAt := .epoch
  expiresAt := .epoch

/-- Of two sessions with one identifier, the one that was created last is deleted. -/
def twinVisits : List Visit :=
  [⟨{}, .epoch, .create (twin "h")⟩, ⟨⟨[twin "h"]⟩, .epoch, .create (twin "k")⟩,
    ⟨⟨[twin "k", twin "h"]⟩, .epoch, .deleteById "a"⟩]

theorem exact_of_chronicle_sample :
    Chronicle twinVisits ⟨[twin "h"]⟩ ∧ Exact twinVisits ⟨[twin "h"]⟩ ∧
      Current (twin "h") twinVisits ∧ ¬ Current (twin "k") twinVisits := by
  have first : Chronicle (twinVisits.take 1) ⟨[twin "h"]⟩ := .visit .empty (.refl _)
  have second : Chronicle (twinVisits.take 2) ⟨[twin "h", twin "k"]⟩ := .visit first (.refl _)
  have chronicle : Chronicle twinVisits ⟨[twin "h"]⟩ := .visit second (.swap _ _ _)
  have known : Exact twinVisits ⟨[twin "h"]⟩ := exact_of_chronicle chronicle (.refl _)
  refine ⟨chronicle, known, (known.stored _).mp (by decide), ?_⟩
  intro current
  exact absurd ((known.stored _).mpr current) (by decide)

end SessionKit.Storage
