import SessionKit.Proofs.Conduct
import SessionKit.Proofs.Traffic

/-!
# Genuine entries

Whatever the storage says, a call puts a session into the cache only under its own digest, and only
after the storage has shown it or taken it. So all that the cache ever shows is of that kind.
-/

namespace SessionKit.Traffic

open Manager (Request Answer Order History)
open Discipline (history mem_history)

/-- The entries of a cache get there by fills only, and lookups show nothing else. -/
structure Caches {World Moment : Type} (v : Service Request Answer Order Order.Result World Moment)
    (entries : World → List (String × Cache.Entry)) : Prop where
  filled : ∀ t r w e, e ∈ entries (v.serve t r w).2 →
    e ∈ entries w ∨ ∃ n, r = .fill n e.1 e.2.session
  shown : ∀ t k w x, (v.serve t (.lookUp k) w).1 = .ok (some x) →
    ∃ e ∈ entries w, e.1 = k ∧ e.2.session = x

section Any

variable {World Moment : Type} {v : Service Request Answer Order Order.Result World Moment}
  {entries : World → List (String × Cache.Entry)} {m : Manager}
  {s s' : Service.State Request Answer Order Order.Result World}
  {ts us : List (Service.Transition Request Answer Order Order.Result World Moment)}
  {t : Service.Transition Request Answer Order Order.Result World Moment} {c : Nat}

/-- Some call was shown a session by the storage under a digest, or has put it there. -/
def Vouched (tokenHash : String) (x : Session)
    (ts : List (Service.Transition Request Answer Order Order.Result World Moment)) : Prop :=
  ∃ c, History.Told (history c ts) (.store (.byHash tokenHash)) (.ok x) ∨
    History.Told (history c ts) (.store (.create x)) (.ok ())

theorem told_mono {r : Request} {x : Answer r} (told : History.Told (history c ts) r x)
    (sub : ts ⊆ us) : History.Told (history c us) r x := by
  obtain ⟨t, ht, asked⟩ := mem_history.mp told
  exact mem_history.mpr ⟨t, sub ht, asked⟩

theorem Vouched.mono {tokenHash : String} {x : Session} (h : Vouched tokenHash x ts)
    (sub : ts ⊆ us) : Vouched tokenHash x us := by
  obtain ⟨c, shown | taken⟩ := h
  · exact ⟨c, .inl (told_mono shown sub)⟩
  · exact ⟨c, .inr (told_mono taken sub)⟩

/-- Every entry is under the digest of its session, and the storage vouches for it. -/
theorem genuine_of_entry (caches : Caches v entries) (programs : ∀ o, v.program o = o.program m)
    (run : Service.Run v s ts s') (idle : s.Idle) (numbered : s.Numbered)
    (empty : entries s.world = []) {e : String × Cache.Entry} (mem : e ∈ entries s'.world) :
    e.2.session.tokenHash = e.1 ∧ Vouched e.1 e.2.session ts := by
  induction run with
  | start => simp [empty] at mem
  | @snoc ts a b kind run step ih =>
    have sub : ts ⊆ ts ++ [⟨a, kind, b⟩] := List.subset_append_left _ _
    -- The entry was there before, or the step has filled it in.
    have old (before : e ∈ entries a.world) :
        e.2.session.tokenHash = e.1 ∧ Vouched e.1 e.2.session (ts ++ [⟨a, kind, b⟩]) := by
      obtain ⟨hash, vouched⟩ := ih before
      exact ⟨hash, vouched.mono sub⟩
    cases step with
    | begun o => exact old mem
    | returned found => exact old mem
    | @asked c moment o r k found =>
      rcases caches.filled moment r a.world e mem with before | ⟨n, rfl⟩
      · exact old before
      · have whole := run.snoc (.asked (t := moment) found)
        obtain ⟨o', -, -, hash, shown⟩ :=
          Manager.grounded_of_asked whole idle numbered programs rfl
        exact ⟨hash, Vouched.mono ⟨c, shown⟩ sub⟩

/-- A lookup in the cache shows only what belongs there. -/
theorem genuine_of_lookUp (caches : Caches v entries) (programs : ∀ o, v.program o = o.program m)
    (run : Service.Run v s ts s') (idle : s.Idle) (numbered : s.Numbered)
    (empty : entries s.world = []) {moment : Moment} {tokenHash : String} {x : Session}
    (h : t ∈ ts) (asked : t.event = .asked c moment (.lookUp tokenHash) (.ok (some x))) :
    x.tokenHash = tokenHash ∧ Vouched tokenHash x ts := by
  obtain ⟨a, b, rfl⟩ := List.append_of_mem h
  obtain ⟨before, step, _⟩ := run.mid
  rw [asked] at step
  obtain ⟨e, mem, rfl, rfl⟩ := caches.shown moment tokenHash _ x step.answer_eq.1.symm
  obtain ⟨hash, vouched⟩ := genuine_of_entry caches programs before idle numbered empty mem
  exact ⟨hash, vouched.mono (List.subset_append_left _ _)⟩

end Any

/-! ## The cache in memory -/

theorem mem_entries_serve {t : Moment} {w : World} {r : Request} {e : String × Cache.Entry}
    (h : e ∈ (t.serve r w).2.cache.entries) :
    e ∈ w.cache.entries ∨ ∃ n, r = .fill n e.1 e.2.session := by
  cases r with
  | store call =>
    rw [serve_store] at h
    rcases store_cases (t := t) (w := w) call with ⟨reason, failed⟩ | done
    · rw [failed] at h
      exact .inl h
    · rw [done] at h
      exact .inl h
  | lookUp k => exact .inl (Cache.Memory.mem_of_mem_get h)
  | fill n k x =>
    rw [serve_fill] at h
    split at h
    · rcases Cache.Memory.mem_of_mem_set h with ⟨mem, _⟩ | rfl
      · exact .inl mem
      · exact .inr ⟨n, rfl⟩
    · exact .inl h
  | invalidate k => exact .inl (Cache.Memory.mem_delete.mp h).1
  | invalidateAll => simp at h
  | _ => exact .inl h

theorem entry_of_lookUp {t : Moment} {w : World} {tokenHash : String} {x : Session}
    (h : (t.serve (.lookUp tokenHash) w).1 = .ok (some x)) :
    ∃ e ∈ w.cache.entries, e.1 = tokenHash ∧ e.2.session = x := by
  obtain ⟨y, mem, session⟩ := Cache.Memory.mem_of_get_ok h
  exact ⟨_, mem, rfl, session⟩

theorem caches (m : Manager) : Caches (service m) fun w => w.cache.entries where
  filled _ _ _ _ := mem_entries_serve
  shown _ _ _ _ := entry_of_lookUp

end SessionKit.Traffic
