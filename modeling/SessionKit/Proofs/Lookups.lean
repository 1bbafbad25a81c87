import SessionKit.Proofs.Capacity

/-!
# What a shared cache serves and drops

Whatever the calls to a cache and its clones are, and however their sections are mixed: a lookup
serves nothing but the last session that was put under its digest, and not for longer than the time
to live. And no entry goes that need not go. A lookup that drops what is stale looks again when it
has the lock, so it leaves alone what has come there since.
-/

namespace SessionKit.Cache

namespace Memory

variable {m : Memory} {now : Instant} {k : String} {e : String × Entry} {x : Entry} {s : Session}

theorem entries_glance (m : Memory) (now : Instant) (k : String) :
    (m.glance now k).2.entries = m.entries := by
  obtain ⟨_, _, _, same⟩ | ⟨_, same⟩ := m.glance_cases now k
  · rw [same]
  · rw [same]

theorem found_of_glance (h : (m.glance now k).1 = .found s) :
    ∃ x, m.entry? k = some x ∧ ¬ x.isStale m.settings.ttl now ∧ x.session = s := by
  obtain ⟨x, found, good, same⟩ | ⟨missing | stale, _⟩ := m.glance_cases now k
  · rw [same] at h
    cases h
    exact ⟨x, found, good, rfl⟩
  · rw [missing] at h
    cases h
  · rw [stale] at h
    cases h

theorem mem_of_mem_dropStale (h : e ∈ (m.dropStale now k).state.entries) : e ∈ m.entries := by
  obtain same | ⟨_, _, _, same⟩ := m.dropStale_cases now k
  · rwa [same] at h
  · rw [same] at h
    exact (mem_withoutKey.mp h).1

/-- The cache holds a good entry if and only if a lookup would find it. -/
theorem contains_iff : m.contains now k = true ↔ ∃ s, (m.get now k).answer = .ok (some s) := by
  unfold contains get glance
  cases m.entry? k with
  | none => simp
  | some x =>
    by_cases stale : x.isStale m.settings.ttl now
    · simp [stale]
    · simp [stale]

end Memory

namespace Sharing

open Memory (Kept)

variable {settings : Settings} {s s' : State} {ts a b : List Transition} {t : Transition} {c : Nat}
  {moment : Moment} {k : String} {x : Entry} {session : Session}

/-! ## What is served -/

/-- The step puts an entry into the cache. -/
def Puts (k : String) (x : Entry) : Event → Prop
  | .asked _ moment (.set k' session) _ =>
    k' = k ∧ session = x.session ∧ moment.instant = x.insertedAt
  | _ => False

/-- The step is to replace or to remove what is under a digest. -/
def Touches (k : String) : Event → Prop
  | .asked _ _ (.set k' _) _ => k' = k
  | .asked _ _ (.delete k') _ => k' = k
  | .asked _ _ .clear _ => True
  | _ => False

theorem mem_of_mem_step {e : Event} (step : Service.Step service s e s')
    (mem : (k, x) ∈ s'.world.entries) :
    Puts k x e ∨ (k, x) ∈ s.world.entries ∧ ¬ Touches k e := by
  cases step with
  | begun o => exact .inr ⟨mem, id⟩
  | returned found => exact .inr ⟨mem, id⟩
  | @asked c t o r next found =>
    cases r with
    | glance k' =>
      have before : (k, x) ∈ (s.world.glance t.instant k').2.entries := mem
      rw [Memory.entries_glance] at before
      exact .inr ⟨before, id⟩
    | dropStale k' => exact .inr ⟨Memory.mem_of_mem_dropStale mem, id⟩
    | set k' y =>
      rcases Memory.mem_of_mem_set mem with ⟨before, other⟩ | same
      · exact .inr ⟨before, fun own => other (Eq.symm own)⟩
      · cases same
        exact .inl ⟨rfl, rfl, rfl⟩
    | delete k' =>
      obtain ⟨before, other⟩ := Memory.mem_delete.mp mem
      exact .inr ⟨before, fun own => other (Eq.symm own)⟩
    | clear => exact absurd mem List.not_mem_nil
    | contains k' => exact .inr ⟨mem, id⟩

/-- What is in the cache was put there, and has not been touched since. -/
theorem since_put (run : Service.Run service (fresh settings) ts s)
    (mem : (k, x) ∈ s.world.entries) :
    Since (fun _ t => Puts k x t.event) (fun t => ¬ Touches k t.event) ts := by
  induction run with
  | start => exact absurd mem List.not_mem_nil
  | snoc _ step ih =>
    refine since_snoc.mpr ?_
    exact (mem_of_mem_step step mem).imp_right (And.imp_left ih)

/-- The session is the last that was put under the digest, no longer ago than the time to live, and
nothing under the digest has been deleted since. -/
def Current (ttl : Duration) (k : String) (session : Session) (now : Instant) :
    List Transition → Prop :=
  Since
    (fun _ t => ∃ c moment y, t.event = .asked c moment (.set k session) y ∧
      moment.instant ≤ now ∧ ((now - moment.instant : Nat) : Int) ≤ ttl.nanoseconds)
    (fun t => ¬ Touches k t.event)

theorem eq_of_puts {e : Event} (puts : Puts k x e) :
    ∃ c moment y, e = .asked c moment (.set k x.session) y ∧ moment.instant = x.insertedAt := by
  cases e with
  | asked c moment r y =>
    cases r with
    | set k' session =>
      obtain ⟨rfl, rfl, time⟩ := puts
      exact ⟨c, moment, y, rfl, time⟩
    | _ => exact absurd puts id
  | _ => exact absurd puts id

theorem current_of_found (run : Service.Run service (fresh settings) (a ++ t :: b) s)
    (forward : (instants (a ++ t :: b)).Pairwise (· ≤ ·))
    (asked : t.event = .asked c moment (.glance k) (.found session)) :
    Current settings.effective.ttl k session moment.instant a := by
  obtain ⟨before, step, _⟩ := run.mid
  rw [asked] at step
  obtain ⟨x, found, good, rfl⟩ := Memory.found_of_glance step.answer_eq.1.symm
  have held := Memory.mem_of_entry? found
  obtain ⟨p, u, q, rfl, puts, untouched⟩ := since_put before held
  obtain ⟨d, moment', y, set, time⟩ := eq_of_puts puts
  refine ⟨p, u, q, rfl, ⟨d, moment', y, set, ?_, ?_⟩, untouched⟩
  · exact instant_le_of_forward forward (by simp) List.mem_cons_self set asked
  · rw [time, ← (kept_of_run before).configured]
    exact Int.not_lt.mp fun late => good (decide_eq_true late)

/-! ## What is dropped -/

/-- Why an entry leaves the cache, by the order of the call that takes it out. -/
inductive Exit (settings : Settings) (m : Memory) (e : String × Entry) (now : Instant) :
    Order → Prop
  | deleted : Exit settings m e now (.call (.delete e.1))
  | cleared : Exit settings m e now (.call .clear)
  | replaced (session : Session) : Exit settings m e now (.call (.set e.1 session))
  /-- There was no room for another entry. -/
  | evicted (k : String) (session : Session) (absent : ¬ m.Holds k)
    (full : m.size = settings.effective.maxSize) : Exit settings m e now (.call (.set k session))
  | expired (late : settings.effective.ttl.nanoseconds < (now - e.2.insertedAt : Nat)) :
    Exit settings m e now (.call (.get e.1))

theorem exit_of_inserted {m n : Memory} {e : String × Entry} {now : Instant}
    (kept : m.Kept settings) (inserted : m.Inserted now k session n) (mem : e ∈ m.entries)
    (gone : e ∉ n.entries) :
    Exit settings m e now (.call (.set k session)) := by
  cases inserted with
  | replaced found =>
    by_cases own : e.1 = k
    · exact own ▸ .replaced session
    · exact absurd (List.mem_append_left _ (Memory.mem_withoutKey.mpr ⟨mem, own⟩)) gone
  | added _ _ => exact absurd (List.mem_append_left _ mem) gone
  | evicting i absent full =>
    rw [kept.configured] at full
    refine .evicted k session ?_ (Nat.le_antisymm kept.bounded full)
    rintro ⟨f, held, key⟩
    exact Memory.key_ne_of_entry?_eq_none absent f held key

/-- An entry that a section takes out of the cache had to go. -/
theorem exit_of_serve {m : Memory} {e : String × Entry} {r : Section} (kept : m.Kept settings)
    (mem : e ∈ m.entries) (gone : e ∉ (moment.serve r m).2.entries) :
    Exit settings m e moment.instant r.order := by
  cases r with
  | glance k =>
    have stays : e ∉ (m.glance moment.instant k).2.entries := gone
    rw [Memory.entries_glance] at stays
    exact absurd mem stays
  | dropStale k =>
    have dropped : e ∉ (m.dropStale moment.instant k).state.entries := gone
    obtain same | ⟨x, found, stale, same⟩ := m.dropStale_cases moment.instant k
    · rw [same] at dropped
      exact absurd mem dropped
    · rw [same] at dropped
      have own : e.1 = k := by
        by_contra other
        exact dropped (Memory.mem_withoutKey.mpr ⟨mem, other⟩)
      -- The entry that was found to be stale is this one, since there is no other.
      have entry := kept.entry?_of_mem (k := e.1) (x := e.2) mem
      obtain rfl : e.2 = x := by
        rw [own, found] at entry
        exact (Option.some.inj entry).symm
      rw [kept.configured] at stale
      exact own ▸ .expired (of_decide_eq_true stale)
  | set k session =>
    exact exit_of_inserted kept (m.inserted_set moment.instant moment.victim k session) mem gone
  | delete k =>
    by_cases own : e.1 = k
    · exact own ▸ .deleted
    · exact absurd (Memory.mem_delete.mpr ⟨mem, own⟩) gone
  | clear => exact .cleared
  | contains k => exact absurd mem gone

/-! ## Every run -/

/-- What a shared cache serves and drops in some steps. -/
structure Orderly (settings : Settings) (ts : List Transition) : Prop where
  /-- A lookup that finds a session has seen it when it was current. -/
  hits : ∀ a t b c k session, ts = a ++ t :: b →
    t.event = .returned c (.call (.get k)) (.ok (some session)) →
    ∃ p u q moment, a = p ++ u :: q ∧ u.event = .asked c moment (.glance k) (.found session) ∧
      Current settings.effective.ttl k session moment.instant p
  /-- An entry leaves the cache by a call that may take it out. -/
  exits : ∀ a t b e, ts = a ++ t :: b → e ∈ t.before.world.entries → e ∉ t.after.world.entries →
    ∃ c moment r y, t.event = .asked c moment r y ∧ (∃ u ∈ a, u.event = .begun c r.order) ∧
      Exit settings t.before.world e moment.instant r.order
  /-- A lookup that has met a stale entry leaves a good one alone. -/
  spared : ∀ t ∈ ts, ∀ c moment k y, t.event = .asked c moment (.dropStale k) y →
    ∀ x, (k, x) ∈ t.before.world.entries → ¬ x.isStale settings.effective.ttl moment.instant →
      t.after.world = t.before.world
  /-- Whether there is a good entry can be asked, and that changes nothing. -/
  asked : ∀ t ∈ ts, ∀ c moment k y, t.event = .asked c moment (.contains k) y →
    t.after.world = t.before.world ∧
      (y = true ↔ ∃ session,
        (t.before.world.get moment.instant k).answer = .ok (some session))
  answered : ∀ a t b c k y, ts = a ++ t :: b → t.event = .returned c (.contains k) y →
    ∃ u ∈ a, ∃ moment, u.event = .asked c moment (.contains k) y

/-- A cache serves and drops what it should, with any number of clones and of calls at once. -/
theorem orderly_of_run {settings : Settings} {ts : List Transition} {s : State}
    (run : Service.Run service (fresh settings) ts s)
    (forward : (instants ts).Pairwise (· ≤ ·)) : Orderly settings ts where
  hits := by
    rintro a t b c k session rfl returned
    obtain ⟨u, hu, moment, asked⟩ := Discipline.mem_history.mp (keeps_of_returned run returned)
    obtain ⟨p, q, rfl⟩ := List.append_of_mem hu
    rw [List.append_assoc, List.cons_append] at run forward
    exact ⟨p, u, q, moment, rfl, asked, current_of_found run forward asked⟩
  exits := by
    rintro a ⟨before, event, after⟩ b e rfl mem gone
    have kept : before.world.Kept settings := kept_of_run run.mid.1
    have step : Service.Step service before event after := run.mid.2.1
    cases step with
    | begun o => exact absurd mem gone
    | returned found => exact absurd mem gone
    | @asked c moment o r next found =>
      exact ⟨c, moment, r, _, rfl, begun_of_asked run rfl, exit_of_serve kept mem gone⟩
  spared := by
    intro t ht c moment k y asked x mem good
    obtain ⟨a, b, rfl⟩ := List.append_of_mem ht
    obtain ⟨earlier, step, _⟩ := run.mid
    have kept := kept_of_run earlier
    rw [asked] at step
    refine step.answer_eq.2.trans ?_
    obtain same | ⟨x', found, stale, _⟩ := t.before.world.dropStale_cases moment.instant k
    · exact same
    · obtain rfl := Option.some.inj ((kept.entry?_of_mem mem).symm.trans found)
      rw [kept.configured] at stale
      exact absurd stale good
  asked := by
    intro t ht c moment k y asked
    have step := run.step_of_mem ht
    rw [asked] at step
    obtain ⟨answered, world⟩ := step.answer_eq
    exact ⟨world, answered ▸ Memory.contains_iff⟩
  answered := by
    rintro a t b c k y rfl returned
    exact Discipline.mem_history.mp (keeps_of_returned run returned)

/-- Another session comes under the digest while a lookup is about to drop the first one. -/
theorem orderly_of_run_sample :
    ∃ ts s, Service.Run service (fresh sampleSettings) ts s ∧ (instants ts).Pairwise (· ≤ ·) ∧
      Service.marks ts =
        [(0, .inl (.call (.set "k" (sampleSession "s")))),
          (0, .inr ⟨.call (.set "k" (sampleSession "s")), .ok ()⟩),
          (1, .inl (.call (.get "k"))),
          (2, .inl (.call (.set "k" (sampleSession "t")))),
          (2, .inr ⟨.call (.set "k" (sampleSession "t")), .ok ()⟩),
          (1, .inr ⟨.call (.get "k"), .ok none⟩),
          (3, .inl (.call (.get "k"))),
          (3, .inr ⟨.call (.get "k"), .ok (some (sampleSession "t"))⟩)] ∧
      Orderly sampleSettings ts := by
  have play : ((fresh sampleSettings).play? service
      [.start (.call (.set "k" (sampleSession "s"))), .proceed 0 ⟨0, 0⟩, .finish 0,
        .start (.call (.get "k")), .proceed 1 ⟨20, 0⟩,
        .start (.call (.set "k" (sampleSession "t"))), .proceed 2 ⟨20, 0⟩, .finish 2,
        .proceed 1 ⟨25, 0⟩, .finish 1,
        .start (.call (.get "k")), .proceed 3 ⟨30, 0⟩, .finish 3]).map
        (fun (p : List Transition × State) => (Service.marks p.1, instants p.1)) =
      some ([(0, .inl (.call (.set "k" (sampleSession "s")))),
          (0, .inr ⟨.call (.set "k" (sampleSession "s")), .ok ()⟩),
          (1, .inl (.call (.get "k"))),
          (2, .inl (.call (.set "k" (sampleSession "t")))),
          (2, .inr ⟨.call (.set "k" (sampleSession "t")), .ok ()⟩),
          (1, .inr ⟨.call (.get "k"), .ok none⟩),
          (3, .inl (.call (.get "k"))),
          (3, .inr ⟨.call (.get "k"), .ok (some (sampleSession "t"))⟩)],
        [0, 20, 20, 25, 30]) := by
    decide +kernel
  obtain ⟨⟨ts, s⟩, played, seen⟩ := Option.map_eq_some_iff.mp play
  simp only [Prod.mk.injEq] at seen
  obtain ⟨marks, times⟩ := seen
  have forward : (instants ts).Pairwise (· ≤ ·) := by
    rw [times]
    decide
  have run := Service.Run.of_play? played
  exact ⟨ts, s, run, forward, marks, orderly_of_run run forward⟩

end Sharing
end SessionKit.Cache
