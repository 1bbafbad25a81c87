import SessionKit.Proofs.Sharing
import SessionKit.Proofs.Tables

/-!
# The capacity of a cache

What a section does to the entries of a cache and to its counters. Between any two sections there is
one entry for each digest at most, and there are no more entries than the settings allow.
-/

namespace SessionKit.Cache

theorem Settings.maxSize_pos (s : Settings) : 0 < s.effective.maxSize := by
  show 0 < if s.maxSize = 0 then defaultMaxSize else s.maxSize
  split
  · decide
  · omega

namespace Memory

variable {settings : Settings} {m : Memory} {k : String} {x : Entry} {now : Instant} {victim : Nat}
  {s : Session}

/-! ## Sections -/

/-- A glance changes nothing but one counter, and finds what is there and is not stale. -/
theorem glance_cases (m : Memory) (now : Instant) (k : String) :
    (∃ x, m.entry? k = some x ∧ ¬ x.isStale m.settings.ttl now ∧
      m.glance now k = (.found x.session,
        { m with counters := { m.counters with hits := m.counters.hits + 1 } })) ∨
    ((m.glance now k).1 = .missing ∨ (m.glance now k).1 = .stale) ∧
      (m.glance now k).2 =
        { m with counters := { m.counters with misses := m.counters.misses + 1 } } := by
  unfold glance
  cases found : m.entry? k with
  | none => exact .inr ⟨.inl rfl, rfl⟩
  | some x =>
    by_cases stale : x.isStale m.settings.ttl now
    · refine .inr ⟨.inr ?_, ?_⟩
      · simp only [if_pos stale]
      · simp only [if_pos stale]
    · exact .inl ⟨x, rfl, stale, if_neg stale⟩

/-- Only what is still stale is dropped. -/
theorem dropStale_cases (m : Memory) (now : Instant) (k : String) :
    (m.dropStale now k).state = m ∨
    ∃ x, m.entry? k = some x ∧ x.isStale m.settings.ttl now ∧
      (m.dropStale now k).state =
        { m with
          entries := m.withoutKey k
          counters := { m.counters with evictions := m.counters.evictions + 1 } } := by
  unfold dropStale
  cases found : m.entry? k with
  | none => exact .inl rfl
  | some x =>
    by_cases stale : x.isStale m.settings.ttl now
    · refine .inr ⟨x, rfl, stale, ?_⟩
      simp only [if_pos stale]
    · refine .inl ?_
      simp only [if_neg stale]

theorem delete_cases (m : Memory) (k : String) :
    (m.delete k).state = m ∨
    ∃ x, m.entry? k = some x ∧
      (m.delete k).state =
        { m with
          entries := m.withoutKey k
          counters := { m.counters with deletes := m.counters.deletes + 1 } } := by
  unfold delete
  cases m.entry? k with
  | none => exact .inl rfl
  | some x => exact .inr ⟨x, rfl, rfl⟩

theorem withoutKey_of_absent (absent : m.entry? k = none) : m.withoutKey k = m.entries := by
  refine List.filter_eq_self.mpr fun e mem => ?_
  exact decide_eq_true (key_ne_of_entry?_eq_none absent e mem)

/-- What an insertion does. -/
inductive Inserted (m : Memory) (now : Instant) (k : String) (s : Session) : Memory → Prop
  | replaced {x : Entry} (found : m.entry? k = some x) :
    Inserted m now k s
      { m with
        entries := m.withoutKey k ++ [(k, { session := s, insertedAt := now })]
        counters := { m.counters with sets := m.counters.sets + 1 } }
  | added (absent : m.entry? k = none) (room : m.size < m.settings.maxSize) :
    Inserted m now k s
      { m with
        entries := m.entries ++ [(k, { session := s, insertedAt := now })]
        counters := { m.counters with sets := m.counters.sets + 1 } }
  | evicting (i : Nat) (absent : m.entry? k = none) (full : m.settings.maxSize ≤ m.size) :
    Inserted m now k s
      { m with
        entries := m.entries.eraseIdx (i % m.size) ++ [(k, { session := s, insertedAt := now })]
        counters := { m.counters with
          sets := m.counters.sets + 1
          evictions := m.counters.evictions + 1 } }

theorem inserted_set (m : Memory) (now : Instant) (victim : Nat) (k : String) (s : Session) :
    Inserted m now k s (m.set now victim k s).state := by
  unfold set makeRoom
  cases found : m.entry? k with
  | some x =>
    rw [if_neg (by simp)]
    exact .replaced found
  | none =>
    by_cases full : m.settings.maxSize ≤ m.size
    · rw [if_pos ⟨rfl, full⟩]
      have same : Memory.withoutKey
          { m with
            entries := m.entries.eraseIdx (victim % m.size)
            counters := { m.counters with evictions := m.counters.evictions + 1 } } k =
          m.entries.eraseIdx (victim % m.size) := by
        refine List.filter_eq_self.mpr fun e mem => ?_
        exact decide_eq_true (key_ne_of_entry?_eq_none found e (List.mem_of_mem_eraseIdx mem))
      simp only [same]
      exact .evicting victim found full
    · rw [if_neg fun h => full h.2]
      simp only [withoutKey_of_absent found]
      exact .added found (Nat.lt_of_not_le full)

/-! ## One entry for each digest -/

/-- How the sections find a cache, and how they leave it. -/
structure Kept (settings : Settings) (m : Memory) : Prop where
  configured : m.settings = settings.effective
  keyed : (m.entries.map Prod.fst).Nodup
  bounded : m.size ≤ settings.effective.maxSize

theorem kept_new (settings : Settings) : (new settings).Kept settings where
  configured := rfl
  keyed := List.nodup_nil
  bounded := Nat.zero_le _

namespace Kept

variable (kept : m.Kept settings)

include kept

theorem entry?_of_mem (mem : (k, x) ∈ m.entries) : m.entry? k = some x := by
  cases found : m.entry? k with
  | none => exact absurd rfl (key_ne_of_entry?_eq_none found _ mem)
  | some y =>
    have held := mem_of_entry? found
    have same := List.inj_on_of_nodup_map kept.keyed held mem rfl
    exact congrArg (fun e : String × Entry => some e.2) same

theorem length_withoutKey (found : m.entry? k = some x) : (m.withoutKey k).length + 1 = m.size := by
  have held := mem_of_entry? found
  exact length_filter_key_ne kept.keyed held

theorem length_eraseIdx {i : Nat} (full : m.settings.maxSize ≤ m.size) :
    (m.entries.eraseIdx (i % m.size)).length + 1 = m.size := by
  have pos : 0 < m.size := by
    rw [kept.configured] at full
    exact Nat.lt_of_lt_of_le settings.maxSize_pos full
  have place : i % m.size < m.entries.length := Nat.mod_lt _ pos
  rw [List.length_eraseIdx_of_lt place]
  exact Nat.sub_add_cancel pos

theorem withoutKey {counters : Counters} :
    Kept settings { m with entries := m.withoutKey k, counters } where
  configured := kept.configured
  keyed := kept.keyed.sublist (List.filter_sublist.map _)
  bounded := Nat.le_trans (List.length_filter_le _ _) kept.bounded

/-- An entry comes under a digest that is free by then. -/
theorem snoc {es : List (String × Entry)} {e : String × Entry} {counters : Counters}
    (fewer : es.Sublist m.entries) (free : ∀ f ∈ es, f.1 ≠ e.1)
    (room : es.length < settings.effective.maxSize) :
    Kept settings { m with entries := es ++ [e], counters } where
  configured := kept.configured
  keyed := by
    rw [List.map_append, List.map_singleton]
    refine List.nodup_append'.mpr ⟨kept.keyed.sublist (fewer.map _), List.nodup_singleton _, ?_⟩
    rw [List.disjoint_singleton]
    intro taken
    obtain ⟨f, mem, same⟩ := List.mem_map.mp taken
    exact free f mem same
  bounded := by
    show (es ++ [e]).length ≤ _
    rw [List.length_append, List.length_singleton]
    exact room

theorem of_inserted {n : Memory} (inserted : Inserted m now k s n) : n.Kept settings := by
  cases inserted with
  | replaced found =>
    refine kept.snoc List.filter_sublist (fun f mem => (mem_withoutKey.mp mem).2) ?_
    have size := kept.length_withoutKey found
    have bounded := kept.bounded
    omega
  | added absent room =>
    refine kept.snoc (List.Sublist.refl _) (key_ne_of_entry?_eq_none absent) ?_
    rw [kept.configured] at room
    exact room
  | evicting i absent full =>
    refine kept.snoc (List.eraseIdx_sublist _ _) (fun f mem => ?_) ?_
    · exact key_ne_of_entry?_eq_none absent f (List.mem_of_mem_eraseIdx mem)
    · have size := kept.length_eraseIdx (i := i) full
      have bounded := kept.bounded
      omega

/-- Every section keeps what holds of the cache. -/
theorem serve (t : Sharing.Moment) (r : Sharing.Section) : (t.serve r m).2.Kept settings := by
  cases r with
  | glance k =>
    have unchanged {counters : Counters} : Kept settings { m with counters } :=
      ⟨kept.configured, kept.keyed, kept.bounded⟩
    show (m.glance t.instant k).2.Kept settings
    obtain ⟨_, _, _, same⟩ | ⟨_, same⟩ := m.glance_cases t.instant k
    · rw [same]
      exact unchanged
    · rw [same]
      exact unchanged
  | dropStale k =>
    show (m.dropStale t.instant k).state.Kept settings
    obtain same | ⟨_, _, _, same⟩ := m.dropStale_cases t.instant k
    · rwa [same]
    · rw [same]
      exact kept.withoutKey
  | set k s => exact kept.of_inserted (m.inserted_set t.instant t.victim k s)
  | delete k =>
    show (m.delete k).state.Kept settings
    obtain same | ⟨_, _, same⟩ := m.delete_cases k
    · rwa [same]
    · rw [same]
      exact kept.withoutKey
  | clear => exact ⟨kept.configured, List.nodup_nil, Nat.zero_le _⟩
  | contains k => exact kept

end Kept
end Memory

/-- Every step finds the cache and leaves it so. -/
theorem Sharing.kept_of_run {settings : Settings} {ts : List Transition} {s : State}
    (run : Service.Run service (fresh settings) ts s) : s.world.Kept settings := by
  refine run.invariant (P := fun s => s.world.Kept settings) (fun step kept => ?_)
    (Memory.kept_new settings)
  cases step with
  | begun o => exact kept
  | @asked c t o r next found => exact kept.serve t r
  | returned found => exact kept

end SessionKit.Cache
