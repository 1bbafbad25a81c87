import SessionKit.Proofs.Accounts
import SessionKit.Proofs.Capacity

/-!
# The statistics of a cache

Every insertion is in the cache still, or has been counted as a deletion or as an eviction, or took
the place of another one. Every lookup has been counted as a hit or as a miss when it returns.
-/

namespace SessionKit.Cache

/-! ## Counters -/

/-- No counter is larger than the other one. -/
structure Counters.Le (a b : Counters) : Prop where
  hits : a.hits ≤ b.hits
  misses : a.misses ≤ b.misses
  sets : a.sets ≤ b.sets
  deletes : a.deletes ≤ b.deletes
  evictions : a.evictions ≤ b.evictions

instance : LE Counters := ⟨Counters.Le⟩

theorem Counters.le_refl (a : Counters) : a ≤ a := by
  constructor <;> exact Nat.le_refl _

theorem Counters.le_trans {a b c : Counters} (h : a ≤ b) (h' : b ≤ c) : a ≤ c where
  hits := Nat.le_trans h.hits h'.hits
  misses := Nat.le_trans h.misses h'.misses
  sets := Nat.le_trans h.sets h'.sets
  deletes := Nat.le_trans h.deletes h'.deletes
  evictions := Nat.le_trans h.evictions h'.evictions

namespace Sharing

open Service (spent total)

variable {settings : Settings} {s s' : State} {ts : List Transition} {m n : Memory} {t : Moment}

/-! ## What a section counts -/

namespace Section

/-- The section begins a lookup. -/
def lookUps : Section → Nat
  | glance _ => 1
  | _ => 0

def sets : Section → Nat
  | set _ _ => 1
  | _ => 0

/-- The section is to put a session in the place of another one. -/
def replaces : Section → Memory → Bool
  | set k _, m => (m.entry? k).isSome
  | _, _ => false

end Section

/-- What a section counts. -/
structure Counts (r : Section) (m n : Memory) : Prop where
  lookUps : n.counters.hits + n.counters.misses =
    m.counters.hits + m.counters.misses + r.lookUps
  sets : n.counters.sets = m.counters.sets + r.sets
  balance : n.counters.sets + (m.size + m.counters.deletes + m.counters.evictions) =
    m.counters.sets + (n.size + n.counters.deletes + n.counters.evictions) +
      if r.replaces m then 1 else 0
  grows : m.counters ≤ n.counters

theorem replaces_of_found {k : String} {session : Session} {x : Entry}
    (found : m.entry? k = some x) : (Section.set k session).replaces m = true := by
  rw [Section.replaces, found]
  rfl

theorem not_replaces_of_absent {k : String} {session : Session} (absent : m.entry? k = none) :
    (Section.set k session).replaces m = false := by
  rw [Section.replaces, absent]
  rfl

theorem counts_of_inserted {now : Instant} {k : String} {session : Session} (kept : m.Kept settings)
    (inserted : m.Inserted now k session n) : Counts (.set k session) m n := by
  cases inserted with
  | replaced found =>
    have size := kept.length_withoutKey found
    refine ⟨rfl, rfl, ?_, by constructor <;> simp⟩
    rw [replaces_of_found found, if_pos rfl]
    simp only [Memory.size, List.length_append, List.length_singleton] at size ⊢
    omega
  | added absent _ =>
    refine ⟨rfl, rfl, ?_, by constructor <;> simp⟩
    rw [not_replaces_of_absent absent, if_neg Bool.false_ne_true]
    simp only [Memory.size, List.length_append, List.length_singleton]
    omega
  | evicting i absent full =>
    have size := kept.length_eraseIdx (i := i) full
    refine ⟨rfl, rfl, ?_, by constructor <;> simp⟩
    rw [not_replaces_of_absent absent, if_neg Bool.false_ne_true]
    simp only [Memory.size, List.length_append, List.length_singleton] at size ⊢
    omega

/-- A section that puts nothing in and looks nothing up counts what it takes out. -/
theorem counts_of_removal {r : Section} (kind : r.lookUps = 0 ∧ r.sets = 0 ∧ r.replaces m = false)
    (lookUps : n.counters.hits = m.counters.hits ∧ n.counters.misses = m.counters.misses)
    (sets : n.counters.sets = m.counters.sets)
    (taken : n.size + n.counters.deletes + n.counters.evictions =
      m.size + m.counters.deletes + m.counters.evictions)
    (grows : m.counters ≤ n.counters) : Counts r m n where
  lookUps := by rw [lookUps.1, lookUps.2, kind.1, Nat.add_zero]
  sets := by rw [sets, kind.2.1, Nat.add_zero]
  balance := by rw [sets, taken, kind.2.2, if_neg Bool.false_ne_true, Nat.add_zero]
  grows := grows

theorem counts_refl {r : Section} (kind : r.lookUps = 0 ∧ r.sets = 0 ∧ r.replaces m = false) :
    Counts r m m :=
  counts_of_removal kind ⟨rfl, rfl⟩ rfl rfl m.counters.le_refl

theorem counts_serve (kept : m.Kept settings) (r : Section) : Counts r m (t.serve r m).2 := by
  cases r with
  | glance k =>
    show Counts _ m (m.glance t.instant k).2
    obtain ⟨_, _, _, same⟩ | ⟨_, same⟩ := m.glance_cases t.instant k
    · rw [same]
      refine ⟨?_, rfl, rfl, by constructor <;> simp⟩
      exact Nat.add_right_comm _ _ _
    · rw [same]
      exact ⟨rfl, rfl, rfl, by constructor <;> simp⟩
  | dropStale k =>
    show Counts _ m (m.dropStale t.instant k).state
    obtain same | ⟨_, found, _, same⟩ := m.dropStale_cases t.instant k
    · rw [same]
      exact counts_refl ⟨rfl, rfl, rfl⟩
    · rw [same]
      have size := kept.length_withoutKey found
      refine counts_of_removal ⟨rfl, rfl, rfl⟩ ⟨rfl, rfl⟩ rfl ?_ (by constructor <;> simp)
      simp only [Memory.size] at size ⊢
      omega
  | set k session => exact counts_of_inserted kept (m.inserted_set t.instant t.victim k session)
  | delete k =>
    show Counts _ m (m.delete k).state
    obtain same | ⟨_, found, same⟩ := m.delete_cases k
    · rw [same]
      exact counts_refl ⟨rfl, rfl, rfl⟩
    · rw [same]
      have size := kept.length_withoutKey found
      refine counts_of_removal ⟨rfl, rfl, rfl⟩ ⟨rfl, rfl⟩ rfl ?_ (by constructor <;> simp)
      simp only [Memory.size] at size ⊢
      omega
  | clear =>
    show Counts _ m m.clear.state
    refine counts_of_removal ⟨rfl, rfl, rfl⟩ ⟨rfl, rfl⟩ rfl ?_
      (by constructor <;> simp [Memory.clear])
    simp only [Memory.clear, Memory.size, List.length_nil]
    omega
  | contains k => exact counts_refl ⟨rfl, rfl, rfl⟩

/-! ## What a run counts -/

/-- The step puts a session in the place of another one. -/
def replaces (t : Transition) : Bool :=
  match t.event with
  | .asked _ _ r _ => r.replaces t.before.world
  | _ => false

/-- What the counters say after some steps. -/
structure Tallied (ts : List Transition) (m : Memory) : Prop where
  lookUps : m.counters.hits + m.counters.misses = total (spent Section.lookUps) ts
  sets : m.counters.sets = total (spent Section.sets) ts
  balance : m.counters.sets =
    m.size + m.counters.deletes + m.counters.evictions + ts.countP replaces

namespace Tallied

variable {u : Transition} (tallied : Tallied ts m)

include tallied

theorem unasked (lookUps : spent Section.lookUps u = 0) (sets : spent Section.sets u = 0)
    (keeps : replaces u = false) : Tallied (ts ++ [u]) m where
  lookUps := by
    rw [tallied.lookUps, Service.total_append, Service.total_cons, lookUps]
    rfl
  sets := by
    rw [tallied.sets, Service.total_append, Service.total_cons, sets]
    rfl
  balance := by
    rw [tallied.balance, List.countP_append, List.countP_singleton, keeps]
    rfl

theorem asked {r : Section} {c : Nat} {y : r.Answer} (counts : Counts r m n)
    (before : u.before.world = m) (event : u.event = .asked c t r y) :
    Tallied (ts ++ [u]) n where
  lookUps := by
    rw [counts.lookUps, tallied.lookUps, Service.total_append, Service.total_cons, spent, event]
    rfl
  sets := by
    rw [counts.sets, tallied.sets, Service.total_append, Service.total_cons, spent, event]
    rfl
  balance := by
    have sum := counts.balance
    have earlier := tallied.balance
    have last : replaces u = r.replaces m := by
      rw [replaces, event, before]
    rw [List.countP_append, List.countP_singleton, last]
    omega

end Tallied

theorem tallied_of_run (run : Service.Run service (fresh settings) ts s) : Tallied ts s.world := by
  induction run with
  | start => exact ⟨rfl, rfl, rfl⟩
  | @snoc ts a b e run step ih =>
    cases step with
    | begun o => exact ih.unasked rfl rfl rfl
    | @asked c t o r next found => exact ih.asked (counts_serve (kept_of_run run) r) rfl rfl
    | returned found => exact ih.unasked rfl rfl rfl

theorem counters_le_of_run (kept : s.world.Kept settings) (run : Service.Run service s ts s') :
    s.world.counters ≤ s'.world.counters := by
  have all : s'.world.Kept settings ∧ s.world.counters ≤ s'.world.counters := by
    refine run.invariant (P := fun b => b.world.Kept settings ∧ s.world.counters ≤ b.world.counters)
      (fun step held => ?_) ⟨kept, s.world.counters.le_refl⟩
    obtain ⟨kept, le⟩ := held
    cases step with
    | begun o => exact ⟨kept, le⟩
    | @asked c t o r next found =>
      exact ⟨kept.serve t r, Counters.le_trans le (counts_serve kept r).grows⟩
    | returned found => exact ⟨kept, le⟩
  exact all.2

/-! ## Lookups and their calls -/

def Order.isGet : Order → Bool
  | .call (.get _) => true
  | _ => false

def Order.isSet : Order → Bool
  | .call (.set _ _) => true
  | _ => false

/-- The section that a call begins with. -/
def Order.first : Order → Section
  | .call (.get k) => .glance k
  | .call (.set k s) => .set k s
  | .call (.delete k) => .delete k
  | .call .clear => .clear
  | .contains k => .contains k

/-- A call costs what its first section costs, if it costs nothing to drop what is stale. -/
theorem costs_program {cost : Section → Nat} {o : Order} {n : Nat}
    (free : ∀ k, cost (.dropStale k) = 0) (first : cost o.first = n) : o.program.Costs cost n := by
  subst first
  match o with
  | .call (.get k) =>
    refine ⟨0, rfl, fun glance => ?_⟩
    cases glance with
    | found s => exact rfl
    | missing => exact rfl
    | stale => exact ⟨0, (free k).symm, fun _ => rfl⟩
  | .call (.set k s) => exact ⟨0, rfl, fun _ => rfl⟩
  | .call (.delete k) => exact ⟨0, rfl, fun _ => rfl⟩
  | .call .clear => exact ⟨0, rfl, fun _ => rfl⟩
  | .contains k => exact ⟨0, rfl, fun _ => rfl⟩

theorem costs_lookUps (o : Order) : o.program.Costs Section.lookUps o.isGet.toNat := by
  refine costs_program (fun _ => rfl) ?_
  rcases o with (_ | _ | _ | _) | _ <;> rfl

theorem costs_sets (o : Order) : o.program.Costs Section.sets o.isSet.toNat := by
  refine costs_program (fun _ => rfl) ?_
  rcases o with (_ | _ | _ | _) | _ <;> rfl

theorem sum_map_toNat {α : Type} (p : α → Bool) (l : List α) :
    (l.map fun a => (p a).toNat).sum = l.countP p := by
  induction l with
  | nil => rfl
  | cons a l ih =>
    rw [List.map_cons, List.sum_cons, ih, List.countP_cons, Nat.add_comm]
    cases p a <;> rfl

/-! ## Every run -/

/-- What the statistics of a cache say after some steps. -/
structure Statistics (settings : Settings) (ts : List Transition) (s : State) : Prop where
  bounded : s.world.size ≤ settings.effective.maxSize
  /-- What became of the insertions. -/
  balance : s.world.counters.sets =
    s.world.size + s.world.counters.deletes + s.world.counters.evictions + ts.countP replaces
  /-- What became of the lookups, when none is under way. -/
  lookUps : (∀ c f, s.flights c = some f → ¬ f.order.isGet) →
    s.world.counters.hits + s.world.counters.misses = (Service.orders ts).countP Order.isGet
  grow : ∀ t ∈ ts, t.before.world.counters ≤ s.world.counters
  /-- The counters fit into words of 64 bits. -/
  words : s.world.counters.hits < 2 ^ 64 ∧ s.world.counters.misses < 2 ^ 64 ∧
    s.world.counters.sets < 2 ^ 64 ∧ s.world.counters.deletes < 2 ^ 64 ∧
    s.world.counters.evictions < 2 ^ 64

/-- A cache stays within its bounds and its statistics add up, with any number of clones and of
calls at once, as long as the calls can be counted in words of 64 bits. -/
theorem statistics_of_run {settings : Settings} {ts : List Transition} {s : State}
    (run : Service.Run service (fresh settings) ts s) (few : s.begun < 2 ^ 64) :
    Statistics settings ts s := by
  have tallied := tallied_of_run run
  have idle := fresh_idle settings
  have numbered := fresh_numbered settings
  have length : (Service.orders ts).length = s.begun :=
    (Nat.zero_add _).symm.trans run.length_orders
  have lookUps := run.total_spent_le idle numbered costs_lookUps
  have sets := run.total_spent_le idle numbered costs_sets
  rw [sum_map_toNat] at lookUps sets
  have gets := List.countP_le_length (p := Order.isGet) (l := Service.orders ts)
  have insertions := List.countP_le_length (p := Order.isSet) (l := Service.orders ts)
  refine ⟨(kept_of_run run).bounded, tallied.balance, fun none => ?_, fun t ht => ?_, ?_⟩
  · rw [tallied.lookUps, ← sum_map_toNat]
    refine run.total_spent_eq idle numbered costs_lookUps fun c f found => ?_
    rw [Bool.eq_false_iff.mpr (none c f found)]
    rfl
  · obtain ⟨a, b, rfl⟩ := List.append_of_mem ht
    obtain ⟨first, step, rest⟩ := run.mid
    exact counters_le_of_run (kept_of_run first) ((Service.Run.start.snoc step).append rest)
  · have lookUps' := tallied.lookUps
    have sets' := tallied.sets
    have balance := tallied.balance
    omega

/-- The choices that take a call through its only section. -/
def wholeCall (c : Nat) (o : Order) (instant : Instant) : List Choice :=
  [.start o, .proceed c ⟨instant, 0⟩, .finish c]

/-- One entry is evicted for another one, which is found, becomes stale, comes again, is replaced
and is deleted. -/
theorem statistics_of_run_sample :
    ∃ ts s, Service.Run service (fresh sampleSettings) ts s ∧ s.begun < 2 ^ 64 ∧
      s.world.counters = { hits := 1, misses := 1, sets := 4, deletes := 1, evictions := 2 } ∧
      ts.countP replaces = 1 ∧ Statistics sampleSettings ts s := by
  have play : ((fresh sampleSettings).play? service
      (wholeCall 0 (.call (.set "k" (sampleSession "s"))) 0 ++
        wholeCall 1 (.call (.set "l" (sampleSession "s"))) 0 ++
        wholeCall 2 (.call (.get "l")) 5 ++
        [.start (.call (.get "l")), .proceed 3 ⟨20, 0⟩, .proceed 3 ⟨20, 0⟩, .finish 3] ++
        wholeCall 4 (.call (.set "l" (sampleSession "s"))) 20 ++
        wholeCall 5 (.call (.set "l" (sampleSession "t"))) 20 ++
        wholeCall 6 (.call (.delete "l")) 20)).map
        (fun (p : List Transition × State) =>
          (p.2.begun, p.2.world.counters, p.1.countP replaces)) =
      some (7, { hits := 1, misses := 1, sets := 4, deletes := 1, evictions := 2 }, 1) := by
    decide +kernel
  obtain ⟨⟨ts, s⟩, played, seen⟩ := Option.map_eq_some_iff.mp play
  simp only [Prod.mk.injEq] at seen
  obtain ⟨begun, counters, replaced⟩ := seen
  have few : s.begun < 2 ^ 64 := by
    rw [begun]
    decide
  have run := Service.Run.of_play? played
  exact ⟨ts, s, run, few, counters, replaced, statistics_of_run run few⟩

end Sharing
end SessionKit.Cache
