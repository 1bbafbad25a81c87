import SessionKit.Proofs.History
import SessionKit.Session.Cache

/-!
# A cache that is shared

Any number of calls at once to a cache in memory. Its clones share their entries and counters, so it
does not matter on which of them a call is made. A call is made of sections, each of which holds the
lock from its start to its end. A lookup that has met a stale entry has two of them, and between the
two other calls may do anything.
-/

namespace SessionKit.Cache.Sharing

open Discipline (remembering remembering_ask remembering_done)

/-! ## Sections -/

/-- What a call does while it holds the lock. -/
inductive Section where
  | glance (tokenHash : String)
  | dropStale (tokenHash : String)
  | set (tokenHash : String) (session : Session)
  | delete (tokenHash : String)
  | clear
  | contains (tokenHash : String)
  deriving DecidableEq, Repr

abbrev Section.Answer : Section → Type
  | glance _ => Memory.Glance
  | dropStale _ => Unit
  | set _ _ => Except Error Unit
  | delete _ => Except Error Unit
  | clear => Except Error Unit
  | contains _ => Bool

/-- What a section depends on besides the memory: the time, and which entry goes when the cache is
full. -/
structure Moment where
  instant : Instant
  victim : Nat := 0
  deriving DecidableEq, Repr

def Moment.serve (t : Moment) : (r : Section) → Memory → r.Answer × Memory
  | .glance k, m => m.glance t.instant k
  | .dropStale k, m => ((), (m.dropStale t.instant k).state)
  | .set k s, m => ((m.set t.instant t.victim k s).answer, (m.set t.instant t.victim k s).state)
  | .delete k, m => ((m.delete k).answer, (m.delete k).state)
  | .clear, m => (m.clear.answer, m.clear.state)
  | .contains k, m => (m.contains t.instant k, m)

/-! ## Calls -/

inductive Order where
  | call (c : Call)
  | contains (tokenHash : String)
  deriving DecidableEq, Repr

namespace Order

abbrev Result : Order → Type
  | call c => Cache.Answer c
  | contains _ => Bool

instance : (o : Order) → DecidableEq o.Result
  | call (.get _) => inferInstanceAs (DecidableEq (Except Error (Option Session)))
  | call (.set _ _) => inferInstanceAs (DecidableEq (Except Error Unit))
  | call (.delete _) => inferInstanceAs (DecidableEq (Except Error Unit))
  | call .clear => inferInstanceAs (DecidableEq (Except Error Unit))
  | contains _ => inferInstanceAs (DecidableEq Bool)

def program : (o : Order) → Program Section Section.Answer o.Result
  | call (.get k) => .ask (.glance k) fun
    | .found s => .done (.ok (some s))
    | .missing => .done (.ok none)
    | .stale => .ask (.dropStale k) fun _ => .done (.ok none)
  | call (.set k s) => .ask (.set k s) .done
  | call (.delete k) => .ask (.delete k) .done
  | call .clear => .ask .clear .done
  | contains k => .ask (.contains k) .done

end Order

/-- The order of a call to which a section belongs. -/
def Section.order : Section → Order
  | glance k => .call (.get k)
  | dropStale k => .call (.get k)
  | set k s => .call (.set k s)
  | delete k => .call (.delete k)
  | clear => .call .clear
  | contains k => .contains k

/-- What a result has to do with what the call was told. -/
def Order.Keeps : (o : Order) → o.Result → List (Exchange Section Section.Answer) → Prop
  | call (.get k), .ok (some s), h => ⟨.glance k, .found s⟩ ∈ h
  | contains k, holds, h => ⟨.contains k, holds⟩ ∈ h
  | _, _, _ => True

theorem wp_program (o : Order) :
    (remembering fun r _ => r.order = o).wp o.program o.Keeps [] := by
  match o with
  | .call (.get k) =>
    refine remembering_ask.mpr ⟨rfl, fun glance => ?_⟩
    cases glance with
    | found s => exact remembering_done.mpr (List.mem_singleton_self _)
    | missing => exact remembering_done.mpr trivial
    | stale => exact remembering_ask.mpr ⟨rfl, fun _ => remembering_done.mpr trivial⟩
  | .call (.set k s) => exact remembering_ask.mpr ⟨rfl, fun _ => remembering_done.mpr trivial⟩
  | .call (.delete k) => exact remembering_ask.mpr ⟨rfl, fun _ => remembering_done.mpr trivial⟩
  | .call .clear => exact remembering_ask.mpr ⟨rfl, fun _ => remembering_done.mpr trivial⟩
  | .contains k =>
    exact remembering_ask.mpr ⟨rfl, fun _ => remembering_done.mpr (List.mem_singleton_self _)⟩

/-! ## The service -/

abbrev State := Service.State Section Section.Answer Order Order.Result Memory
abbrev Event := Service.Event Section Section.Answer Order Order.Result Moment
abbrev Choice := Service.Choice Order Moment
abbrev Transition := Service.Transition Section Section.Answer Order Order.Result Memory Moment

/-- A cache with all its clones. -/
abbrev service : Service Section Section.Answer Order Order.Result Memory Moment where
  program := Order.program
  serve := Moment.serve

/-- An empty cache, and no calls. -/
def fresh (settings : Settings) : State := .initial (.new settings)

variable {settings : Settings} {s : State} {ts a b : List Transition} {t : Transition} {c : Nat}

theorem fresh_idle (settings : Settings) : (fresh settings).Idle := Service.State.initial_idle _

theorem fresh_numbered (settings : Settings) : (fresh settings).Numbered :=
  Service.State.initial_numbered _

/-- A section belongs to a call that was begun with its order. -/
theorem begun_of_asked {moment : Moment} {r : Section} {x : r.Answer}
    (run : Service.Run service (fresh settings) (a ++ t :: b) s)
    (asked : t.event = .asked c moment r x) : ∃ u ∈ a, u.event = .begun c r.order := by
  obtain ⟨o, u, hu, begun, same⟩ := Discipline.allows_of_asked run (fresh_idle settings)
    (fresh_numbered settings) wp_program asked
  exact ⟨u, hu, same ▸ begun⟩

/-- A result rests on a section of the call. -/
theorem keeps_of_returned {o : Order} {x : o.Result}
    (run : Service.Run service (fresh settings) (a ++ t :: b) s)
    (returned : t.event = .returned c o x) : o.Keeps x (Discipline.history c a) := by
  obtain ⟨before, step, _⟩ := run.mid
  rw [returned] at step
  have whole := Discipline.vow_of_history (before.snoc step) (fresh_idle settings)
    (fresh_numbered settings) wp_program (List.mem_append_right _ List.mem_cons_self) rfl
  simpa [Discipline.history, Discipline.enter] using whole

/-! ## Time -/

/-- The times at which the sections took place, in order. -/
def instants (ts : List Transition) : List Instant :=
  ts.filterMap fun t =>
    match t.event with
    | .asked _ moment _ _ => some moment.instant
    | _ => none

theorem mem_instants {moment : Moment} {r : Section} {x : r.Answer} (h : t ∈ ts)
    (asked : t.event = .asked c moment r x) : moment.instant ∈ instants ts :=
  List.mem_filterMap.mpr ⟨t, h, by rw [asked]⟩

/-- Time does not go back. -/
theorem instant_le_of_forward {u : Transition} {d : Nat} {moment moment' : Moment} {q r : Section}
    {x : q.Answer} {y : r.Answer} (forward : (instants (a ++ b)).Pairwise (· ≤ ·)) (ht : t ∈ a)
    (hu : u ∈ b) (asked : t.event = .asked c moment q x) (asked' : u.event = .asked d moment' r y) :
    moment.instant ≤ moment'.instant := by
  unfold instants at forward
  rw [List.filterMap_append] at forward
  exact (List.pairwise_append.mp forward).2.2 _ (mem_instants ht asked) _ (mem_instants hu asked')

/-! ## A sample -/

/-- A cache with room for one entry, for ten nanoseconds. -/
def sampleSettings : Settings where
  ttl := ⟨10⟩
  maxSize := 1

def sampleSession (id : String) : Session where
  id := id
  userId := "u"
  tokenHash := "k"
  ipAddress := "i"
  userAgent := "a"
  createdAt := .epoch
  updatedAt := .epoch
  expiresAt := .epoch

end SessionKit.Cache.Sharing
