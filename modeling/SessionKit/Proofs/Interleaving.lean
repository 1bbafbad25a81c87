import SessionKit.Program
import Mathlib.Logic.Function.Basic
import Mathlib.Data.List.Infix

/-!
# Calls side by side

A service says which program an order is and how the world answers a request. Any number of calls
are under way at once. One step begins a call, answers one request of one call, or lets a call
return; which step comes next is open, so what holds of every run holds for every interleaving.
-/

namespace SessionKit

/-! ## What holds since -/

/-- Something was so at some entry of a list, given the entries before it, and all entries since
have kept it so. -/
def Since {α : Type} (starts : List α → α → Prop) (keeps : α → Prop) (l : List α) : Prop :=
  ∃ a x b, l = a ++ x :: b ∧ starts a x ∧ ∀ y ∈ b, keeps y

theorem not_since_nil {α : Type} {starts : List α → α → Prop} {keeps : α → Prop} :
    ¬ Since starts keeps [] := by
  rintro ⟨a, x, b, split, _⟩
  simp at split

theorem since_snoc {α : Type} {starts : List α → α → Prop} {keeps : α → Prop} {l : List α} {z : α} :
    Since starts keeps (l ++ [z]) ↔ starts l z ∨ Since starts keeps l ∧ keeps z := by
  constructor
  · rintro ⟨a, x, b, split, starts, kept⟩
    -- It starts with the last entry, or with an earlier one.
    cases b using List.reverseRecOn with
    | nil =>
      obtain ⟨rfl, one⟩ := List.append_inj' split rfl
      obtain rfl := List.singleton_inj.mp one
      exact .inl starts
    | append_singleton b y =>
      rw [← List.cons_append, ← List.append_assoc] at split
      obtain ⟨rfl, one⟩ := List.append_inj' split rfl
      obtain rfl := List.singleton_inj.mp one
      exact .inr ⟨⟨a, x, b, rfl, starts, fun y hy => kept y (by simp [hy])⟩, kept z (by simp)⟩
  · rintro (starts | ⟨⟨a, x, b, rfl, starts, kept⟩, keeps⟩)
    · exact ⟨l, z, [], rfl, starts, by simp⟩
    · refine ⟨a, x, b ++ [z], by simp, starts, ?_⟩
      intro y hy
      rcases List.mem_append.mp hy with hy | hy
      · exact kept y hy
      · rw [List.mem_singleton.mp hy]
        exact keeps

/-- It is over with an entry that does not keep it so, if it does not start again. -/
theorem not_since_of_not_keeps {α : Type} {starts : List α → α → Prop} {keeps : α → Prop}
    {a b : List α} {x : α} (ends : ¬ keeps x) (never : ∀ a, ∀ y ∈ x :: b, ¬ starts a y) :
    ¬ Since starts keeps (a ++ x :: b) := by
  induction b using List.reverseRecOn with
  | nil =>
    rw [since_snoc]
    rintro (starts | ⟨_, keeps⟩)
    · exact never _ x (by simp) starts
    · exact ends keeps
  | append_singleton b y ih =>
    rw [← List.cons_append, ← List.append_assoc, since_snoc]
    rintro (starts | ⟨since, _⟩)
    · exact never _ y (by simp) starts
    · refine ih (fun a z hz => never a z ?_) since
      exact List.cons_subset_cons x (List.subset_append_left b [y]) hz

/-! ## Services -/

/-- The programs of the orders, and the world that answers them. A moment is all that an answer
depends on besides the world: the clocks, the random bytes, whatever fails. -/
structure Service (Request : Type) (Answer : Request → Type) (Order : Type) (Result : Order → Type)
    (World Moment : Type) where
  program : (o : Order) → Program Request Answer (Result o)
  serve : Moment → (r : Request) → World → Answer r × World

namespace Service

/-- A call that has begun and has not returned, with what is left of it. -/
structure Flight (Request : Type) (Answer : Request → Type) (Order : Type)
    (Result : Order → Type) where
  order : Order
  rest : Program Request Answer (Result order)

/-- Calls are numbered in the order in which they begin. -/
structure State (Request : Type) (Answer : Request → Type) (Order : Type) (Result : Order → Type)
    (World : Type) where
  world : World
  flights : Nat → Option (Flight Request Answer Order Result)
  begun : Nat

/-- What is seen of a step. -/
inductive Event (Request : Type) (Answer : Request → Type) (Order : Type) (Result : Order → Type)
    (Moment : Type) where
  | begun (call : Nat) (order : Order)
  | asked (call : Nat) (moment : Moment) (request : Request) (answer : Answer request)
  | returned (call : Nat) (order : Order) (result : Result order)

/-- What a scheduler settles about a step. -/
inductive Choice (Order Moment : Type) where
  | start (order : Order)
  | proceed (call : Nat) (moment : Moment)
  | finish (call : Nat)

/-- One step with the states around it. -/
structure Transition (Request : Type) (Answer : Request → Type) (Order : Type)
    (Result : Order → Type) (World Moment : Type) where
  before : State Request Answer Order Result World
  event : Event Request Answer Order Result Moment
  after : State Request Answer Order Result World

variable {Request : Type} {Answer : Request → Type} {Order : Type} {Result : Order → Type}
  {World Moment : Type} {v : Service Request Answer Order Result World Moment}
  {s s' s'' : State Request Answer Order Result World}
  {e : Event Request Answer Order Result Moment}
  {t : Transition Request Answer Order Result World Moment}
  {ts us : List (Transition Request Answer Order Result World Moment)}

/-- The call that an event belongs to. -/
def Event.call : Event Request Answer Order Result Moment → Nat
  | begun c _ => c
  | asked c _ _ _ => c
  | returned c _ _ => c

namespace State

/-- Nothing has begun. -/
def initial (w : World) : State Request Answer Order Result World where
  world := w
  flights _ := none
  begun := 0

/-- No call is under way. -/
def Idle (s : State Request Answer Order Result World) : Prop := ∀ c, s.flights c = none

/-- Only calls that have begun are under way. -/
def Numbered (s : State Request Answer Order Result World) : Prop :=
  ∀ c, s.begun ≤ c → s.flights c = none

/-- A call has begun and has returned. -/
def Ended (s : State Request Answer Order Result World) (c : Nat) : Prop :=
  s.flights c = none ∧ c < s.begun

theorem Numbered.idle (h : s.Numbered) (none : ∀ c < s.begun, (s.flights c).isNone) : s.Idle := by
  intro c
  by_cases hc : c < s.begun
  · exact Option.isNone_iff_eq_none.mp (none c hc)
  · exact h c (Nat.le_of_not_lt hc)

theorem initial_idle (w : World) :
    (initial w : State Request Answer Order Result World).Idle := fun _ => rfl

theorem initial_numbered (w : World) :
    (initial w : State Request Answer Order Result World).Numbered := fun _ _ => rfl

/-- The step that a choice makes, if there is such a step. -/
def next? (v : Service Request Answer Order Result World Moment)
    (s : State Request Answer Order Result World) : Choice Order Moment →
    Option (Event Request Answer Order Result Moment × State Request Answer Order Result World)
  | .start o =>
    some (.begun s.begun o,
      { s with
        flights := Function.update s.flights s.begun (some ⟨o, v.program o⟩)
        begun := s.begun + 1 })
  | .proceed c t =>
    match s.flights c with
    | some ⟨o, .ask r k⟩ =>
      let (x, w) := v.serve t r s.world
      some (.asked c t r x,
        { s with world := w, flights := Function.update s.flights c (some ⟨o, k x⟩) })
    | _ => none
  | .finish c =>
    match s.flights c with
    | some ⟨o, .done x⟩ =>
      some (.returned c o x, { s with flights := Function.update s.flights c none })
    | _ => none

end State

/-! ## Steps -/

/-- All that a step can be. -/
inductive Step (v : Service Request Answer Order Result World Moment)
    (s : State Request Answer Order Result World) :
    Event Request Answer Order Result Moment → State Request Answer Order Result World → Prop
  | begun (o : Order) :
    Step v s (.begun s.begun o)
      { s with
        flights := Function.update s.flights s.begun (some ⟨o, v.program o⟩)
        begun := s.begun + 1 }
  | asked {c : Nat} {t : Moment} {o : Order} {r : Request}
      {k : Answer r → Program Request Answer (Result o)} (h : s.flights c = some ⟨o, .ask r k⟩) :
    Step v s (.asked c t r (v.serve t r s.world).1)
      { s with
        world := (v.serve t r s.world).2
        flights := Function.update s.flights c (some ⟨o, k (v.serve t r s.world).1⟩) }
  | returned {c : Nat} {o : Order} {x : Result o} (h : s.flights c = some ⟨o, .done x⟩) :
    Step v s (.returned c o x) { s with flights := Function.update s.flights c none }

theorem Step.of_next? {choice : Choice Order Moment} (h : s.next? v choice = some (e, s')) :
    Step v s e s' := by
  cases choice with
  | start o =>
    simp only [State.next?, Option.some.injEq, Prod.mk.injEq] at h
    obtain ⟨rfl, rfl⟩ := h
    exact .begun o
  | proceed c t =>
    simp only [State.next?] at h
    split at h
    next o r k found =>
      simp only [Option.some.injEq, Prod.mk.injEq] at h
      obtain ⟨rfl, rfl⟩ := h
      exact .asked found
    next => cases h
  | finish c =>
    simp only [State.next?] at h
    split at h
    next o x found =>
      simp only [Option.some.injEq, Prod.mk.injEq] at h
      obtain ⟨rfl, rfl⟩ := h
      exact .returned found
    next => cases h

/-- A step leaves the calls alone that it does not belong to. -/
theorem Step.flights_of_ne (step : Step v s e s') {c : Nat} (other : e.call ≠ c) :
    s'.flights c = s.flights c := by
  cases step <;> exact Function.update_of_ne (Ne.symm other) _ _

theorem Step.begun_le (step : Step v s e s') : s.begun ≤ s'.begun := by
  cases step with
  | begun o => exact Nat.le_succ _
  | asked h => exact Nat.le_refl _
  | returned h => exact Nat.le_refl _

theorem Step.numbered (step : Step v s e s') (h : s.Numbered) : s'.Numbered := by
  intro c hc
  cases step with
  | begun o =>
    have hlt : s.begun < c := hc
    exact (Function.update_of_ne (Nat.ne_of_gt hlt) _ _).trans (h c (Nat.le_of_lt hlt))
  | @asked d t o r k found =>
    have hne : c ≠ d := by
      rintro rfl
      rw [h c hc] at found
      cases found
    exact (Function.update_of_ne hne _ _).trans (h c hc)
  | @returned d o x found =>
    by_cases hne : c = d
    · rw [hne]
      exact Function.update_self _ _ _
    · exact (Function.update_of_ne hne _ _).trans (h c hc)

/-- A call that is under way has begun. -/
theorem State.Numbered.lt (h : s.Numbered) {c : Nat} {f : Flight Request Answer Order Result}
    (found : s.flights c = some f) : c < s.begun := by
  by_contra hc
  rw [h c (Nat.le_of_not_lt hc)] at found
  cases found

theorem Step.call_lt (step : Step v s e s') (numbered : s.Numbered) : e.call < s'.begun := by
  cases step with
  | begun o => exact Nat.lt_succ_self _
  | asked found => exact numbered.lt found
  | returned found => exact numbered.lt found

theorem Step.ended {c : Nat} {o : Order} {x : Result o} (step : Step v s (.returned c o x) s')
    (numbered : s.Numbered) : s'.Ended c := by
  cases step with
  | returned found => exact ⟨Function.update_self _ _ _, numbered.lt found⟩

/-- A call that has returned takes no more steps. -/
theorem Step.call_ne (step : Step v s e s') {c : Nat} (ended : s.Ended c) :
    e.call ≠ c ∧ s'.Ended c := by
  obtain ⟨none, old⟩ := ended
  have hne : e.call ≠ c := by
    cases step with
    | begun o =>
      intro (h : s.begun = c)
      omega
    | asked found => rintro rfl; rw [Event.call, found] at none; cases none
    | returned found => rintro rfl; rw [Event.call, found] at none; cases none
  exact ⟨hne, by rw [step.flights_of_ne hne, none], Nat.lt_of_lt_of_le old step.begun_le⟩

theorem Step.eq_begun {c : Nat} {o : Order} (step : Step v s (.begun c o) s') : c = s.begun := by
  cases step
  rfl

theorem Step.flights_begun {c : Nat} {o : Order} (step : Step v s (.begun c o) s') :
    s'.flights c = some ⟨o, v.program o⟩ ∧ c < s'.begun := by
  cases step
  exact ⟨Function.update_self _ _ _, Nat.lt_succ_self _⟩

theorem Step.world_of_begun {c : Nat} {o : Order} (step : Step v s (.begun c o) s') :
    s'.world = s.world := by
  cases step
  rfl

/-- A call keeps its order from its beginning on. -/
theorem Step.flight_cases (step : Step v s e s') {c : Nat}
    {f : Flight Request Answer Order Result} (found : s'.flights c = some f) :
    (∃ g, s.flights c = some g ∧ g.order = f.order) ∨ e = .begun c f.order := by
  by_cases own : e.call = c
  · cases step with
    | begun o =>
      obtain rfl : s.begun = c := own
      have same := (Function.update_self ..).symm.trans found
      cases same
      exact .inr rfl
    | @asked d m o r k before =>
      obtain rfl : d = c := own
      have same := (Function.update_self ..).symm.trans found
      cases same
      exact .inl ⟨_, before, rfl⟩
    | @returned d o x before =>
      obtain rfl : d = c := own
      have none := (Function.update_self ..).symm.trans found
      cases none
  · rw [step.flights_of_ne own] at found
    exact .inl ⟨f, found, rfl⟩

theorem Step.flight_of_asked {c : Nat} {m : Moment} {r : Request} {x : Answer r}
    (step : Step v s (.asked c m r x) s') :
    ∃ o k, s.flights c = some ⟨o, Program.ask r k⟩ := by
  cases step with
  | asked found => exact ⟨_, _, found⟩

theorem Step.flight_after_asked {c : Nat} {m : Moment} {r : Request} {x : Answer r}
    (step : Step v s (.asked c m r x) s') : ∃ f, s'.flights c = some f := by
  cases step with
  | asked found => exact ⟨_, Function.update_self ..⟩

theorem Step.flight_of_returned {c : Nat} {o : Order} {x : Result o}
    (step : Step v s (.returned c o x) s') : s.flights c = some ⟨o, .done x⟩ := by
  cases step with
  | returned found => exact found

/-- A call comes to its end only by returning. -/
theorem Step.returned_of_flight (step : Step v s e s') {c : Nat}
    {f : Flight Request Answer Order Result} (found : s.flights c = some f)
    (none : s'.flights c = none) : ∃ o x, e = .returned c o x := by
  by_cases own : e.call = c
  · cases step with
    | begun o =>
      obtain rfl : s.begun = c := own
      cases (Function.update_self ..).symm.trans none
    | @asked d m o r k before =>
      obtain rfl : d = c := own
      cases (Function.update_self ..).symm.trans none
    | @returned d o x before =>
      obtain rfl : d = c := own
      exact ⟨o, x, rfl⟩
  · rw [step.flights_of_ne own, found] at none
    cases none

/-- The world gave the answer that is seen. -/
theorem Step.answer_eq {c : Nat} {m : Moment} {r : Request} {x : Answer r}
    (step : Step v s (.asked c m r x) s') :
    x = (v.serve m r s.world).1 ∧ s'.world = (v.serve m r s.world).2 := by
  cases step with
  | asked found => exact ⟨rfl, rfl⟩

/-! ## Runs -/

/-- A run is the list of its steps. -/
inductive Run (v : Service Request Answer Order Result World Moment)
    (s : State Request Answer Order Result World) :
    List (Transition Request Answer Order Result World Moment) →
      State Request Answer Order Result World → Prop
  | start : Run v s [] s
  | snoc {ts : List (Transition Request Answer Order Result World Moment)}
      {s' s'' : State Request Answer Order Result World}
      {e : Event Request Answer Order Result Moment}
      (run : Run v s ts s') (step : Step v s' e s'') : Run v s (ts ++ [⟨s', e, s''⟩]) s''

namespace Run

theorem append (first : Run v s ts s') (second : Run v s' us s'') : Run v s (ts ++ us) s'' := by
  induction second with
  | start => simpa using first
  | snoc _ step ih => simpa [List.append_assoc] using ih.snoc step

/-- A run can be cut anywhere. -/
theorem split (run : Run v s (ts ++ us) s'') : ∃ s', Run v s ts s' ∧ Run v s' us s'' := by
  -- A run grows at its end, so the second part is taken down from there.
  induction us using List.reverseRecOn generalizing s'' with
  | nil => exact ⟨s'', by simpa using run, .start⟩
  | append_singleton us t ih =>
    rw [← List.append_assoc] at run
    generalize hall : ts ++ us ++ [t] = all at run
    cases run with
    | start => simp at hall
    | snoc run step =>
      obtain ⟨rfl, ht⟩ := List.append_inj' hall rfl
      obtain ⟨mid, first, second⟩ := ih run
      simp only [List.cons.injEq, and_true] at ht
      subst ht
      exact ⟨mid, first, second.snoc step⟩

theorem eq_of_nil (run : Run v s [] s') : s' = s := by
  generalize hts : [] = ts at run
  cases run with
  | start => rfl
  | snoc _ _ => simp at hts

theorem step_of_singleton (run : Run v s [t] s') :
    t.before = s ∧ t.after = s' ∧ Step v t.before t.event t.after := by
  generalize hts : [t] = ts at run
  cases run with
  | start => cases hts
  | snoc none step =>
    obtain ⟨rfl, ht⟩ := List.append_inj' ((List.nil_append [t]).trans hts) rfl
    simp only [List.cons.injEq, and_true] at ht
    subst ht
    exact ⟨none.eq_of_nil, rfl, step⟩

/-- A run as seen from one of its steps. -/
theorem mid (run : Run v s (ts ++ t :: us) s') :
    Run v s ts t.before ∧ Step v t.before t.event t.after ∧ Run v t.after us s' := by
  rw [← List.singleton_append] at run
  obtain ⟨a, first, run⟩ := run.split
  obtain ⟨b, one, rest⟩ := run.split
  obtain ⟨rfl, rfl, step⟩ := one.step_of_singleton
  exact ⟨first, step, rest⟩

/-- What is left of a run, from one of its steps on. -/
theorem tail (run : Run v s (ts ++ t :: us) s') : Run v t.before (t :: us) s' := by
  obtain ⟨_, step, rest⟩ := run.mid
  exact (Run.start.snoc step).append rest

/-- A run up to one of its steps, and that step. -/
theorem step_of_prefix (run : Run v s ts s') (cut : us ++ [t] <+: ts) :
    Run v s us t.before ∧ Step v t.before t.event t.after := by
  obtain ⟨rest, rfl⟩ := cut
  rw [List.append_assoc] at run
  obtain ⟨before, step, _⟩ := run.mid
  exact ⟨before, step⟩

theorem step_of_mem (run : Run v s ts s') (h : t ∈ ts) : Step v t.before t.event t.after := by
  obtain ⟨a, b, rfl⟩ := List.append_of_mem h
  exact run.mid.2.1

/-- What a step preserves, a run preserves. -/
theorem invariant {P : State Request Answer Order Result World → Prop}
    (keeps : ∀ {a e b}, Step v a e b → P a → P b) (run : Run v s ts s') (h : P s) : P s' := by
  induction run with
  | start => exact h
  | snoc _ step ih => exact keeps step ih

theorem numbered (run : Run v s ts s') (h : s.Numbered) : s'.Numbered :=
  run.invariant Step.numbered h

/-- What each step of a run leaves so is so after each of them. -/
theorem always {P : World → Prop} (run : Run v s ts s')
    (keeps : ∀ t ∈ ts, Step v t.before t.event t.after → P t.before.world → P t.after.world)
    (h : P s.world) : (∀ t ∈ ts, P t.after.world) ∧ P s'.world := by
  induction run with
  | start => exact ⟨by simp, h⟩
  | @snoc ts a b e _ step ih =>
    obtain ⟨earlier, before⟩ := ih fun t ht => keeps t (List.mem_append_left _ ht)
    have now : P b.world := keeps ⟨a, e, b⟩ (by simp) step before
    refine ⟨fun t ht => ?_, now⟩
    rcases List.mem_append.mp ht with ht | ht
    · exact earlier t ht
    · rw [List.mem_singleton.mp ht]
      exact now

/-- What is not so at the start and is so at the end was made so by some step, and has stayed so. -/
theorem exists_turn {P : World → Prop} (run : Run v s ts s') (before : ¬ P s.world)
    (after : P s'.world) :
    ∃ a t b, ts = a ++ t :: b ∧ ¬ P t.before.world ∧ ∀ u ∈ t :: b, P u.after.world := by
  induction run with
  | start => exact absurd after before
  | @snoc ts a b e run step ih =>
    by_cases earlier : P a.world
    · obtain ⟨p, t, q, rfl, off, on⟩ := ih earlier
      refine ⟨p, t, q ++ [⟨a, e, b⟩], by simp, off, fun u hu => ?_⟩
      rw [← List.cons_append, List.mem_append, List.mem_singleton] at hu
      rcases hu with hu | rfl
      · exact on u hu
      · exact after
    · exact ⟨ts, ⟨a, e, b⟩, [], rfl, earlier, by simpa using after⟩

/-- After a call has returned there is nothing more of it. -/
theorem call_ne (run : Run v s ts s') {c : Nat} (ended : s.Ended c) :
    (∀ t ∈ ts, t.event.call ≠ c) ∧ s'.Ended c := by
  induction run with
  | start => exact ⟨by simp, ended⟩
  | snoc _ step ih =>
    obtain ⟨earlier, ended⟩ := ih
    obtain ⟨hne, ended'⟩ := step.call_ne ended
    refine ⟨fun t ht => ?_, ended'⟩
    rcases List.mem_append.mp ht with ht | ht
    · exact earlier t ht
    · rw [List.mem_singleton.mp ht]
      exact hne

/-- A call that returns in a run has ended when the run has. -/
theorem ended (run : Run v s ts s') (numbered : s.Numbered) {c : Nat} {o : Order} {x : Result o}
    (h : t ∈ ts) (he : t.event = .returned c o x) : s'.Ended c := by
  obtain ⟨a, b, rfl⟩ := List.append_of_mem h
  obtain ⟨first, step, rest⟩ := run.mid
  -- It has ended right after that step, and nothing of it comes back.
  rw [he] at step
  exact (rest.call_ne (step.ended (first.numbered numbered))).2

theorem begun_le (run : Run v s ts s') : s.begun ≤ s'.begun := by
  induction run with
  | start => exact Nat.le_refl _
  | snoc _ step ih => exact Nat.le_trans ih step.begun_le

/-- A call that is under way has begun in the run if it was not under way before. -/
theorem begun_of_flight (run : Run v s ts s') (idle : s.Idle) {c : Nat}
    {f : Flight Request Answer Order Result} (found : s'.flights c = some f) :
    ∃ u ∈ ts, u.event = .begun c f.order := by
  induction run generalizing f with
  | start =>
    rw [idle c] at found
    cases found
  | @snoc ts a b e run step ih =>
    rcases step.flight_cases found with ⟨g, before, same⟩ | begun
    · obtain ⟨u, hu, begun⟩ := ih before
      exact ⟨u, List.mem_append_left _ hu, same ▸ begun⟩
    · exact ⟨⟨a, e, b⟩, by simp, begun⟩

theorem begun_of_returned (run : Run v s ts s') (idle : s.Idle) {c : Nat} {o : Order}
    {x : Result o} (h : t ∈ ts) (returned : t.event = .returned c o x) :
    ∃ u ∈ ts, u.event = .begun c o := by
  obtain ⟨a, b, rfl⟩ := List.append_of_mem h
  obtain ⟨before, step, _⟩ := run.mid
  rw [returned] at step
  obtain ⟨u, hu, begun⟩ := before.begun_of_flight idle step.flight_of_returned
  exact ⟨u, List.mem_append_left _ hu, begun⟩

/-- A call that is under way at the start and not at the end has returned. -/
theorem returned_of_flight (run : Run v s ts s') {c : Nat}
    {f : Flight Request Answer Order Result} (found : s.flights c = some f)
    (none : s'.flights c = none) : ∃ t ∈ ts, ∃ o x, t.event = .returned c o x := by
  induction run with
  | start =>
    rw [found] at none
    cases none
  | @snoc ts a b e run step ih =>
    cases before : a.flights c with
    | none =>
      obtain ⟨t, ht, returned⟩ := ih before
      exact ⟨t, List.mem_append_left _ ht, returned⟩
    | some g => exact ⟨⟨a, e, b⟩, by simp, step.returned_of_flight before none⟩

/-- A call that takes no steps stays where it is. -/
theorem flights_of_ne (run : Run v s ts s') {c : Nat} (h : ∀ t ∈ ts, t.event.call ≠ c) :
    s'.flights c = s.flights c := by
  induction run with
  | start => rfl
  | @snoc ts a b e _ step ih =>
    rw [step.flights_of_ne (h ⟨a, e, b⟩ (by simp)), ih fun t ht => h t (by simp [ht])]

/-- No call has taken a step that has not begun. -/
theorem call_lt (run : Run v s ts s') (numbered : s.Numbered) :
    ∀ t ∈ ts, t.event.call < s'.begun := by
  induction run with
  | start => simp
  | snoc run step ih =>
    intro t ht
    rcases List.mem_append.mp ht with ht | ht
    · exact Nat.lt_of_lt_of_le (ih t ht) step.begun_le
    · rw [List.mem_singleton.mp ht]
      exact step.call_lt (run.numbered numbered)

/-- A call begins with its first step. -/
theorem mem_of_begun {u : Transition Request Answer Order Result World Moment} {c : Nat} {o : Order}
    (run : Run v s (ts ++ u :: us) s') (numbered : s.Numbered) (begun : u.event = .begun c o)
    (h : t ∈ ts ++ u :: us) (own : t.event.call = c) (later : ∀ o', t.event ≠ .begun c o') :
    t ∈ us := by
  obtain ⟨first, start, _⟩ := run.mid
  rw [begun] at start
  rcases List.mem_append.mp h with early | late
  · have earlier := first.call_lt numbered t early
    rw [own, start.eq_begun] at earlier
    exact absurd earlier (Nat.lt_irrefl _)
  · rcases List.mem_cons.mp late with same | late
    · rw [same] at later
      exact absurd begun (later o)
    · exact late

/-- A call has one order. -/
theorem order_eq {u : Transition Request Answer Order Result World Moment} {c : Nat} {o o' : Order}
    (run : Run v s ts s') (numbered : s.Numbered) (ht : t ∈ ts) (hu : u ∈ ts)
    (begun : t.event = .begun c o) (begun' : u.event = .begun c o') : o = o' := by
  induction run with
  | start => cases ht
  | @snoc ts a b e run step ih =>
    -- No call that has taken a step begins with the last one.
    have new {w : Transition Request Answer Order Result World Moment} {q q' : Order} (hw : w ∈ ts)
        (early : w.event = .begun c q) (last : e = .begun c q') : False := by
      have earlier := run.call_lt numbered w hw
      rw [last] at step
      rw [early, ← step.eq_begun] at earlier
      exact Nat.lt_irrefl _ earlier
    rcases List.mem_append.mp ht with ht | ht
    · rcases List.mem_append.mp hu with hu | hu
      · exact ih ht hu
      · rw [List.mem_singleton.mp hu] at begun'
        exact (new ht begun begun').elim
    · rw [List.mem_singleton.mp ht] at begun
      rcases List.mem_append.mp hu with hu | hu
      · exact (new hu begun' begun).elim
      · rw [List.mem_singleton.mp hu] at begun'
        cases begun.symm.trans begun'
        rfl

/-- The world gave every answer that is seen. -/
theorem answer_eq (run : Run v s ts s') {c : Nat} {m : Moment} {r : Request} {x : Answer r}
    (h : t ∈ ts) (asked : t.event = .asked c m r x) : ∃ w, x = (v.serve m r w).1 := by
  have step := run.step_of_mem h
  rw [asked] at step
  exact ⟨_, step.answer_eq.1⟩

end Run

/-! ## Schedules -/

/-- The steps that some choices make one after the other, if there are such steps. -/
def State.play? (v : Service Request Answer Order Result World Moment) :
    List (Choice Order Moment) → State Request Answer Order Result World →
      Option (List (Transition Request Answer Order Result World Moment) ×
        State Request Answer Order Result World)
  | [], s => some ([], s)
  | choice :: rest, s => do
    let (e, s') ← s.next? v choice
    let (ts, s'') ← s'.play? v rest
    return (⟨s, e, s'⟩ :: ts, s'')

theorem Run.of_play? {choices : List (Choice Order Moment)}
    (h : s.play? v choices = some (ts, s')) : Run v s ts s' := by
  induction choices generalizing s ts with
  | nil =>
    cases h
    exact .start
  | cons choice rest ih =>
    obtain ⟨⟨e, mid⟩, next, h⟩ := Option.bind_eq_some_iff.mp h
    obtain ⟨⟨us, last⟩, played, h⟩ := Option.bind_eq_some_iff.mp h
    cases h
    exact (Run.start.snoc (Step.of_next? next)).append (ih played)

theorem length_of_play? {choices : List (Choice Order Moment)}
    (h : s.play? v choices = some (ts, s')) : ts.length = choices.length := by
  induction choices generalizing s ts with
  | nil =>
    cases h
    rfl
  | cons choice rest ih =>
    obtain ⟨⟨e, mid⟩, _, h⟩ := Option.bind_eq_some_iff.mp h
    obtain ⟨⟨us, last⟩, played, h⟩ := Option.bind_eq_some_iff.mp h
    cases h
    exact congrArg Nat.succ (ih played)

/-- The beginning of a call, or its return with a result. -/
abbrev Mark (Order : Type) (Result : Order → Type) := Nat × (Order ⊕ (o : Order) × Result o)

def Mark.event : Mark Order Result → Event Request Answer Order Result Moment
  | (c, .inl o) => .begun c o
  | (c, .inr ⟨o, x⟩) => .returned c o x

def Event.mark? : Event Request Answer Order Result Moment → Option (Mark Order Result)
  | .begun c o => some (c, .inl o)
  | .asked _ _ _ _ => none
  | .returned c o x => some (c, .inr ⟨o, x⟩)

/-- The beginnings and the returns of calls, in order. -/
def marks (ts : List (Transition Request Answer Order Result World Moment)) :
    List (Mark Order Result) :=
  (ts.map (·.event)).filterMap Event.mark?

theorem event_of_mark? {k : Mark Order Result} (h : e.mark? = some k) : Mark.event k = e := by
  cases e with
  | begun c o =>
    cases h
    rfl
  | asked _ _ _ _ => cases h
  | returned c o x =>
    cases h
    rfl

theorem marks_sublist : ((marks ts).map Mark.event).Sublist (ts.map (·.event)) := by
  induction ts with
  | nil => exact .slnil
  | cons t ts ih =>
    cases h : t.event.mark? with
    | none =>
      rw [marks, List.map_cons, List.filterMap_cons_none h]
      exact ih.cons _
    | some k =>
      rw [marks, List.map_cons, List.filterMap_cons_some h, List.map_cons, event_of_mark? h]
      exact ih.cons_cons _

theorem mem_of_mem_marks {k : Mark Order Result} (h : k ∈ marks ts) :
    ∃ t ∈ ts, t.event = Mark.event k := by
  obtain ⟨t, ht, same⟩ := List.mem_map.mp (marks_sublist.mem (List.mem_map_of_mem h))
  exact ⟨t, ht, same⟩

/-- The orders of the calls that have begun. -/
def orders (ts : List (Transition Request Answer Order Result World Moment)) : List Order :=
  ts.filterMap fun t =>
    match t.event with
    | .begun _ o => some o
    | _ => none

theorem mem_orders {c : Nat} {o : Order} (h : t ∈ ts) (begun : t.event = .begun c o) :
    o ∈ orders ts := by
  apply List.mem_filterMap.mpr
  exact ⟨t, h, by rw [begun]⟩

/-! ## The world along a run -/

/-- The world after some steps. -/
def worldAfter (w : World) (ts : List (Transition Request Answer Order Result World Moment)) :
    World :=
  (ts.getLast?.map (·.after.world)).getD w

@[simp] theorem worldAfter_snoc (w : World) : worldAfter w (ts ++ [t]) = t.after.world := by
  simp [worldAfter]

theorem Run.worldAfter_eq (run : Run v s ts s') : worldAfter s.world ts = s'.world := by
  cases run with
  | start => rfl
  | snoc _ _ => simp

/-- The world at the end is that after the last step. -/
theorem Run.exists_world_eq (run : Run v s (ts ++ t :: us) s') :
    ∃ u ∈ t :: us, s'.world = u.after.world := by
  obtain ⟨_, _, rest⟩ := run.mid
  cases us using List.reverseRecOn with
  | nil => exact ⟨t, by simp, congrArg State.world rest.eq_of_nil⟩
  | append_singleton us u =>
    have last := rest.worldAfter_eq
    rw [worldAfter_snoc] at last
    exact ⟨u, by simp, last.symm⟩

/-! ## Brief calls -/

/-- No call is under way for as many steps of a kind as a machine word has values. Of what kind the
steps are may depend on the order of the call. -/
def Brief (kind : Order → Event Request Answer Order Result Moment → Bool)
    (ts : List (Transition Request Answer Order Result World Moment)) : Prop :=
  ∀ a u b t d o, ts = a ++ u :: (b ++ t :: d) → u.event = .begun t.event.call o →
    b.countP (fun v => kind o v.event) < UInt64.size

section Brief

variable {kind : Order → Event Request Answer Order Result Moment → Bool}

theorem Brief.of_append (h : Brief kind (ts ++ us)) : Brief kind ts := by
  intro a u b t d o parts
  refine h a u b t (d ++ us) o ?_
  simp [parts]

/-- A short run has brief calls only. -/
theorem Brief.of_length_lt (short : ts.length < UInt64.size) : Brief kind ts := by
  rintro a u b t d o rfl _
  refine Nat.lt_of_le_of_lt (Nat.le_trans List.countP_le_length ?_) short
  simp only [List.length_append, List.length_cons]
  omega

theorem Brief.of_play? {choices : List (Choice Order Moment)}
    (h : s.play? v choices = some (ts, s')) (short : choices.length < UInt64.size) :
    Brief kind ts :=
  .of_length_lt (length_of_play? h ▸ short)

theorem Brief.of_plays {choices choices' : List (Choice Order Moment)}
    (first : s.play? v choices = some (ts, s')) (second : s'.play? v choices' = some (us, s''))
    (short : choices.length + choices'.length < UInt64.size) : Brief kind (ts ++ us) := by
  refine .of_length_lt ?_
  rwa [List.length_append, length_of_play? first, length_of_play? second]

end Brief

/-! ## Order of events -/

/-- The first of some events in order, and the others behind it. -/
theorem cons_sublist_events {es : List (Event Request Answer Order Result Moment)}
    (h : (e :: es).Sublist (ts.map (·.event))) :
    ∃ a t b, ts = a ++ t :: b ∧ t.event = e ∧ es.Sublist (b.map (·.event)) := by
  induction ts with
  | nil => cases h
  | cons u ts ih =>
    cases h with
    | cons _ h =>
      obtain ⟨a, t, b, rfl, he, hes⟩ := ih h
      exact ⟨u :: a, t, b, rfl, he, hes⟩
    | cons_cons _ h => exact ⟨[], u, ts, rfl, rfl, h⟩

/-- One step in front of others. -/
theorem sublist_cons_events {a b : List (Transition Request Answer Order Result World Moment)}
    {es : List (Event Request Answer Order Result Moment)} (h : es.Sublist (b.map (·.event))) :
    (t.event :: es).Sublist ((a ++ t :: b).map (·.event)) := by
  simp only [List.map_append, List.map_cons]
  apply List.sublist_append_of_sublist_right
  exact h.cons_cons _

theorem sublist_events {a b : List (Transition Request Answer Order Result World Moment)}
    {u : Transition Request Answer Order Result World Moment} :
    [t.event, u.event].Sublist ((a ++ t :: (b ++ [u])).map (·.event)) := by
  simp only [List.map_append, List.map_cons, List.map_nil]
  refine List.sublist_append_of_sublist_right (.cons_cons _ ?_)
  exact List.sublist_append_right _ _

end Service
end SessionKit
