import SessionKit.Proofs.Interleaving
import Mathlib.Algebra.BigOperators.Group.Finset.Piecewise
import Mathlib.Algebra.Order.BigOperators.Group.Finset
import Mathlib.Algebra.Order.BigOperators.Group.List
import Mathlib.Algebra.Ring.Nat

/-!
# Accounts

What the steps of a run come to in sum. A size of the world changes by what is gained and by what is
lost. And where each call is charged when it returns, for something that one of its own steps has
lost, all calls together are charged no more than all that was lost, since a call returns once. And
where each call has a price that its requests come to in the end, all requests of a run come to the
prices of its calls, less what the calls that are under way still owe.
-/

namespace SessionKit

/-- A sum over a list as the sum over its parts with one key each. -/
theorem sum_map_eq_sum_filter {α : Type} (key : α → Nat) (f : α → Nat) {n : Nat} {l : List α}
    (bound : ∀ a ∈ l, key a < n) :
    (l.map f).sum = ∑ c ∈ Finset.range n, ((l.filter fun a => key a = c).map f).sum := by
  induction l with
  | nil => simp
  | cons a l ih =>
    have part (c : Nat) : (((a :: l).filter fun a => key a = c).map f).sum =
        (if key a = c then f a else 0) + ((l.filter fun a => key a = c).map f).sum := by
      by_cases own : key a = c
      · simp [own]
      · simp [own]
    have first := bound a List.mem_cons_self
    rw [List.map_cons, List.sum_cons, ih fun b hb => bound b (List.mem_cons_of_mem a hb)]
    simp only [part, Finset.sum_add_distrib, Finset.sum_ite_eq, Finset.mem_range, first, if_true]

namespace Service

variable {Request : Type} {Answer : Request → Type} {Order : Type} {Result : Order → Type}
  {World Moment : Type} {v : Service Request Answer Order Result World Moment}
  {s s' : State Request Answer Order Result World}
  {ts : List (Transition Request Answer Order Result World Moment)}
  {f g : Transition Request Answer Order Result World Moment → Nat}

/-- What some steps come to. -/
def total (f : Transition Request Answer Order Result World Moment → Nat)
    (ts : List (Transition Request Answer Order Result World Moment)) : Nat := (ts.map f).sum

@[simp] theorem total_nil : total f [] = 0 := rfl

@[simp] theorem total_append {us : List (Transition Request Answer Order Result World Moment)} :
    total f (ts ++ us) = total f ts + total f us := by
  simp [total]

@[simp] theorem total_cons {t : Transition Request Answer Order Result World Moment} :
    total f (t :: ts) = f t + total f ts := by
  simp [total]

theorem total_eq_zero (h : ∀ t ∈ ts, f t = 0) : total f ts = 0 := by
  unfold total
  apply List.sum_eq_zero
  intro n hn
  obtain ⟨t, ht, rfl⟩ := List.mem_map.mp hn
  exact h t ht

theorem le_total_of_mem {t : Transition Request Answer Order Result World Moment} (h : t ∈ ts) :
    f t ≤ total f ts := by
  unfold total
  exact List.single_le_sum (fun _ _ => Nat.zero_le _) _ (List.mem_map_of_mem h)

/-! ## Sizes -/

/-- By how much a step makes the world smaller. -/
def lost (size : World → Nat) (t : Transition Request Answer Order Result World Moment) : Nat :=
  size t.before.world - size t.after.world

/-- By how much a step makes the world larger. -/
def gained (size : World → Nat) (t : Transition Request Answer Order Result World Moment) : Nat :=
  size t.after.world - size t.before.world

/-- What is there at the end, with what was lost, is what was there before, with what was gained. -/
theorem Run.size_add_lost (run : Run v s ts s') (size : World → Nat) :
    size s'.world + total (lost size) ts = size s.world + total (gained size) ts := by
  induction run with
  | start => simp
  | @snoc ts a b e run step ih =>
    simp only [total_append, total_cons, total_nil, lost, gained]
    omega

/-! ## Charges -/

/-- What a call is charged with a step: something when it returns, and nothing before. -/
def charged (charge : (o : Order) → Result o → Nat)
    (t : Transition Request Answer Order Result World Moment) : Nat :=
  match t.event with
  | .returned _ o x => charge o x
  | _ => 0

/-- The steps of one call. -/
def stepsOf (c : Nat) (ts : List (Transition Request Answer Order Result World Moment)) :
    List (Transition Request Answer Order Result World Moment) :=
  ts.filter fun t => t.event.call = c

theorem mem_stepsOf {c : Nat} {t : Transition Request Answer Order Result World Moment} :
    t ∈ stepsOf c ts ↔ t ∈ ts ∧ t.event.call = c := by
  simp [stepsOf]

theorem stepsOf_eq_nil {c : Nat} (h : ∀ t ∈ ts, t.event.call ≠ c) : stepsOf c ts = [] := by
  unfold stepsOf
  apply List.filter_eq_nil_iff.mpr
  intro t ht
  simpa using h t ht

/-- What holds of the steps of each call holds of all. -/
theorem Run.total_le_of_calls (run : Run v s ts s') (numbered : s.Numbered)
    (h : ∀ c, total f (stepsOf c ts) ≤ total g (stepsOf c ts)) : total f ts ≤ total g ts := by
  have bound := run.call_lt numbered
  unfold total
  rw [sum_map_eq_sum_filter (fun t => t.event.call) f bound,
    sum_map_eq_sum_filter (fun t => t.event.call) g bound]
  exact Finset.sum_le_sum fun c _ => h c

/-- A call returns with the last of its steps, and only with this one. -/
theorem Run.charged_stepsOf (run : Run v s ts s') (numbered : s.Numbered)
    {charge : (o : Order) → Result o → Nat} {c : Nat} {o : Order} {x : Result o}
    {t : Transition Request Answer Order Result World Moment} (h : t ∈ ts)
    (returned : t.event = .returned c o x) :
    total (charged charge) (stepsOf c ts) = charge o x := by
  obtain ⟨a, b, rfl⟩ := List.append_of_mem h
  obtain ⟨first, step, rest⟩ := run.mid
  have earlier : total (charged charge) (stepsOf c a) = 0 := by
    apply total_eq_zero
    intro u hu
    obtain ⟨mem, own⟩ := mem_stepsOf.mp hu
    unfold charged
    cases event : u.event with
    | returned d o' y =>
      -- Had the call returned before, there would be no step of it left.
      rw [event] at own
      obtain rfl : d = c := own
      have ended := first.ended numbered mem event
      have other := (step.call_ne ended).1
      rw [returned] at other
      exact absurd rfl other
    | _ => rfl
  have later : stepsOf c b = [] := by
    rw [returned] at step
    exact stepsOf_eq_nil (rest.call_ne (step.ended (first.numbered numbered))).1
  have own : stepsOf c (a ++ t :: b) = stepsOf c a ++ t :: stepsOf c b := by
    simp [stepsOf, returned, Event.call]
  rw [own, later]
  simp [earlier, charged, returned]

/-- When each return is covered by a step of its call, all returns are covered by all steps. -/
theorem Run.total_charged_le (run : Run v s ts s') (numbered : s.Numbered)
    {charge : (o : Order) → Result o → Nat}
    (covered : ∀ t ∈ ts, ∀ c o x, t.event = .returned c o x →
      charge o x = 0 ∨ ∃ u ∈ ts, u.event.call = c ∧ charge o x ≤ f u) :
    total (charged charge) ts ≤ total f ts := by
  refine run.total_le_of_calls numbered fun c => ?_
  by_cases returns : ∃ t ∈ ts, ∃ o x, t.event = .returned c o x
  · obtain ⟨t, ht, o, x, returned⟩ := returns
    rw [run.charged_stepsOf numbered ht returned]
    rcases covered t ht c o x returned with nothing | ⟨u, hu, own, enough⟩
    · rw [nothing]
      exact Nat.zero_le _
    · exact Nat.le_trans enough (le_total_of_mem (mem_stepsOf.mpr ⟨hu, own⟩))
  · rw [total_eq_zero]
    · exact Nat.zero_le _
    · intro t ht
      obtain ⟨mem, own⟩ := mem_stepsOf.mp ht
      unfold charged
      cases event : t.event with
      | returned d o x =>
        rw [event] at own
        obtain rfl : d = c := own
        exact absurd ⟨t, mem, o, x, event⟩ returns
      | _ => rfl

end Service

/-! ## Prices -/

/-- Whatever the answers are, the requests of a program come to this sum. -/
def Program.Costs {Request : Type} {Answer : Request → Type} {α : Type} (cost : Request → Nat) :
    Program Request Answer α → Nat → Prop
  | .done _, n => n = 0
  | .ask r next, n => ∃ rest, n = cost r + rest ∧ ∀ x, (next x).Costs cost rest

namespace Service

variable {Request : Type} {Answer : Request → Type} {Order : Type} {Result : Order → Type}
  {World Moment : Type} {v : Service Request Answer Order Result World Moment}
  {s s' : State Request Answer Order Result World}
  {ts : List (Transition Request Answer Order Result World Moment)}
  {cost : Request → Nat} {price : Order → Nat}

/-- What the request of a step costs. -/
def spent (cost : Request → Nat) (t : Transition Request Answer Order Result World Moment) : Nat :=
  match t.event with
  | .asked _ _ r _ => cost r
  | _ => 0

/-- What a call still owes: what its remaining requests come to, and no more than its price. -/
def Due (cost : Request → Nat) (price : Order → Nat) :
    Option (Flight Request Answer Order Result) → Nat → Prop
  | none, n => n = 0
  | some f, n => f.rest.Costs cost n ∧ n ≤ price f.order

theorem due_update {flights : Nat → Option (Flight Request Answer Order Result)} {owed : Nat → Nat}
    {f : Option (Flight Request Answer Order Result)} {n : Nat} (c : Nat)
    (due : ∀ c, Due cost price (flights c) (owed c)) (new : Due cost price f n) (d : Nat) :
    Due cost price (Function.update flights c f d) (Function.update owed c n d) := by
  by_cases own : d = c
  · rw [own, Function.update_self, Function.update_self]
    exact new
  · rw [Function.update_of_ne own, Function.update_of_ne own]
    exact due d

theorem sum_update {f : Nat → Nat} {n c m : Nat} (h : c < n) :
    ∑ i ∈ Finset.range n, Function.update f c m i + f c = ∑ i ∈ Finset.range n, f i + m := by
  have mem := Finset.mem_range.mpr h
  have all := Finset.add_sum_erase (Finset.range n) f mem
  rw [Finset.sum_update_of_mem mem, Finset.sdiff_singleton_eq_erase]
  omega

/-- The price of a call, when it begins. -/
def priced (price : Order → Nat) (t : Transition Request Answer Order Result World Moment) : Nat :=
  match t.event with
  | .begun _ o => price o
  | _ => 0

theorem total_priced (price : Order → Nat)
    (ts : List (Transition Request Answer Order Result World Moment)) :
    total (priced price) ts = ((orders ts).map price).sum := by
  induction ts with
  | nil => rfl
  | cons t ts ih =>
    obtain ⟨before, event, after⟩ := t
    rw [total_cons, ih]
    cases event with
    | begun c o => rfl
    | asked c m r x => exact Nat.zero_add _
    | returned c o x => exact Nat.zero_add _

/-- What has been spent and what is owed come to the prices of the calls that have begun. -/
theorem Run.exists_owed (run : Run v s ts s') (idle : s.Idle) (numbered : s.Numbered)
    (prices : ∀ o, (v.program o).Costs cost (price o)) :
    ∃ owed : Nat → Nat, (∀ c, Due cost price (s'.flights c) (owed c)) ∧
      total (spent cost) ts + ∑ c ∈ Finset.range s'.begun, owed c = total (priced price) ts := by
  induction run with
  | start =>
    refine ⟨fun _ => 0, fun c => ?_, by simp⟩
    rw [idle c]
    rfl
  | @snoc ts a b e run step ih =>
    obtain ⟨owed, due, sum⟩ := ih
    simp only [total_append, total_cons, total_nil, ← sum]
    cases step with
    | begun o =>
      -- The call owes its price.
      refine ⟨_, due_update a.begun due ⟨prices o, Nat.le_refl _⟩, ?_⟩
      simp only [spent, priced, Finset.sum_range_succ, Function.update_self,
        Finset.sum_update_of_notMem Finset.notMem_range_self]
      omega
    | @asked c m o r next found =>
      have own := due c
      rw [found] at own
      obtain ⟨⟨rest, costs, later⟩, bound⟩ := own
      have less : rest ≤ owed c := costs ▸ Nat.le_add_left rest (cost r)
      refine ⟨_, due_update c due ⟨later _, Nat.le_trans less bound⟩, ?_⟩
      have paid := sum_update (f := owed) (m := rest) ((run.numbered numbered).lt found)
      simp only [spent, priced]
      omega
    | @returned c o x found =>
      have own := due c
      rw [found] at own
      have nothing : owed c = 0 := own.1
      refine ⟨_, due_update c due (f := none) (n := 0) rfl, ?_⟩
      have paid := sum_update (f := owed) (m := 0) ((run.numbered numbered).lt found)
      simp only [spent, priced]
      omega

/-- No more is spent than the prices of the calls that have begun. -/
theorem Run.total_spent_le (run : Run v s ts s') (idle : s.Idle) (numbered : s.Numbered)
    (prices : ∀ o, (v.program o).Costs cost (price o)) :
    total (spent cost) ts ≤ ((orders ts).map price).sum := by
  obtain ⟨owed, _, sum⟩ := run.exists_owed idle numbered prices
  rw [total_priced] at sum
  exact Nat.le.intro sum

/-- When no call is under way that has a price, all prices have been paid. -/
theorem Run.total_spent_eq (run : Run v s ts s') (idle : s.Idle) (numbered : s.Numbered)
    (prices : ∀ o, (v.program o).Costs cost (price o))
    (free : ∀ c f, s'.flights c = some f → price f.order = 0) :
    total (spent cost) ts = ((orders ts).map price).sum := by
  obtain ⟨owed, due, sum⟩ := run.exists_owed idle numbered prices
  have nothing (c : Nat) : owed c = 0 := by
    have own := due c
    cases found : s'.flights c with
    | none => rwa [found] at own
    | some f =>
      rw [found] at own
      exact Nat.eq_zero_of_le_zero (free c f found ▸ own.2)
  rw [total_priced, Finset.sum_eq_zero fun c _ => nothing c] at sum
  exact sum

theorem Run.length_orders (run : Run v s ts s') : s.begun + (orders ts).length = s'.begun := by
  induction run with
  | start => rfl
  | snoc _ step ih =>
    rw [orders, List.filterMap_append, List.length_append, ← Nat.add_assoc]
    rw [orders] at ih
    rw [ih]
    cases step <;> rfl

end Service
end SessionKit
