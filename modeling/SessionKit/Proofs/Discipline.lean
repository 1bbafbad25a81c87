import SessionKit.Proofs.Interleaving

/-!
# Disciplines

A discipline is a way of reasoning about one call while others run. What the call knows may change
between two of its requests, but only to something later. It may make the requests that its
knowledge allows, and it learns from their answers. A program that keeps to a discipline does so in
every interleaving.
-/

namespace SessionKit

/-- What a program may ask, and what it learns from an answer. -/
structure Discipline (Request : Type) (Answer : Request → Type) (Knowledge : Type) where
  /-- How knowledge changes while others take steps. -/
  later : Knowledge → Knowledge → Prop
  allows : Request → Knowledge → Prop
  learns : (r : Request) → Answer r → Knowledge → Knowledge → Prop
  later_refl : ∀ g, later g g
  later_trans : ∀ {a b c}, later a b → later b c → later a c

/-! ## Kinds of requests -/

namespace Program

variable {Request : Type} {Answer : Request → Type} {α β : Type} {P Q : Request → Prop}

/-- Whatever the answers are, every request is of some kind. -/
def Only (P : Request → Prop) : Program Request Answer α → Prop
  | .done _ => True
  | .ask r k => P r ∧ ∀ x, (k x).Only P

@[simp] theorem only_done {a : α} : (.done a : Program Request Answer α).Only P := trivial

@[simp] theorem only_ask {r : Request} {k : Answer r → Program Request Answer α} :
    (Program.ask r k).Only P ↔ P r ∧ ∀ x, (k x).Only P := Iff.rfl

theorem Only.bind {p : Program Request Answer α} {f : α → Program Request Answer β}
    (hp : p.Only P) (hf : ∀ a, (f a).Only P) : (p.bind f).Only P := by
  induction p with
  | done a => exact hf a
  | ask r k ih => exact ⟨hp.1, fun x => ih x (hp.2 x)⟩

theorem Only.mono {p : Program Request Answer α} (weaken : ∀ r, P r → Q r) (hp : p.Only P) :
    p.Only Q := by
  induction p with
  | done a => trivial
  | ask r k ih => exact ⟨weaken r hp.1, fun x => ih x (hp.2 x)⟩

end Program

namespace Discipline

variable {Request : Type} {Answer : Request → Type} {Knowledge α β : Type}
  (D : Discipline Request Answer Knowledge)

/-! ## Programs that keep to a discipline -/

/-- Every request is allowed when it is made, and the result is as promised when it is there. -/
def wp : Program Request Answer α → (α → Knowledge → Prop) → Knowledge → Prop
  | .done a, post, g => ∀ g', D.later g g' → post a g'
  | .ask r k, post, g =>
    ∀ g', D.later g g' → D.allows r g' ∧ ∀ x g'', D.learns r x g' g'' → wp (k x) post g''

variable {D} {p : Program Request Answer α} {f : α → Program Request Answer β}
  {post post' : α → Knowledge → Prop} {g g' : Knowledge}

@[simp] theorem wp_done {a : α} :
    D.wp (.done a) post g ↔ ∀ g', D.later g g' → post a g' := Iff.rfl

@[simp] theorem wp_ask {r : Request} {k : Answer r → Program Request Answer α} :
    D.wp (.ask r k) post g ↔ ∀ g', D.later g g' →
      D.allows r g' ∧ ∀ x g'', D.learns r x g' g'' → D.wp (k x) post g'' := Iff.rfl

/-- What holds now still holds later. -/
theorem wp_later (h : D.wp p post g) (hg : D.later g g') : D.wp p post g' := by
  cases p with
  | done a => exact fun g'' hg' => h g'' (D.later_trans hg hg')
  | ask r k => exact fun g'' hg' => h g'' (D.later_trans hg hg')

theorem wp_mono (weaken : ∀ a g, post a g → post' a g) (h : D.wp p post g) :
    D.wp p post' g := by
  induction p generalizing g with
  | done a => exact fun g' hg => weaken a g' (h g' hg)
  | ask r k ih =>
    intro g' hg
    obtain ⟨allowed, next⟩ := h g' hg
    exact ⟨allowed, fun x g'' learnt => ih x (next x g'' learnt)⟩

theorem wp_bind {post : β → Knowledge → Prop} :
    D.wp (p.bind f) post g ↔ D.wp p (fun a => D.wp (f a) post) g := by
  induction p generalizing g with
  | done a => exact ⟨fun h g' hg => wp_later h hg, fun h => h g (D.later_refl g)⟩
  | ask r k ih => simp only [Program.ask_bind, wp_ask, ih]

/-- One program after another, with what holds between them. -/
theorem wp_bind_of {post : β → Knowledge → Prop} {between : α → Knowledge → Prop}
    (first : D.wp p between g) (next : ∀ a g, between a g → D.wp (f a) post g) :
    D.wp (p.bind f) post g :=
  wp_bind.mpr (wp_mono next first)

/-- A program whose requests are always allowed keeps to a discipline. -/
theorem wp_of_only {P : Request → Prop} (allowed : ∀ r g, P r → D.allows r g) (h : p.Only P) :
    D.wp p (fun _ _ => True) g := by
  induction p generalizing g with
  | done a => exact fun _ _ => trivial
  | ask r k ih => exact fun g' _ => ⟨allowed r g' h.1, fun x g'' _ => ih x (h.2 x)⟩

theorem wp_of_allows (allowed : ∀ r g, D.allows r g) : D.wp p (fun _ _ => True) g := by
  induction p generalizing g with
  | done a => exact fun _ _ => trivial
  | ask r k ih => exact fun g' _ => ⟨allowed r g', fun x g'' _ => ih x⟩

/-! ## Calls that keep to a discipline -/

section Calls

open Service

variable {Order : Type} {Result : Order → Type} {World Moment : Type}
  {v : Service Request Answer Order Result World Moment}
  {s s' : State Request Answer Order Result World}
  {e : Service.Event Request Answer Order Result Moment}
  {ts : List (Transition Request Answer Order Result World Moment)}
  {vow : (o : Order) → Result o → Knowledge → Prop} {c : Nat}

/-- What is left of a call keeps to the discipline and to what was promised of its order. -/
def Upholds (D : Discipline Request Answer Knowledge)
    (vow : (o : Order) → Result o → Knowledge → Prop)
    (f : Option (Flight Request Answer Order Result)) (g : Knowledge) : Prop :=
  ∀ p, f = some p → D.wp p.rest (vow p.order) g

/-- How the knowledge of a call changes in a step. -/
def Moves (D : Discipline Request Answer Knowledge) (c : Nat) :
    Service.Event Request Answer Order Result Moment → Knowledge → Knowledge → Prop
  | .asked d _ r x, g, g' => (d = c → D.learns r x g g') ∧ (d ≠ c → D.later g g')
  | _, g, g' => D.later g g'

/-- What a step of a call that keeps to the discipline comes to. -/
def Heeds (D : Discipline Request Answer Knowledge)
    (vow : (o : Order) → Result o → Knowledge → Prop) (c : Nat) :
    Service.Event Request Answer Order Result Moment → Knowledge → Prop
  | .begun _ _, _ => True
  | .asked d _ r _, g => d = c → D.allows r g
  | .returned d o x, g => d = c → vow o x g

theorem step (step : Step v s e s') (begins : ∀ o, e = .begun c o → D.wp (v.program o) (vow o) g')
    (moves : D.Moves c e g g') (h : D.Upholds vow (s.flights c) g) :
    D.Heeds vow c e g ∧ D.Upholds vow (s'.flights c) g' := by
  -- The step is one of this call, or else it only changes what this call knows to something later.
  cases step with
  | begun o =>
    refine ⟨trivial, fun p hp => ?_⟩
    by_cases hc : c = s.begun
    · subst hc
      simp only [Function.update_self, Option.some.injEq] at hp
      cases hp
      exact begins o rfl
    · simp only [Function.update_of_ne hc] at hp
      exact wp_later (h p hp) moves
  | @asked d t o r k found =>
    obtain ⟨own, other⟩ := moves
    by_cases hc : c = d
    · subst hc
      obtain ⟨allowed, next⟩ := h _ found g (D.later_refl g)
      refine ⟨fun _ => allowed, fun p hp => ?_⟩
      simp only [Function.update_self, Option.some.injEq] at hp
      cases hp
      exact next _ _ (own rfl)
    · refine ⟨fun hd => absurd hd.symm hc, fun p hp => ?_⟩
      simp only [Function.update_of_ne hc] at hp
      exact wp_later (h p hp) (other (Ne.symm hc))
  | @returned d o x found =>
    by_cases hc : c = d
    · subst hc
      refine ⟨fun _ => h _ found g (D.later_refl g), fun p hp => ?_⟩
      simp only [Function.update_self] at hp
      cases hp
    · refine ⟨fun hd => absurd hd.symm hc, fun p hp => ?_⟩
      simp only [Function.update_of_ne hc] at hp
      exact wp_later (h p hp) moves

/-- A call keeps to a discipline in every step of a run if its program does, where the knowledge
that the call has after some steps is read off those steps. -/
theorem follows (view : List (Transition Request Answer Order Result World Moment) → Knowledge)
    (run : Run v s ts s')
    (begins : ∀ us t, us ++ [t] <+: ts → ∀ o, t.event = .begun c o →
      D.wp (v.program o) (vow o) (view (us ++ [t])))
    (moves : ∀ us t, us ++ [t] <+: ts → D.Moves c t.event (view us) (view (us ++ [t])))
    (h : D.Upholds vow (s.flights c) (view [])) :
    (∀ us t, us ++ [t] <+: ts → D.Heeds vow c t.event (view us)) ∧
      D.Upholds vow (s'.flights c) (view ts) := by
  induction run with
  | start => exact ⟨fun us t ht => by simp at ht, h⟩
  | @snoc ts s' s'' e run last ih =>
    -- What was said of the steps before stays true; only the last one is new.
    have shorter : ∀ {us}, us <+: ts → us <+: ts ++ [⟨s', e, s''⟩] :=
      fun hu => hu.trans (List.prefix_append _ _)
    obtain ⟨before, now⟩ := ih (fun us t ht => begins us t (shorter ht))
      (fun us t ht => moves us t (shorter ht))
    obtain ⟨heeds, after⟩ := step last (begins ts ⟨s', e, s''⟩ (List.prefix_refl _))
      (moves ts ⟨s', e, s''⟩ (List.prefix_refl _)) now
    refine ⟨fun us t ht => ?_, after⟩
    rcases List.prefix_concat_iff.mp ht with ht | ht
    · obtain ⟨rfl, one⟩ := List.append_inj' ht rfl
      obtain rfl := List.singleton_inj.mp one
      exact heeds
    · exact before us t ht

/-- A call whose program keeps to a discipline does so from its beginning on. -/
theorem heeds_of_begun (vow : (o : Order) → Result o → Knowledge → Prop)
    (view : List (Transition Request Answer Order Result World Moment) → Knowledge)
    {a b : List (Transition Request Answer Order Result World Moment)}
    {u : Transition Request Answer Order Result World Moment} {o : Order}
    (run : Run v s (a ++ u :: b) s') (begun : u.event = .begun c o)
    (program : D.wp (v.program o) (vow o) (view (a ++ [u])))
    (moves : ∀ us t, us ++ [t] <+: a ++ u :: b →
      D.Moves c t.event (view us) (view (us ++ [t]))) :
    ∀ us t, us ++ [t] <+: b → D.Heeds vow c t.event (view (a ++ u :: us)) := by
  obtain ⟨_, step, second⟩ := run.mid
  rw [begun] at step
  obtain ⟨started, old⟩ := step.flights_begun
  refine (follows (fun us => view (a ++ u :: us)) second
    (fun us t cut o' starts => ?_) (fun us t cut => ?_) ?_).1
  · -- The call has begun already, and no other call has its number.
    obtain ⟨first, again⟩ := second.step_of_prefix cut
    rw [starts] at again
    exact absurd again.eq_begun (Nat.ne_of_lt (Nat.lt_of_lt_of_le old first.begun_le))
  · have cut' : a ++ u :: us ++ [t] <+: a ++ u :: b := by simpa using cut
    simpa using moves (a ++ u :: us) t cut'
  · intro p hp
    rw [started] at hp
    cases hp
    exact program

/-- What a call that keeps to a discipline has achieved when it returns. -/
theorem vow_of_returned (vow : (o : Order) → Result o → Knowledge → Prop)
    (view : List (Transition Request Answer Order Result World Moment) → Knowledge)
    {o : Order} {x : Result o} (run : Run v s ts s')
    (order : [Event.begun c o, .returned c o x].Sublist (ts.map (·.event)))
    (program : ∀ g, D.wp (v.program o) (vow o) g)
    (moves : ∀ us t, us ++ [t] <+: ts → D.Moves c t.event (view us) (view (us ++ [t]))) :
    ∃ us t, us ++ [t] <+: ts ∧ t.event = .returned c o x ∧ vow o x (view us) := by
  obtain ⟨a, u, b, rfl, begun, rest⟩ := cons_sublist_events order
  obtain ⟨d, w, f, rfl, returned, _⟩ := cons_sublist_events rest
  -- Heeding is keeping the promise when the step is the return.
  have heeds := heeds_of_begun vow view run begun (program _) moves d w ⟨f, by simp⟩
  rw [returned] at heeds
  exact ⟨a ++ u :: d, w, ⟨f, by simp⟩, returned, heeds rfl⟩

/-- To make requests of one kind only. -/
def keepingTo (P : Request → Prop) : Discipline Request Answer Unit where
  later _ _ := True
  allows r _ := P r
  learns _ _ _ _ := True
  later_refl _ := trivial
  later_trans _ _ := trivial

/-- Every request of a call is of the kind that its program makes. -/
theorem request_of_begun {P : Request → Prop}
    {a b : List (Transition Request Answer Order Result World Moment)}
    {u t : Transition Request Answer Order Result World Moment} {o : Order} {m : Moment}
    {r : Request} {x : Answer r} (run : Run v s (a ++ u :: b) s') (begun : u.event = .begun c o)
    (only : (v.program o).Only P) (h : t ∈ b) (asked : t.event = .asked c m r x) : P r := by
  obtain ⟨us, rest, rfl⟩ := List.append_of_mem h
  have moves (t : Transition Request Answer Order Result World Moment) :
      (@keepingTo Request Answer P).Moves c t.event () () := by
    cases t.event with
    | asked _ _ _ _ => exact ⟨fun _ => trivial, fun _ => trivial⟩
    | _ => trivial
  have heeds := heeds_of_begun (fun _ _ _ => True) (fun _ => ()) run begun
    (wp_of_only (D := keepingTo P) (fun _ _ => id) only) (fun _ t _ => moves t) us t
    ⟨rest, by simp⟩
  rw [asked] at heeds
  exact heeds rfl

/-! ## Records -/

/-- The discipline of a call that keeps a record of its own answers. -/
def recording (note : Knowledge → (r : Request) → Answer r → Knowledge)
    (allows : Request → Knowledge → Prop) : Discipline Request Answer Knowledge where
  later := Eq
  allows := allows
  learns r x g g' := g' = note g r x
  later_refl _ := rfl
  later_trans := Eq.trans

variable {note : Knowledge → (r : Request) → Answer r → Knowledge}
  {allows : Request → Knowledge → Prop}

/-- What a step adds to the record of a call. -/
def enter (note : Knowledge → (r : Request) → Answer r → Knowledge) (c : Nat) (g : Knowledge) :
    Service.Event Request Answer Order Result Moment → Knowledge
  | .asked d _ r x => if d = c then note g r x else g
  | _ => g

/-- The record of a call after some steps. -/
def record (note : Knowledge → (r : Request) → Answer r → Knowledge) (c : Nat) (g : Knowledge)
    (ts : List (Transition Request Answer Order Result World Moment)) : Knowledge :=
  ts.foldl (fun g t => enter note c g t.event) g

@[simp] theorem record_snoc {t : Transition Request Answer Order Result World Moment} :
    record note c g (ts ++ [t]) = enter note c (record note c g ts) t.event := by
  simp [record]

theorem record_append {us : List (Transition Request Answer Order Result World Moment)} :
    record note c g (ts ++ us) = record note c (record note c g ts) us := by
  simp [record]

theorem enter_of_ne (h : e.call ≠ c) : enter note c g e = g := by
  cases e with
  | asked d m r x => exact if_neg h
  | _ => rfl

/-- The steps of other calls leave the record alone. -/
theorem record_of_ne (h : ∀ t ∈ ts, t.event.call ≠ c) : record note c g ts = g := by
  induction ts using List.reverseRecOn with
  | nil => rfl
  | append_singleton ts t ih =>
    rw [record_snoc, ih fun u hu => h u (by simp [hu])]
    exact enter_of_ne (h t (by simp))

theorem moves_record (t : Transition Request Answer Order Result World Moment) :
    (recording note allows).Moves c t.event (record note c g ts)
      (record note c g (ts ++ [t])) := by
  rw [record_snoc]
  cases t.event with
  | begun _ _ => rfl
  | returned _ _ _ => rfl
  | asked d m r x => exact ⟨fun own => if_pos own, fun other => (if_neg other).symm⟩

/-- A call that records its answers keeps to what its program promises about the record. -/
theorem heeds_record {a b : List (Transition Request Answer Order Result World Moment)}
    {u : Transition Request Answer Order Result World Moment} {o : Order}
    (run : Run v s (a ++ u :: b) s') (begun : u.event = .begun c o)
    (program : (recording note allows).wp (v.program o) (vow o) g) :
    ∀ us t, us ++ [t] <+: b →
      (recording note allows).Heeds vow c t.event (record note c g us) := by
  have own : ∀ us, record note c g (u :: us) = record note c g us := by
    intro us
    simp [record, begun, enter]
  intro us t cut
  -- The record starts at the beginning of the call, so the run is cut there.
  have rest : Run v u.before ([] ++ u :: b) s' := run.tail
  have heeds := heeds_of_begun vow (record note c g) rest begun
    (by simpa [begun, enter, record] using program) (fun us t _ => moves_record t) us t cut
  rwa [List.nil_append, own] at heeds

end Calls
end Discipline
end SessionKit
