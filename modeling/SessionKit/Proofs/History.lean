import SessionKit.Proofs.Discipline

/-!
# Histories

The history of a call is what it has asked and what it was answered, in order. A discipline that
remembers it can hold a request, or a result, against all that the call was told before.
-/

namespace SessionKit

/-- A request with the answer to it. -/
abbrev Exchange (Request : Type) (Answer : Request → Type) := (r : Request) × Answer r

namespace Discipline

variable {Request : Type} {Answer : Request → Type} {α β : Type}
  {allows : Request → List (Exchange Request Answer) → Prop}
  {p : Program Request Answer α} {post : α → List (Exchange Request Answer) → Prop}
  {h : List (Exchange Request Answer)}

/-- A history goes on. -/
def append (h : List (Exchange Request Answer)) (r : Request) (x : Answer r) :
    List (Exchange Request Answer) := h ++ [⟨r, x⟩]

/-- The discipline of a call that remembers all that it was told. -/
abbrev remembering (allows : Request → List (Exchange Request Answer) → Prop) :
    Discipline Request Answer (List (Exchange Request Answer)) := recording append allows

/-! ## Programs that remember -/

theorem remembering_done {a : α} :
    (remembering allows).wp (.done a) post h ↔ post a h := by
  constructor
  · intro hp
    exact hp h rfl
  · rintro hp _ rfl
    exact hp

theorem remembering_ask {r : Request} {k : Answer r → Program Request Answer α} :
    (remembering allows).wp (.ask r k) post h ↔
      allows r h ∧ ∀ x, (remembering allows).wp (k x) post (h ++ [⟨r, x⟩]) := by
  constructor
  · intro hp
    obtain ⟨allowed, next⟩ := hp h rfl
    exact ⟨allowed, fun x => next x _ rfl⟩
  · rintro ⟨allowed, next⟩ _ rfl
    refine ⟨allowed, fun x h' learnt => ?_⟩
    have same : h' = h ++ [⟨r, x⟩] := learnt
    rw [same]
    exact next x

/-- A program that makes requests of one kind keeps to the discipline if these are allowed. -/
theorem remembering_of_only {P : Request → Prop} (allowed : ∀ r h', h <+: h' → P r → allows r h')
    (only : p.Only P) : (remembering allows).wp p (fun _ _ => True) h := by
  induction p generalizing h with
  | done a => exact remembering_done.mpr trivial
  | ask r k ih =>
    refine remembering_ask.mpr ⟨allowed r h (List.prefix_refl h) only.1, fun x => ?_⟩
    refine ih x (fun r' h' grown => allowed r' h' ?_) (only.2 x)
    exact (List.prefix_append h [⟨r, x⟩]).trans grown

/-- Nothing is forgotten, and what is added are the requests of the program. -/
theorem remembering_keeping {P : Request → Prop} (hp : (remembering allows).wp p post h)
    (only : p.Only P) :
    (remembering allows).wp p
      (fun a h' => post a h' ∧ ∃ more, h' = h ++ more ∧ ∀ e ∈ more, P e.1) h := by
  induction p generalizing h with
  | done a => exact remembering_done.mpr ⟨remembering_done.mp hp, [], by simp, by simp⟩
  | ask r k ih =>
    rw [remembering_ask] at hp ⊢
    refine ⟨hp.1, fun x => wp_mono ?_ (ih x (hp.2 x) (only.2 x))⟩
    rintro a h' ⟨hpost, more, rfl, kind⟩
    refine ⟨hpost, ⟨r, x⟩ :: more, by simp, fun e he => ?_⟩
    rcases List.mem_cons.mp he with rfl | he
    · exact only.1
    · exact kind e he

/-- Goes past a part of a program whose answers do not matter. -/
theorem remembering_past {P : Request → Prop} {f : α → Program Request Answer β}
    {post : β → List (Exchange Request Answer) → Prop}
    (allowed : ∀ r h', h <+: h' → P r → allows r h') (only : p.Only P)
    (next : ∀ a more, (∀ e ∈ more, P e.1) → (remembering allows).wp (f a) post (h ++ more)) :
    (remembering allows).wp (p.bind f) post h := by
  refine wp_bind_of (remembering_keeping (remembering_of_only allowed only) only) ?_
  rintro a _ ⟨-, more, rfl, kind⟩
  exact next a more kind

/-- What is allowed may be more, as far as the requests of the program go. -/
theorem remembering_weaken {P : Request → Prop}
    {allows' : Request → List (Exchange Request Answer) → Prop}
    (weaker : ∀ r h, P r → allows r h → allows' r h) (only : p.Only P)
    (hp : (remembering allows).wp p post h) : (remembering allows').wp p post h := by
  induction p generalizing h with
  | done a => exact remembering_done.mpr (remembering_done.mp hp)
  | ask r k ih =>
    rw [remembering_ask] at hp ⊢
    exact ⟨weaker r h only.1 hp.1, fun x => ih x (only.2 x) (hp.2 x)⟩

/-- What a call promises of its record it promises of what it was told. -/
theorem remembering_of_recording {Knowledge : Type}
    {note : Knowledge → (r : Request) → Answer r → Knowledge}
    {allows : Request → Knowledge → Prop} {post : α → Knowledge → Prop} {g : Knowledge}
    (hp : (recording note allows).wp p post (h.foldl (fun g e => note g e.1 e.2) g)) :
    (remembering fun r h => allows r (h.foldl (fun g e => note g e.1 e.2) g)).wp p
      (fun a h => post a (h.foldl (fun g e => note g e.1 e.2) g)) h := by
  induction p generalizing h with
  | done a => exact remembering_done.mpr (hp _ rfl)
  | ask r k ih =>
    obtain ⟨allowed, next⟩ := hp _ rfl
    refine remembering_ask.mpr ⟨allowed, fun x => ih x ?_⟩
    rw [List.foldl_append]
    exact next x _ rfl

/-! ## Along a run -/

section Calls

open Service

variable {Order : Type} {Result : Order → Type} {World Moment : Type}
  {v : Service Request Answer Order Result World Moment}
  {s s' : State Request Answer Order Result World}
  {ts : List (Transition Request Answer Order Result World Moment)}
  {c : Nat} {r : Request} {x : Answer r}

/-- The history of a call in some steps. -/
abbrev history (c : Nat) (ts : List (Transition Request Answer Order Result World Moment)) :
    List (Exchange Request Answer) := record append c [] ts

theorem mem_history : ⟨r, x⟩ ∈ history c ts ↔ ∃ t ∈ ts, ∃ m, t.event = .asked c m r x := by
  induction ts using List.reverseRecOn with
  | nil => simp [record]
  | append_singleton ts t ih =>
    rw [history, record_snoc]
    have last : (⟨r, x⟩ ∈ enter append c (history c ts) t.event) ↔
        ⟨r, x⟩ ∈ history c ts ∨ ∃ m, t.event = .asked c m r x := by
      cases kind : t.event with
      | begun d o => simp [enter]
      | returned d o y => simp [enter]
      | asked d m q y =>
        by_cases own : d = c
        · subst own
          simp only [enter, append, if_true, List.mem_append, List.mem_singleton]
          refine or_congr_right ⟨?_, ?_⟩
          · rintro same
            cases same
            exact ⟨m, rfl⟩
          · rintro ⟨_, same⟩
            cases same
            rfl
        · simp [enter, own]
    rw [last, ih]
    constructor
    · rintro (⟨u, hu, asked⟩ | asked)
      · exact ⟨u, by simp [hu], asked⟩
      · exact ⟨t, by simp, asked⟩
    · rintro ⟨u, hu, asked⟩
      rcases List.mem_append.mp hu with hu | hu
      · exact .inl ⟨u, hu, asked⟩
      · exact .inr (List.mem_singleton.mp hu ▸ asked)

theorem history_append {us : List (Transition Request Answer Order Result World Moment)}
    (none : ∀ t ∈ us, t.event.call ≠ c) : history c (ts ++ us) = history c ts := by
  rw [history, record_append]
  exact record_of_ne none

theorem history_concat {us : List (Transition Request Answer Order Result World Moment)} :
    history c (ts ++ us) = history c ts ++ history c us := by
  induction us using List.reverseRecOn with
  | nil => simp [history, record]
  | append_singleton us t ih =>
    rw [← List.append_assoc]
    simp only [history, record_snoc] at ih ⊢
    rw [ih]
    cases t.event with
    | begun d o => rfl
    | returned d o y => rfl
    | asked d m r x =>
      by_cases own : d = c
      · simp [enter, append, own]
      · simp [enter, own]

/-- What a history begins with was asked in a step, and the rest of it thereafter. -/
theorem split_of_history {h : List (Exchange Request Answer)} (told : history c ts = ⟨r, x⟩ :: h) :
    ∃ a t b m, ts = a ++ t :: b ∧ t.event = .asked c m r x ∧ history c b = h := by
  induction ts with
  | nil => cases told
  | cons u ts ih =>
    rw [← List.singleton_append, history_concat] at told
    by_cases own : ∃ m q y, u.event = .asked c m q y
    · obtain ⟨m, q, y, asked⟩ := own
      have one : history c [u] = [⟨q, y⟩] := by
        simp [history, record, enter, append, asked]
      rw [one, List.singleton_append] at told
      cases told
      exact ⟨[], u, ts, m, rfl, asked, rfl⟩
    · have none : history c [u] = [] := by
        cases event : u.event with
        | begun d o => simp [history, record, enter, event]
        | returned d o y => simp [history, record, enter, event]
        | asked d m q y =>
          have other : d ≠ c := by
            rintro rfl
            exact own ⟨m, q, y, event⟩
          simp [history, record, enter, event, other]
      rw [none, List.nil_append] at told
      obtain ⟨a, t, b, m, rfl, asked, rest⟩ := ih told
      exact ⟨u :: a, t, b, m, rfl, asked, rest⟩

/-- A call has no history before it begins. -/
theorem history_of_begun {a b : List (Transition Request Answer Order Result World Moment)}
    {u : Transition Request Answer Order Result World Moment} {o : Order}
    (run : Run v s (a ++ u :: b) s') (numbered : s.Numbered) (begun : u.event = .begun c o) :
    history c (a ++ u :: b) = history c b := by
  obtain ⟨first, start, _⟩ := run.mid
  rw [begun] at start
  have none (t : Transition Request Answer Order Result World Moment) (ht : t ∈ a) :
      t.event.call ≠ c := by
    have earlier := first.call_lt numbered t ht
    rw [← start.eq_begun] at earlier
    exact Nat.ne_of_lt earlier
  rw [history, record_append, record_of_ne none]
  simp [history, record, enter, begun]

variable {allow : Order → Request → List (Exchange Request Answer) → Prop}
  {vow : (o : Order) → Result o → List (Exchange Request Answer) → Prop}
  {a b : List (Transition Request Answer Order Result World Moment)}
  {t : Transition Request Answer Order Result World Moment}

/-- A request of a call is allowed by what the call was told before. -/
theorem allows_of_asked {m : Moment} (run : Run v s (a ++ t :: b) s') (idle : s.Idle)
    (numbered : s.Numbered)
    (programs : ∀ o, (remembering (allow o)).wp (v.program o) (vow o) [])
    (asked : t.event = .asked c m r x) :
    ∃ (o : Order) (u : Transition Request Answer Order Result World Moment),
      u ∈ a ∧ u.event = .begun c o ∧ allow o r (history c a) := by
  obtain ⟨before, step, _⟩ := run.mid
  rw [asked] at step
  obtain ⟨o, k, flying⟩ := step.flight_of_asked
  obtain ⟨u, hu, begun⟩ := before.begun_of_flight idle flying
  obtain ⟨d, e, rfl⟩ := List.append_of_mem hu
  rw [List.append_assoc, List.cons_append] at run
  have heeds := heeds_record run begun (programs o) e t ⟨b, by simp⟩
  rw [asked] at heeds
  refine ⟨o, u, hu, begun, ?_⟩
  rw [history_of_begun before numbered begun]
  exact heeds rfl

/-- A call keeps what its program promises, given what it was told between its beginning and its
return. -/
theorem vow_of_begun {o : Order} {y : Result o}
    {d : List (Transition Request Answer Order Result World Moment)}
    {u : Transition Request Answer Order Result World Moment}
    {promise : Result o → List (Exchange Request Answer) → Prop}
    (run : Run v s (a ++ u :: (b ++ t :: d)) s') (begun : u.event = .begun c o)
    (program : (remembering allows).wp (v.program o) promise [])
    (returned : t.event = .returned c o y) : promise y (history c b) := by
  have promised : (remembering allows).wp (v.program o)
      (fun x h => (⟨o, x⟩ : (o : Order) × Result o) = ⟨o, y⟩ → promise y h) [] :=
    wp_mono (fun x h kept same => by cases same; exact kept) program
  have heeds : ∀ us w, us ++ [w] <+: b ++ t :: d → (remembering allows).Heeds
      (fun q x h => (⟨q, x⟩ : (o : Order) × Result o) = ⟨o, y⟩ → promise y h) c w.event
      (history c us) := heeds_record run begun promised
  have heeded := heeds b t ⟨d, by simp⟩
  rw [returned] at heeded
  exact heeded rfl rfl

/-- A call keeps what was promised of its order, given all that it was told. -/
theorem vow_of_history {o : Order} {y : Result o} (run : Run v s ts s') (idle : s.Idle)
    (numbered : s.Numbered)
    (programs : ∀ o, (remembering (allow o)).wp (v.program o) (vow o) [])
    (h : t ∈ ts) (returned : t.event = .returned c o y) : vow o y (history c ts) := by
  obtain ⟨a, b, rfl⟩ := List.append_of_mem h
  obtain ⟨before, step, later⟩ := run.mid
  rw [returned] at step
  obtain ⟨u, hu, begun⟩ := before.begun_of_flight idle step.flight_of_returned
  obtain ⟨d, e, rfl⟩ := List.append_of_mem hu
  -- The call says nothing with its return, and nothing of it comes after that.
  have ended := step.ended (before.numbered numbered)
  have whole : history c (d ++ u :: e ++ t :: b) = history c e := by
    rw [List.append_cons, history_append (later.call_ne ended).1, history, record_snoc, returned]
    exact history_of_begun before numbered begun
  rw [List.append_assoc, List.cons_append] at run
  rw [whole]
  exact vow_of_begun run begun (programs o) returned

end Calls
end Discipline
end SessionKit
