import SessionKit.Proofs.Debts
import SessionKit.Proofs.Fleet

/-!
# How a digest comes back

The fill generation keeps a manager from putting back what it has dropped itself. It does not keep
another manager from doing so, who has been shown the session before and does not hear of the drop.
When the storage has lost a digest for good, there is no other way for it to come back to the cache.
-/

namespace SessionKit.Fleet

open Manager (Request Answer Order History)
open Discipline (history mem_history unsigned)
open Traffic (Outlook)

variable {ι : Type} {settings : Cache.Settings}
  {s s' : State ι} {ts us a b d : List (Transition ι)} {t u v w : Transition ι} {c e f : Nat}
  {n : UInt64} {i j : ι} {x y : Session} {token tokenHash : String} {o : Order} {moment : Moment}

/-! ## Marks in a run -/

/-- A call has drawn a token. -/
def Drew (c : Nat) (token : String) (ts : List (Transition ι)) : Prop :=
  ∃ t ∈ ts, ∃ moment i n pair,
    t.event = .asked c moment (i, .token n) (.ok pair) ∧ pair.token = token

/-- A call has returned. -/
def Returned (c : Nat) (ts : List (Transition ι)) : Prop :=
  ∃ t ∈ ts, ∃ o r, t.event = .returned c o r

theorem Drew.mono (h : Drew c token ts) (sub : ts ⊆ us) : Drew c token us := by
  obtain ⟨t, ht, drew⟩ := h
  exact ⟨t, sub ht, drew⟩

/-- The tokens that are drawn, with the calls that draw them. -/
def draws (ts : List (Transition ι)) : List (Nat × String) :=
  ts.filterMap fun t => match t.event with
    | .asked c _ (_, .token _) (.ok pair) => some (c, pair.token)
    | _ => none

theorem mem_draws (h : Drew c token ts) : (c, token) ∈ draws ts := by
  obtain ⟨t, ht, moment, i, n, pair, drew, rfl⟩ := h
  exact List.mem_filterMap.mpr ⟨t, ht, by rw [drew]⟩

/-- When one call has drawn the only token and has returned, nobody is left to draw it. -/
theorem drew_of_draws {r : o.Result} {other : String} (drawn : draws (ts ++ us) = [(c, token)])
    (ended : (c, .inr ⟨(i, o), r⟩) ∈ Service.marks ts) (h : Drew e other (ts ++ us)) :
    other = token ∧ Returned e ts := by
  have mem := mem_draws h
  rw [drawn] at mem
  obtain ⟨rfl, rfl⟩ : e = c ∧ other = token := by simpa using mem
  obtain ⟨t, ht, event⟩ := Service.mem_of_mem_marks ended
  exact ⟨rfl, t, ht, _, _, event⟩

/-- A session is put into the storage by a creation that succeeds. -/
theorem eq_of_stores {e : Event ι} (h : Stores x e) :
    ∃ c moment i, e = .asked c moment (i, .store (.create x)) (.ok ()) := by
  cases e with
  | asked c moment q answer =>
    obtain ⟨i, r⟩ := q
    cases r with
    | store call =>
      cases call with
      | create y =>
        cases answer with
        | ok u =>
          obtain rfl : y = x := h
          exact ⟨c, moment, i, rfl⟩
        | error cause => exact absurd h id
      | _ => exact absurd h id
    | _ => exact absurd h id
  | _ => exact absurd h id

/-- An entry is put into the cache by a fill that succeeds. -/
theorem eq_of_fills {e : Event ι} (h : Fills tokenHash e) :
    ∃ c moment i n x, e = .asked c moment (i, .fill n tokenHash x) .done := by
  cases e with
  | asked c moment q answer =>
    obtain ⟨i, r⟩ := q
    cases r with
    | fill n k x =>
      cases answer with
      | done =>
        obtain rfl : k = tokenHash := h
        exact ⟨c, moment, i, n, x, rfl⟩
      | _ => exact absurd h id
    | _ => exact absurd h id
  | _ => exact absurd h id

/-! ## What calls are told -/

theorem told_unsigned {r : Request} {x : Answer r} :
    History.Told (unsigned (history c ts)) r x ↔
      ∃ t ∈ ts, ∃ moment i, t.event = .asked c moment (i, r) x := by
  constructor
  · intro told
    obtain ⟨⟨⟨i, r'⟩, x'⟩, mem, same⟩ := List.mem_map.mp told
    cases same
    obtain ⟨t, ht, moment, asked⟩ := mem_history.mp mem
    exact ⟨t, ht, moment, i, asked⟩
  · rintro ⟨t, ht, moment, i, asked⟩
    exact List.mem_map.mpr ⟨⟨(i, r), x⟩, mem_history.mpr ⟨t, ht, moment, asked⟩, rfl⟩

variable [DecidableEq ι] {m : ι → Manager}

/-- Every request of a call is signed by its manager, and is one that its order makes. -/
theorem asks_of_begun (run : Service.Run (service m) s (a ++ u :: b) s')
    (begun : u.event = .begun c (i, o)) (ht : t ∈ b) {q : ι × Request} {x : Answer q.2}
    (asked : t.event = .asked c moment q x) : q.1 = i ∧ o.Asks q.2 :=
  Discipline.request_of_begun (P := fun q => q.1 = i ∧ o.Asks q.2) run begun
    ((o.only_program (m i)).sign i) ht asked

theorem asks_of_mem_begun (run : Service.Run (service m) s ts s') (numbered : s.Numbered)
    (hv : v ∈ ts) (begun : v.event = .begun c (i, o)) (ht : t ∈ ts) {q : ι × Request}
    {x : Answer q.2} (asked : t.event = .asked c moment q x) : q.1 = i ∧ o.Asks q.2 := by
  obtain ⟨a, b, rfl⟩ := List.append_of_mem hv
  refine asks_of_begun run begun (run.mem_of_begun numbered begun ht ?_ ?_) asked
  · rw [asked]
    rfl
  · rw [asked]
    exact fun _ => nofun

/-- What a call asks is grounded in what it was told. -/
theorem grounded_of_asked (run : Service.Run (service m) s (a ++ t :: b) s') (idle : s.Idle)
    (numbered : s.Numbered) {r : Request} {x : Answer r}
    (asked : t.event = .asked c moment (i, r) x) :
    ∃ o, (∃ u ∈ a, u.event = .begun c (i, o)) ∧ o.Asks r ∧
      o.Grounded r (unsigned (history c a)) := by
  obtain ⟨⟨j, o⟩, u, hu, begun, grounded⟩ := Discipline.allows_of_asked run idle numbered
    (fun o => Discipline.remembering_sign o.1 (Manager.wp_program o.2)) asked
  obtain ⟨p, q, rfl⟩ := List.append_of_mem hu
  rw [List.append_assoc, List.cons_append] at run
  obtain ⟨same, asks⟩ := asks_of_begun run begun (by simp) asked
  obtain rfl : i = j := same
  exact ⟨o, ⟨u, hu, begun⟩, asks, grounded⟩

/-- What a call hands back is as promised, given what it was told since it began. -/
theorem keeps_of_returned (run : Service.Run (service m) s (a ++ u :: (b ++ t :: d)) s')
    (begun : u.event = .begun c (i, o)) {r : o.Result}
    (returned : t.event = .returned c (i, o) r) : o.Keeps r (unsigned (history c b)) :=
  Discipline.vow_of_begun run begun (Discipline.remembering_sign i (Manager.wp_program o)) returned

/-! ## Where sessions come from -/

/-- Before a call offers a session to the storage it was told the token of the session. -/
def Drawn : Request → History → Prop
  | .store (.create x), h => ∃ n pair, h.Told (.token n) (.ok pair) ∧ pair.digest = x.tokenHash
  | _, _ => True

/-- What the ledger of a call says after a history. -/
abbrev ledger (h : History) : Traffic.Ledger := h.foldl (fun g e => g.note e.1 e.2) {}

theorem told_of_mem_drawn {h : History} {pair : Token.Pair} (mem : pair ∈ (ledger h).drawn) :
    ∃ n, h.Told (.token n) (.ok pair) := by
  induction h using List.reverseRecOn with
  | nil => cases mem
  | append_singleton h e ih =>
    obtain ⟨r, x⟩ := e
    rw [ledger, List.foldl_append] at mem
    rcases Traffic.Ledger.mem_drawn_note mem with before | ⟨n, rfl, same⟩
    · obtain ⟨n, told⟩ := ih before
      exact ⟨n, told.mono (List.prefix_append _ _)⟩
    · obtain rfl : x = .ok pair := eq_of_heq same
      exact ⟨n, History.told_last⟩

theorem wp_drawn {m : Manager} (o : Order) :
    (Discipline.remembering Drawn).wp (o.program m) (fun _ _ => True) [] := by
  have honest : (Discipline.remembering fun r h => Traffic.Ledger.honesty.allows r (ledger h)).wp
      (o.program m) (fun r h => Traffic.Ledger.vow o r (ledger h)) [] :=
    Discipline.remembering_of_recording (Traffic.Ledger.wp_program o)
  refine Discipline.wp_mono (fun _ _ _ => trivial)
    (Discipline.remembering_weaken (fun r h _ honest => ?_) (o.only_program m) honest)
  cases r with
  | store call =>
    cases call with
    | create x =>
      obtain ⟨pair, mem, digest⟩ := honest
      obtain ⟨n, told⟩ := told_of_mem_drawn mem
      exact ⟨n, pair, told, digest⟩
    | _ => trivial
  | _ => trivial

/-- A call that puts a session into the storage has drawn the token of the session. -/
theorem drew_of_stores (run : Service.Run (service m) s ts s') (idle : s.Idle)
    (numbered : s.Numbered) (ht : t ∈ ts) (stores : Stores x t.event) :
    ∃ token, Drew t.event.call token ts ∧ Token.digest token = x.tokenHash := by
  obtain ⟨c, moment, i, asked⟩ := eq_of_stores stores
  obtain ⟨a, b, rfl⟩ := List.append_of_mem ht
  obtain ⟨_, _, _, _, n, pair, told, digest⟩ := Discipline.allows_of_asked run idle numbered
    (fun o => Discipline.remembering_sign o.1 (wp_drawn o.2)) asked
  obtain ⟨u, hu, moment', j, drew⟩ := told_unsigned.mp told
  have mem : u ∈ a ++ t :: b := List.mem_append_left _ hu
  obtain ⟨w, answered⟩ := run.answer_eq mem drew
  refine ⟨pair.token, ⟨u, mem, moment', j, n, pair, ?_, rfl⟩, ?_⟩
  · rw [asked]
    exact drew
  · rw [← digest]
    exact (moment'.toMoment.digest_token (answered.symm : moment'.toMoment.token n = _)).symm

/-- A digest does not come back when each call that draws such a token has returned. -/
theorem tokenHash_ne_of_stores (first : Service.Run (service m) (fresh settings) ts s)
    (second : Service.Run (service m) s us s')
    (spent : ∀ c u, Drew c u (ts ++ us) → Token.digest u = tokenHash → Returned c ts) :
    ∀ t ∈ us, ∀ x, Stores x t.event → x.tokenHash ≠ tokenHash := by
  intro t ht x stores hash
  obtain ⟨u, drew, digest⟩ := drew_of_stores (first.append second) (fresh_idle settings)
    (fresh_numbered settings) (List.mem_append_right ts ht) stores
  obtain ⟨w, hw, o, r, returned⟩ := spent _ u drew (digest.trans hash)
  have ended := first.ended (fresh_numbered settings) hw returned
  exact (second.call_ne ended).1 t ht rfl

theorem not_stored_of_kept (run : Service.Run (service m) s us s')
    (absent : ¬ s.world.Stored tokenHash)
    (kept : ∀ t ∈ us, ∀ x, Stores x t.event → x.tokenHash ≠ tokenHash) :
    ∀ t ∈ us, ¬ t.after.world.Stored tokenHash := by
  refine (run.always (P := fun w => ¬ w.Stored tokenHash) (fun t ht step before => ?_) absent).1
  rintro ⟨x, mem, hash⟩
  rcases mem_of_mem_step step mem with mem | stores
  · exact before ⟨x, mem, hash⟩
  · exact kept t ht x stores hash

/-! ## Exposure to one manager -/

/-- The storage had the digest at the end of some step, and the manager has not dropped it since. -/
def Exposed (i : ι) (tokenHash : String) (ts : List (Transition ι)) : Prop :=
  Since (fun _ t => t.after.world.Stored tokenHash) (fun t => ¬ Drops i tokenHash t.event) ts

/-- The outlook of a call of a manager some steps after it began. -/
def outlook (i : ι) (w : World ι) (before ts : List (Transition ι)) : Outlook where
  first := w.generation i
  bumps := ts.countP fun t => bumps i t.event
  exposed k := Exposed i k (before ++ ts)

theorem moves {before : List (Transition ι)} {s₀ : State ι} {e : Event ι}
    (run : Service.Run (service m) s₀ ts s) (step : Service.Step (service m) s e s') (c : Nat) :
    (Outlook.caution.signed i).Moves c e (outlook i s₀.world before ts)
      (outlook i s₀.world before (ts ++ [⟨s, e, s'⟩])) := by
  have later : Outlook.Later (outlook i s₀.world before ts)
      (outlook i s₀.world before (ts ++ [⟨s, e, s'⟩])) := by
    refine ⟨rfl, List.Sublist.countP_le (List.sublist_append_left _ _), fun same k exposed => ?_⟩
    show Exposed i k (before ++ (ts ++ [⟨s, e, s'⟩]))
    rw [← List.append_assoc]
    refine since_snoc.mpr (.inr ⟨exposed, fun dropped => ?_⟩)
    -- A drop would have bumped the generation of the manager.
    simp [outlook, dropped.bumps] at same
  have last {k : String} (stored : s'.world.Stored k) :
      (outlook i s₀.world before (ts ++ [⟨s, e, s'⟩])).exposed k := by
    show Exposed i k (before ++ (ts ++ [⟨s, e, s'⟩]))
    rw [← List.append_assoc]
    exact since_snoc.mpr (.inl stored)
  cases step with
  | begun o => exact later
  | returned found => exact later
  | @asked d moment o q next found =>
    refine ⟨fun _ own => ⟨later, ?_⟩, fun _ => later⟩
    obtain ⟨j, r⟩ := q
    obtain rfl : j = i := own
    -- An answer that shows a digest is given by a storage that has it then.
    show Outlook.Shows r (moment.answer r (s.world.view j)).1 _
    cases r with
    | generation =>
      refine (generation_run run).trans ?_
      simp [outlook, Outlook.reached, bumps, Request.bumps]
    | store call =>
      cases call with
      | byHash k =>
        cases shown : (moment.answer (.store (.byHash k)) (s.world.view j)).1 with
        | error cause => trivial
        | ok x => exact last (Traffic.stored_of_byHash_ok shown).2
      | create x =>
        cases taken : (moment.answer (.store (.create x)) (s.world.view j)).1 with
        | error cause => trivial
        | ok done => exact last (Traffic.stored_of_create_ok taken)
      | _ => trivial
    | _ => trivial

/-- A call keeps to its caution all along a run. -/
theorem moves_run {before : List (Transition ι)} {s₀ : State ι}
    (run : Service.Run (service m) s₀ ts s) (c : Nat) :
    ∀ us t, us ++ [t] <+: ts → (Outlook.caution.signed i).Moves c t.event
      (outlook i s₀.world before us) (outlook i s₀.world before (us ++ [t])) := by
  intro us t cut
  obtain ⟨first, step⟩ := run.step_of_prefix cut
  exact moves first step c

/-- The beginning of a call does not bump the generation of any manager. -/
theorem bumps_outlook_begun {w : World ι} {before : List (Transition ι)} {call : ι × Order}
    (begun : t.event = .begun c call) :
    (outlook i w before (t :: ts)).bumps = ts.countP fun u => bumps i u.event := by
  simp [outlook, begun, bumps]

/-- What is filled into the cache is exposed to the manager that does it. -/
theorem exposed_of_fills (run : Service.Run (service m) (fresh settings) (a ++ t :: b) s)
    (brief : Brief i (a ++ t :: b))
    (asked : t.event = .asked c moment (i, .fill n tokenHash x) .done) :
    Exposed i tokenHash a := by
  obtain ⟨before, step, _⟩ := run.mid
  obtain ⟨o, ⟨u, hu, begun⟩, _⟩ :=
    grounded_of_asked run (fresh_idle settings) (fresh_numbered settings) asked
  obtain ⟨p, q, rfl⟩ := List.append_of_mem hu
  rw [List.append_assoc, List.cons_append] at run brief
  have few : q.countP (fun v => bumps i v.event) < UInt64.size := by
    simpa using brief p u q t b (i, o) rfl (by rw [asked]; exact begun)
  -- The run is seen from the beginning of the call, which keeps to its caution from there on.
  have call : Service.Run (service m) u.before ([] ++ u :: (q ++ t :: b)) s := run.tail
  have heeds := Discipline.heeds_of_begun (fun _ _ _ => True) (outlook i u.before.world p) call
    begun (Discipline.wp_sign i (Outlook.wp_program o)) (moves_run call c) q t ⟨b, by simp⟩
  rw [asked] at heeds step
  obtain ⟨answered, _⟩ := step.answer_eq
  -- The fill was of the current generation, or it would not have succeeded.
  have fills : Request.Fills tokenHash (.fill n tokenHash x)
      (moment.answer (.fill n tokenHash x) (t.before.world.view i)).1 := by
    have done : (moment.answer (.fill n tokenHash x) (t.before.world.view i)).1 = .done :=
      answered.symm
    rw [done]
    rfl
  obtain ⟨y, current⟩ := current_of_fills fills
  obtain ⟨_, exposed⟩ := heeds rfl
  apply exposed (bumps_outlook_begun begun ▸ few)
  cases current
  exact generation_run before.tail

/-! ## What puts a digest back -/

/-- A digest that got into the cache was filled in. -/
theorem fill_of_cached (run : Service.Run (service m) s ts s')
    (before : ¬ s.world.Cached tokenHash) (after : s'.world.Cached tokenHash) :
    ∃ a t b c moment i n x, ts = a ++ t :: b ∧
      t.event = .asked c moment (i, .fill n tokenHash x) .done := by
  obtain ⟨a, t, b, rfl, off, on⟩ :=
    run.exists_turn (P := fun w => w.Cached tokenHash) before after
  rcases cached_of_cached_step run.mid.2.1 (on t (by simp)) with ⟨held, _⟩ | fills
  · exact absurd held off
  · obtain ⟨c, moment, i, n, x, asked⟩ := eq_of_fills fills
    exact ⟨a, t, b, c, moment, i, n, x, rfl, asked⟩

/-- A session that is shown is in the storage. -/
theorem stored_of_shown (step : Service.Step (service m) t.before t.event t.after)
    (asked : t.event = .asked c moment (i, .store (.byHash tokenHash)) (.ok x)) :
    t.after.world.Stored tokenHash := by
  rw [asked] at step
  obtain ⟨answered, world⟩ := step.answer_eq
  rw [world]
  exact (Traffic.stored_of_byHash_ok (t := moment.toMoment) answered.symm).2

/-- A manager does not fill in what it has dropped itself, if the storage has not had it since. -/
theorem ne_of_fills (run : Service.Run (service m) (fresh settings) (a ++ t :: (b ++ v :: d)) s)
    (brief : Brief i (a ++ t :: (b ++ v :: d))) (drops : Drops i tokenHash t.event)
    (gone : ∀ u ∈ t :: b, ¬ u.after.world.Stored tokenHash)
    (filled : v.event = .asked e moment (j, .fill n tokenHash x) .done) : j ≠ i := by
  rintro rfl
  have parts : a ++ t :: (b ++ v :: d) = (a ++ t :: b) ++ v :: d := by simp
  rw [parts] at run brief
  have ended : ¬ Exposed j tokenHash (a ++ t :: b) :=
    not_since_of_not_keeps (not_not_intro drops) fun _ u hu => gone u hu
  exact ended (exposed_of_fills run brief filled)

/-- Who fills a session in was shown it before, or has drawn its token. -/
theorem shown_or_drew_of_fills (run : Service.Run (service m) (fresh settings) (a ++ v :: d) s)
    (filled : v.event = .asked e moment (j, .fill n tokenHash x) .done) :
    (∃ l ∈ a, ∃ moment, l.event = .asked e moment (j, .store (.byHash tokenHash)) (.ok x)) ∨
      ∃ token, Drew e token (a ++ v :: d) ∧ Token.digest token = tokenHash := by
  have numbered := fresh_numbered (ι := ι) settings
  obtain ⟨o, ⟨w, hw, begun⟩, _, hash, told | told⟩ :=
    grounded_of_asked run (fresh_idle settings) numbered filled
  · obtain ⟨l, hl, moment, k, shown⟩ := told_unsigned.mp told
    obtain ⟨rfl, _⟩ := asks_of_mem_begun run numbered (List.mem_append_left _ hw) begun
      (List.mem_append_left _ hl) shown
    exact .inl ⟨l, hl, moment, shown⟩
  · obtain ⟨l, hl, moment, k, stored⟩ := told_unsigned.mp told
    obtain ⟨token, drew, digest⟩ := drew_of_stores run (fresh_idle settings) numbered
      (x := x) (List.mem_append_left _ hl) (by rw [stored]; exact rfl)
    rw [stored] at drew
    exact .inr ⟨token, drew, digest.trans hash⟩

/-- After one manager has dropped a digest that the storage has lost for good, it is in the cache
again only if another manager was shown the session before and has filled it in since. -/
theorem put_back_of_cached (first : Service.Run (service m) (fresh settings) ts s)
    (second : Service.Run (service m) s (a ++ u :: (b ++ t :: d)) s')
    (brief : Brief i (ts ++ (a ++ u :: (b ++ t :: d))))
    (spent : ∀ c v, Drew c v (ts ++ (a ++ u :: (b ++ t :: d))) → Token.digest v = tokenHash →
      Returned c ts)
    (absent : ¬ u.after.world.Stored tokenHash) (drops : Drops i tokenHash t.event)
    (clears : Clears tokenHash t.event) (held : s'.world.Cached tokenHash) :
    ∃ e j n x moment moment' l g, j ≠ i ∧ l ∈ ts ++ a ∧ g ∈ d ∧
      l.event = .asked e moment (j, .store (.byHash tokenHash)) (.ok x) ∧
      g.event = .asked e moment' (j, .fill n tokenHash x) .done := by
  have kept := tokenHash_ne_of_stores first second spent
  obtain ⟨_, _, after⟩ := second.mid
  have gone : ∀ v ∈ u :: (b ++ t :: d), ¬ v.after.world.Stored tokenHash := by
    refine List.forall_mem_cons.mpr ⟨absent, not_stored_of_kept after absent fun v hv => ?_⟩
    exact kept v (by simp [hv])
  obtain ⟨_, step, rest⟩ := after.mid
  obtain ⟨p, g, q, e, moment', j, n, x, rfl, filled⟩ :=
    fill_of_cached rest (not_cached_of_clears step clears) held
  -- The whole run as it is seen from the drop, and as it is seen from the fill.
  have dropped : ts ++ (a ++ u :: (b ++ t :: (p ++ g :: q))) =
      (ts ++ (a ++ u :: b)) ++ t :: (p ++ g :: q) := by simp
  have whole := first.append second
  have other : j ≠ i := by
    rw [dropped] at whole brief
    refine ne_of_fills whole brief drops (fun v hv => gone v ?_) filled
    simp only [List.mem_append, List.mem_cons] at hv ⊢
    tauto
  have filling : ts ++ (a ++ u :: (b ++ t :: (p ++ g :: q))) =
      (ts ++ (a ++ u :: (b ++ t :: p))) ++ g :: q := by simp
  rw [filling] at whole spent
  rcases shown_or_drew_of_fills whole filled with ⟨l, hl, moment, shown⟩ | ⟨v, drew, digest⟩
  · -- Nobody was shown the session after the storage had lost it.
    have early : l ∉ u :: (b ++ t :: (p ++ g :: q)) := fun late =>
      gone l late (stored_of_shown (whole.step_of_mem (List.mem_append_left _ hl)) shown)
    refine ⟨e, j, n, x, moment, moment', l, g, other, ?_, by simp, shown, filled⟩
    simp only [List.mem_append, List.mem_cons, not_or] at hl early ⊢
    tauto
  · -- Who has drawn the token had returned before.
    obtain ⟨w, hw, o, r, returned⟩ := spent _ v drew digest
    have ended := first.ended (fresh_numbered settings) hw returned
    refine absurd ?_ ((second.call_ne ended).1 g (by simp))
    rw [filled]
    rfl

/-! ## Verifications -/

/-- A digest that the storage does not have can only be verified out of the cache. -/
theorem cached_of_verified (run : Service.Run (service m) s ts s')
    (absent : ∀ t ∈ ts, ¬ t.after.world.Stored (Token.digest token))
    (order : [Service.Event.begun c (i, .verify token),
      .returned c (i, .verify token) (.ok x)].Sublist (ts.map (·.event))) :
    ∃ a t b, ts = a ++ t :: b ∧ t.before.world.Cached (Token.digest token) ∧
      .returned c (i, .verify token) (.ok x) ∈ b.map (·.event) := by
  obtain ⟨a, v, b, rfl, begun, rest⟩ := Service.cons_sublist_events order
  obtain ⟨b, w, d, rfl, returned, _⟩ := Service.cons_sublist_events rest
  have accepts : History.Accepts (unsigned (history c b)) token x :=
    keeps_of_returned run begun returned
  rcases accepts.found with hit | ⟨shown, _⟩
  · obtain ⟨t, ht, moment, j, asked⟩ := told_unsigned.mp hit
    obtain ⟨p, q, rfl⟩ := List.append_of_mem ht
    have step := run.step_of_mem (t := t) (by simp)
    rw [asked] at step
    exact ⟨a ++ v :: p, t, q ++ w :: d, by simp, cached_of_hit step.answer_eq.1.symm,
      by simp [returned]⟩
  · obtain ⟨t, ht, moment, j, asked⟩ := told_unsigned.mp shown
    have mem : t ∈ a ++ v :: (b ++ w :: d) := by simp [ht]
    exact absurd (stored_of_shown (run.step_of_mem mem) asked) (absent t mem)

/-- A token is verified after one manager has dropped its digest, which the storage has lost for
good, only if another manager has put it back. -/
theorem put_back_of_verified (first : Service.Run (service m) (fresh settings) ts s)
    (second : Service.Run (service m) s (a ++ u :: (b ++ t :: d)) s')
    (brief : Brief i (ts ++ (a ++ u :: (b ++ t :: d))))
    (spent : ∀ c v, Drew c v (ts ++ (a ++ u :: (b ++ t :: d))) →
      Token.digest v = Token.digest token → Returned c ts)
    (absent : ¬ u.after.world.Stored (Token.digest token))
    (drops : Drops i (Token.digest token) t.event) (clears : Clears (Token.digest token) t.event)
    (order : [Service.Event.begun c (j, .verify token),
      .returned c (j, .verify token) (.ok x)].Sublist (d.map (·.event))) :
    ∃ e k n y moment moment' l, k ≠ i ∧ l ∈ ts ++ a ∧
      l.event = .asked e moment (k, .store (.byHash (Token.digest token))) (.ok y) ∧
      [Service.Event.asked e moment' (k, .fill n (Token.digest token) y) .done,
        .returned c (j, .verify token) (.ok x)].Sublist (d.map (·.event)) := by
  have kept := tokenHash_ne_of_stores first second spent
  have later : ∀ v ∈ b ++ t :: d, ¬ v.after.world.Stored (Token.digest token) :=
    not_stored_of_kept second.mid.2.2 absent fun v hv => kept v (by simp [hv])
  obtain ⟨_, _, rest⟩ := second.mid.2.2.mid
  obtain ⟨p, h, q, rfl, held, returned⟩ :=
    cached_of_verified rest (fun v hv => later v (by simp [hv])) order
  -- The run is cut where the cache was seen to have the digest.
  have parts : a ++ u :: (b ++ t :: (p ++ h :: q)) = (a ++ u :: (b ++ t :: p)) ++ h :: q := by simp
  rw [parts] at second spent brief
  rw [← List.append_assoc] at brief
  obtain ⟨before, _, _⟩ := second.mid
  have sub : ts ++ (a ++ u :: (b ++ t :: p)) ⊆ ts ++ (a ++ u :: (b ++ t :: p) ++ h :: q) :=
    List.append_subset.mpr ⟨List.subset_append_left _ _,
      List.Subset.trans (List.subset_append_left _ _) (List.subset_append_right _ _)⟩
  obtain ⟨e, k, n, y, moment, moment', l, g, other, hl, hg, shown, filled⟩ :=
    put_back_of_cached first before brief.of_append (fun c v drew => spent c v (drew.mono sub))
      absent drops clears held
  refine ⟨e, k, n, y, moment, moment', l, other, hl, shown, ?_⟩
  obtain ⟨p, p', rfl⟩ := List.append_of_mem hg
  rw [← filled, List.append_assoc, List.cons_append]
  apply Service.sublist_cons_events
  apply List.singleton_sublist.mpr
  simpa using .inr (.inr (by simpa using returned))

end SessionKit.Fleet
