import SessionKit.Proofs.Rules
import SessionKit.Proofs.Traffic

/-!
# Where sessions come from

Each call keeps a ledger of the tokens that it has drawn and of the sessions that it has put into
the storage. It puts none there whose token it has not drawn, so whatever is in the storage under
the digest of a token was put there by a call that drew that token.
-/

namespace SessionKit.Traffic

open Manager (Request Answer Order)

variable {m : Manager} {s s' : State} {ts us : List Transition} {t : Transition} {c : Nat}
  {x : Session}

/-! ## Ledgers -/

structure Ledger where
  drawn : List Token.Pair := []
  /-- The sessions that were offered to the storage, whether it took them or not. -/
  put : List Session := []

namespace Ledger

variable {g : Ledger}

def note (g : Ledger) : (r : Request) → Answer r → Ledger
  | .token _, .ok pair => { g with drawn := g.drawn ++ [pair] }
  | .store (.create s), _ => { g with put := g.put ++ [s] }
  | _, _ => g

/-- The request neither draws a token nor puts a session into the storage. -/
def Passive : Request → Prop
  | .token _ => False
  | .store (.create _) => False
  | _ => True

theorem note_of_passive {r : Request} (h : Passive r) (y : Answer r) : g.note r y = g := by
  cases r with
  | token n => exact absurd h id
  | store call =>
    cases call with
    | create s => exact absurd h id
    | _ => rfl
  | _ => rfl

theorem mem_drawn_note {r : Request} {y : Answer r} {pair : Token.Pair}
    (h : pair ∈ (g.note r y).drawn) :
    pair ∈ g.drawn ∨ ∃ n, r = .token n ∧ HEq y (Except.ok pair : Answer (.token n)) := by
  unfold note at h
  split at h
  next n p =>
    rcases List.mem_append.mp h with h | h
    · exact .inl h
    · rw [List.mem_singleton.mp h]
      exact .inr ⟨n, rfl, HEq.rfl⟩
  next => exact .inl h
  next => exact .inl h

/-- The ledger of a call after some steps. -/
abbrev after (c : Nat) (ts : List Transition) : Ledger := Discipline.record note c {} ts

/-- What is in the ledger was drawn in a step of the call. -/
theorem mem_drawn {pair : Token.Pair} (h : pair ∈ (after c ts).drawn) :
    ∃ t ∈ ts, ∃ moment n, t.event = .asked c moment (.token n) (.ok pair) := by
  induction ts using List.reverseRecOn with
  | nil => cases h
  | append_singleton ts t ih =>
    -- The last step leaves the tokens of the ledger alone, or it draws this one.
    have step : pair ∈ (after c ts).drawn ∨
        ∃ moment n, t.event = .asked c moment (.token n) (.ok pair) := by
      rw [after, Discipline.record_snoc] at h
      unfold Discipline.enter at h
      split at h
      next d moment r y found =>
        split at h
        next own =>
          rcases mem_drawn_note h with h | ⟨n, rfl, hy⟩
          · exact .inl h
          · rw [eq_of_heq hy, own] at found
            exact .inr ⟨moment, n, found⟩
        next => exact .inl h
      next => exact .inl h
    rcases step with h | drawn
    · obtain ⟨u, hu, drawn⟩ := ih h
      exact ⟨u, List.mem_append_left _ hu, drawn⟩
    · exact ⟨t, by simp, drawn⟩

theorem mem_put_note {r : Request} (y : Answer r) (h : x ∈ g.put) : x ∈ (g.note r y).put := by
  unfold note
  split
  · exact h
  · exact List.mem_append_left _ h
  · exact h

theorem mem_put_enter (e : Event) (h : x ∈ g.put) : x ∈ (Discipline.enter note c g e).put := by
  unfold Discipline.enter
  split
  · split
    · exact mem_put_note _ h
    · exact h
  · exact h

/-- A session that a call has put into the storage is in its ledger from then on. -/
theorem mem_put (h : t ∈ ts) (own : t.event.call = c) (stores : Stores x t.event) :
    x ∈ (after c ts).put := by
  induction ts using List.reverseRecOn with
  | nil => simp at h
  | append_singleton ts u ih =>
    rw [after, Discipline.record_snoc]
    rcases List.mem_append.mp h with h | h
    · exact mem_put_enter _ (ih h)
    · obtain rfl := List.mem_singleton.mp h
      obtain ⟨d, moment, found⟩ := eq_of_stores stores
      rw [found] at own ⊢
      rw [Discipline.enter, if_pos (show d = c from own)]
      simp [note]

/-! ## Honesty -/

/-- To put into the storage only sessions whose tokens were drawn. -/
def honesty : Discipline Request Answer Ledger :=
  .recording note fun
    | .store (.create s), g => ∃ pair ∈ g.drawn, pair.digest = s.tokenHash
    | _, _ => True

theorem honesty_quiet : honesty.Quiet where
  allows _ _ := trivial
  learns learnt := learnt.symm

theorem allows_of_passive {r : Request} (h : Passive r) : honesty.allows r g := by
  cases r with
  | store call =>
    cases call with
    | create s => exact absurd h id
    | _ => trivial
  | _ => trivial

theorem wp_passive {α : Type} {p : Manager.Action α} (h : p.Only Passive) :
    honesty.wp p (fun _ g' => g' = g) g := by
  induction p with
  | done a => exact fun _ => Eq.symm
  | ask r k ih =>
    rintro _ rfl
    refine ⟨allows_of_passive h.1, fun y _ learnt => ?_⟩
    rw [(learnt : _ = _), note_of_passive h.1]
    exact ih y (h.2 y)

theorem wp_drawCredentials :
    honesty.wp m.drawCredentials.run
      (fun r g' => ∀ y, r = .ok y → g' = { g with drawn := g.drawn ++ [y.1] }) g := by
  rw [Manager.drawCredentials_run]
  rintro _ rfl
  refine ⟨trivial, fun y _ learnt => ?_⟩
  cases y with
  | error cause => exact fun _ _ _ failed => nomatch failed
  | ok pair =>
    rintro _ rfl
    refine ⟨trivial, fun id _ learnt' => ?_⟩
    cases id with
    | error cause => exact fun _ _ _ failed => nomatch failed
    | ok id =>
      rintro _ rfl _ same
      cases same
      exact learnt'.trans learnt

theorem wp_storeCreate (h : ∃ pair ∈ g.drawn, pair.digest = x.tokenHash) :
    honesty.wp (Manager.store "create session" (.create x)).run
      (fun _ g' => g' = { g with put := g.put ++ [x] }) g := by
  rw [Manager.store_run]
  rintro _ rfl
  refine ⟨h, fun answer _ learnt => ?_⟩
  cases answer with
  | ok u => exact fun _ same => same.symm.trans learnt
  | error cause => exact fun _ same => same.symm.trans learnt

/-- A call that issues a session has put this session into the storage, and no other one. -/
def Adds (g : Ledger) (r : Except Session.Error Session.Created) (g' : Ledger) : Prop :=
  ∀ created, r = .ok created → g'.put = g.put ++ [created.session]

theorem adds_error {e : Session.Error} {g' : Ledger} : g.Adds (.error e) g' :=
  fun _ failed => nomatch failed

theorem wp_create (userId ipAddress userAgent : String) :
    honesty.wp (m.create userId ipAddress userAgent).run g.Adds g := by
  rw [Manager.create_run]
  refine Discipline.wp_andThen wp_drawCredentials (fun y g₁ drawn => ?_)
    (fun _ _ _ _ _ => adds_error)
  obtain rfl := drawn y rfl
  rintro _ rfl
  refine ⟨trivial, fun (now : Timestamp) g₂ learnt => ?_⟩
  obtain rfl : g₂ = { g with drawn := g.drawn ++ [y.1] } := learnt
  cases h : now.add? m.settings.maxAge with
  | none =>
    rw [Manager.createAt_none m h]
    exact fun _ _ => adds_error
  | some expiresAt =>
    rw [Manager.createAt_some m h]
    refine Discipline.wp_bind_of (wp_passive (m.only_currentGeneration trivial))
      fun n g₃ same => ?_
    obtain rfl := same
    refine Discipline.wp_andThen (wp_storeCreate ⟨y.1, by simp, rfl⟩) (fun _ g₄ stored => ?_)
      (fun _ _ _ _ _ => adds_error)
    refine Discipline.wp_bind_of (wp_passive (m.only_cacheFill (fun _ => trivial) fun _ => trivial))
      fun _ g₅ same => ?_
    refine honesty_quiet.wp_log_bind fun _ later created issued => ?_
    cases issued
    rw [← later, same, stored]

theorem wp_refresh (token : String) : honesty.wp (m.refresh token).run g.Adds g := by
  have logs : ∀ e, Passive (.log e) := fun _ => trivial
  rw [Manager.refresh_run]
  refine Discipline.wp_andThen (wp_passive (m.only_verify logs trivial trivial trivial trivial
    trivial trivial fun _ _ _ => trivial)) (fun old g₁ same => ?_) (fun _ _ _ _ _ => adds_error)
  obtain rfl := same
  refine Discipline.wp_andThen (wp_passive (m.only_destroy logs trivial trivial))
    (fun _ g₂ same => ?_) (fun _ _ _ _ _ => adds_error)
  obtain rfl := same
  refine Discipline.wp_andThen (wp_create _ _ _) (fun created g₃ adds => ?_)
    (fun _ _ _ _ _ => adds_error)
  refine honesty_quiet.wp_log_bind fun _ later _ issued => ?_
  cases issued
  rw [← later]
  exact adds created rfl

/-- What is promised of an order at its end, when its ledger was empty at its beginning. -/
def vow (o : Order) (r : o.Result) (g : Ledger) : Prop :=
  ∀ created, o.issued? r = some created → g.put = [created.session]

theorem wp_program (o : Order) : honesty.wp (o.program m) (vow o) {} := by
  -- All other orders neither draw tokens nor create sessions.
  have silent (no_token : ∀ n, ¬ o.Asks (.token n)) (no_create : ∀ x, ¬ o.Asks (.store (.create x)))
      (none : ∀ r, o.issued? r = none) : honesty.wp (o.program m) (vow o) {} := by
    refine Discipline.wp_mono (fun r g _ created issued => ?_)
      (wp_passive ((o.only_program m).mono fun r asked => ?_))
    · rw [none r] at issued
      cases issued
    · cases r with
      | token n => exact no_token n asked
      | store call =>
        cases call with
        | create x => exact no_create x asked
        | _ => trivial
      | _ => trivial
  cases o with
  | create userId ipAddress userAgent =>
    refine Discipline.wp_mono (fun r g adds created issued => ?_) (wp_create _ _ _)
    cases r with
    | ok c =>
      cases issued
      exact adds _ rfl
    | error e => cases issued
  | refresh token =>
    refine Discipline.wp_mono (fun r g adds created issued => ?_) (wp_refresh _)
    cases r with
    | ok c =>
      cases issued
      exact adds _ rfl
    | error e => cases issued
  | _ => exact silent (fun _ => id) (fun _ => id) fun _ => rfl

end Ledger

/-! ## Along a run -/

/-- A call has drawn a token. -/
def Drew (c : Nat) (token : String) (ts : List Transition) : Prop :=
  ∃ t ∈ ts, ∃ moment n pair, t.event = .asked c moment (.token n) (.ok pair) ∧ pair.token = token

theorem Drew.mono {token : String} (h : Drew c token ts) (sub : ts ⊆ us) : Drew c token us := by
  obtain ⟨t, ht, drew⟩ := h
  exact ⟨t, sub ht, drew⟩

/-- The tokens that were drawn, each with the call that drew it. -/
def draws (ts : List Transition) : List (Nat × String) :=
  ts.filterMap fun t => match t.event with
    | .asked c _ (.token _) (.ok pair) => some (c, pair.token)
    | _ => none

theorem mem_draws {token : String} (h : Drew c token ts) : (c, token) ∈ draws ts := by
  obtain ⟨t, ht, moment, n, pair, drew, rfl⟩ := h
  exact List.mem_filterMap.mpr ⟨t, ht, by rw [drew]⟩

/-- A call that puts a session into the storage has drawn the token of the session. -/
theorem drew_of_stores (run : Service.Run (service m) s ts s') (idle : s.Idle) (h : t ∈ ts)
    (stores : Stores x t.event) :
    ∃ token, Drew t.event.call token ts ∧ Token.digest token = x.tokenHash := by
  obtain ⟨d, moment, found⟩ := eq_of_stores stores
  obtain ⟨us, rest, rfl⟩ := List.append_of_mem h
  obtain ⟨before, step, _⟩ := run.mid
  rw [found] at step ⊢
  obtain ⟨o, k, flying⟩ := step.flight_of_asked
  obtain ⟨u, hu, begun⟩ := before.begun_of_flight idle flying
  obtain ⟨a, b, rfl⟩ := List.append_of_mem hu
  rw [List.append_assoc, List.cons_append] at run
  have honest := Discipline.heeds_record run begun (Ledger.wp_program o) b t ⟨rest, by simp⟩
  rw [found] at honest
  -- The digest in the ledger is that of the token, since both come from the same draw.
  obtain ⟨pair, drawn, digest⟩ := honest rfl
  obtain ⟨w, hw, instant, n, drew⟩ := Ledger.mem_drawn drawn
  have mem : w ∈ a ++ u :: b ++ t :: rest := by simp [hw]
  obtain ⟨_, answered⟩ := run.answer_eq (by simpa using mem) drew
  have same := instant.digest_token answered.symm
  exact ⟨pair.token, ⟨w, mem, instant, n, pair, drew, rfl⟩, same.symm.trans digest⟩

/-- A call that issues a session has put no other session into the storage. -/
theorem eq_of_issued {o : Order} {r : o.Result} {created : Session.Created} {w : Transition}
    (run : Service.Run (service m) s ts s') (idle : s.Idle) (numbered : s.Numbered)
    (h : t ∈ ts) (returned : t.event = .returned c o r) (issued : o.issued? r = some created)
    (hw : w ∈ ts) (own : w.event.call = c) (stores : Stores x w.event) :
    x = created.session := by
  obtain ⟨us, rest, rfl⟩ := List.append_of_mem h
  obtain ⟨before, step, later⟩ := run.mid
  rw [returned] at step
  have flying := step.flight_of_returned
  obtain ⟨u, hu, begun⟩ := before.begun_of_flight idle flying
  obtain ⟨a, b, rfl⟩ := List.append_of_mem hu
  rw [List.append_assoc, List.cons_append] at run
  have honest := Discipline.heeds_record run begun (Ledger.wp_program o) b t ⟨rest, by simp⟩
  rw [returned] at honest
  have put : ∀ y ∈ (Ledger.after c b).put, y = created.session := by
    rw [Ledger.after, honest rfl created issued]
    simp
  -- The step is one of the call, so it comes after its beginning and before its return.
  have later' := run.mem_of_begun numbered begun (by simpa using hw) own fun o' starts => by
    rw [starts] at stores
    exact stores
  rcases List.mem_append.mp later' with hw | hw
  · exact put x (Ledger.mem_put hw own stores)
  · rcases List.mem_cons.mp hw with rfl | hw
    · rw [returned] at stores
      exact absurd stores id
    · exact absurd own ((later.call_ne (step.ended (before.numbered numbered))).1 w hw)

/-- What is in the storage at the end was there at the start, or was put there. -/
theorem mem_or_stores_of_mem (run : Service.Run (service m) s ts s')
    (mem : x ∈ s'.world.storage.sessions) :
    x ∈ s.world.storage.sessions ∨ ∃ t ∈ ts, Stores x t.event := by
  by_cases before : x ∈ s.world.storage.sessions
  · exact .inl before
  · obtain ⟨a, t, b, rfl, off, on⟩ :=
      run.exists_turn (P := fun w => x ∈ w.storage.sessions) before mem
    have stores := (mem_of_mem_step run.mid.2.1 (on t (by simp))).resolve_left off
    exact .inr ⟨t, by simp, stores⟩

/-- What is in the storage was put there. -/
theorem stores_of_mem (run : Service.Run (service m) s ts s')
    (empty : s.world.storage.sessions = []) (h : x ∈ s'.world.storage.sessions) :
    ∃ t ∈ ts, Stores x t.event := by
  refine (mem_or_stores_of_mem run h).resolve_left ?_
  simp [empty]

end SessionKit.Traffic
