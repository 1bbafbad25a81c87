import SessionKit.Proofs.Accounts
import SessionKit.Proofs.Removal
import SessionKit.Proofs.Survival

/-!
# The tally of sessions

Every session that a call claims to have ended was taken out of the storage by a deletion of that
very call, and no other call was told of that deletion. So what is stored, with all that was ended,
is no more than what was created, whatever the schedule is. For one token this leaves a single call
that ends its session; of those that destroy it and nothing else, one does.
-/

namespace SessionKit.Traffic

open Manager (Request Answer Order History)
open Discipline (history mem_history)

variable {m : Manager} {settings : Cache.Settings} {s s' : State} {ts us : List Transition}
  {t : Transition} {e : Event} {c : Nat} {p : Session → Bool} {token : String}

/-! ## Stored sessions -/

/-- How many stored sessions there are of some kind. -/
def size (p : Session → Bool) (w : World) : Nat := w.storage.sessions.countP p

theorem size_le_of_not_stores (step : Service.Step (service m) s e s') (none : ∀ x, ¬ Stores x e) :
    size p s'.world ≤ size p s.world := by
  unfold size
  cases step with
  | begun o => exact Nat.le_refl _
  | returned found => exact Nat.le_refl _
  | @asked c moment o r k found =>
    cases r with
    | store call =>
      simp only [serve_store] at none ⊢
      rcases store_cases (t := moment) (w := s.world) call with ⟨reason, failed⟩ | done
      · rw [failed]
      · rw [done] at none ⊢
        by_cases creates : ∃ x, call = .create x
        · obtain ⟨x, rfl⟩ := creates
          -- A creation that fails adds nothing.
          have refused : ¬ (s.world.storage.create x).answer = .ok () := by
            intro ok
            apply none x
            show Storage.Call.Stores x (.create x) (s.world.storage.create x).answer
            rw [ok]
            exact rfl
          have bound := s.world.storage.countP_create_le p (t := x)
          rw [if_neg fun both => refused both.1] at bound
          exact bound
        · exact Storage.Memory.countP_call_le p fun x same => creates ⟨x, same⟩
    | _ =>
      rw [storage_serve (by simp)]

/-- The storage gains a session only by a creation that succeeds. -/
theorem gained_le (step : Service.Step (service m) t.before t.event t.after) :
    Service.gained (size p) t ≤ (created? t.event).toList.countP p := by
  unfold Service.gained
  cases created : created? t.event with
  | none =>
    have none (x : Session) (stores : Stores x t.event) : False := by
      rw [created?_eq_some.mpr stores] at created
      cases created
    have bound : size p t.after.world ≤ size p t.before.world := size_le_of_not_stores step none
    rw [Nat.sub_eq_zero_of_le bound]
    exact Nat.zero_le _
  | some x =>
    -- The creation adds one session, which counts if it is of that kind.
    obtain ⟨c, moment, asked⟩ := eq_of_stores (created?_eq_some.mp created)
    rw [asked] at step
    obtain ⟨answered, world⟩ := step.answer_eq
    rw [world, size, size]
    simp only [serve_store] at answered ⊢
    rcases store_cases (t := moment) (w := t.before.world) (.create x) with ⟨reason, failed⟩ | done
    · rw [failed]
      simp
    · rw [done]
      have bound := t.before.world.storage.countP_create_le p (t := x)
      have one : (if (t.before.world.storage.create x).answer = .ok () ∧ p x then 1 else 0) ≤
          (some x).toList.countP p := by
        by_cases picked : p x
        · have counted : (some x).toList.countP p = 1 := by simp [picked]
          rw [counted]
          split
          · exact Nat.le_refl _
          · exact Nat.zero_le _
        · rw [if_neg fun both => picked both.2]
          exact Nat.zero_le _
      show (t.before.world.storage.create x).state.sessions.countP p - _ ≤ _
      omega

theorem creations_snoc : creations (ts ++ [t]) = creations ts ++ (created? t.event).toList := by
  unfold creations
  rw [List.filterMap_append]
  cases created : created? t.event <;> simp [created]

theorem total_gained_le (run : Service.Run (service m) s ts s') :
    Service.total (Service.gained (size p)) ts ≤ (creations ts).countP p := by
  induction run with
  | start => simp
  | snoc _ step ih =>
    rw [Service.total_append, creations_snoc, List.countP_append]
    have last := gained_le (t := ⟨_, _, _⟩) (p := p) step
    simp only [Service.total_cons, Service.total_nil, Nat.add_zero]
    exact Nat.add_le_add ih last

/-! ## Charges -/

/-- What a deletion says that it has taken is lost. -/
theorem le_lost_of_takes {call : Storage.Call} {moment : Moment} {x : Storage.Answer call} {n : Nat}
    (step : Service.Step (service m) t.before t.event t.after)
    (asked : t.event = .asked c moment (.store call) x) (takes : call.Takes p n x) :
    n ≤ Service.lost (size p) t := by
  rw [asked] at step
  obtain ⟨rfl, world⟩ := step.answer_eq
  unfold Service.lost
  rw [world, size, size]
  simp only [serve_store] at takes ⊢
  rcases store_cases (t := moment) (w := t.before.world) call with ⟨reason, failed⟩ | done
  · -- A deletion that fails takes nothing.
    rw [failed] at takes
    cases call <;> exact absurd takes id
  · rw [done] at takes ⊢
    have bound := Storage.Memory.countP_add_le_of_takes takes
    show n ≤ _ - (t.before.world.storage.call moment.now call).state.sessions.countP p
    omega

/-- Where calls are charged with no more than what they were told that they have taken, what is
stored, with all that is charged, is no more than what was created. -/
theorem size_add_charged_le {charge : (o : Order) → o.Result → Nat}
    (run : Service.Run (service m) (fresh settings) ts s)
    (covered : ∀ (o : Order) (r : o.Result) (h : History), o.Keeps r h → charge o r = 0 ∨
      ∃ call x, h.Told (.store call) x ∧ call.Takes p (charge o r) x) :
    size p s.world + Service.total (Service.charged charge) ts ≤ (creations ts).countP p := by
  have taken : Service.total (Service.charged charge) ts ≤
      Service.total (Service.lost (size p)) ts := by
    refine run.total_charged_le (fresh_numbered settings) fun t ht c o r returned => ?_
    have keeps := Manager.keeps_of_returned run (fresh_idle settings) (fresh_numbered settings)
      (fun _ => rfl) ht returned
    rcases covered o r _ keeps with nothing | ⟨call, x, told, takes⟩
    · exact .inl nothing
    · obtain ⟨u, hu, moment, asked⟩ := mem_history.mp told
      have enough := le_lost_of_takes (run.step_of_mem hu) asked takes
      exact .inr ⟨u, hu, by rw [asked]; rfl, enough⟩
  -- Nothing is stored in the beginning, so what is there and what was lost has been gained.
  have balance := run.size_add_lost (size p)
  have empty : size p (fresh settings).world = 0 := rfl
  have grown := total_gained_le (p := p) run
  omega

/-- How many sessions a call says that it has ended. -/
def ended : (o : Order) → o.Result → Nat
  | .destroy _, .ok () => 1
  | .refresh _, .ok _ => 1
  | .destroyOfUser _, .ok n => n
  | .purge, .ok n => n
  | _, _ => 0

/-- Whether a call says that it has ended the session of a token. -/
def endedWith (token : String) : (o : Order) → o.Result → Nat
  | .destroy u, .ok () => if u = token then 1 else 0
  | .refresh u, .ok _ => if u = token then 1 else 0
  | _, _ => 0

theorem ended_covered (o : Order) (r : o.Result) (h : History) (keeps : o.Keeps r h) :
    ended o r = 0 ∨
      ∃ call x, h.Told (.store call) x ∧ call.Takes (fun _ => true) (ended o r) x := by
  cases o with
  | destroy token =>
    cases r with
    | ok u => exact .inr ⟨_, _, Manager.told_of_destroyed [] keeps, Nat.le_refl _, fun _ _ => rfl⟩
    | error e => exact .inl rfl
  | refresh token =>
    cases r with
    | ok created => exact .inr ⟨_, _, keeps.2, Nat.le_refl _, fun _ _ => rfl⟩
    | error e => exact .inl rfl
  | destroyOfUser userId =>
    cases r with
    | ok n => exact .inr ⟨_, _, keeps, Nat.le_refl _, fun _ _ => rfl⟩
    | error e => exact .inl rfl
  | purge =>
    cases r with
    | ok n => exact .inr ⟨_, _, keeps, Nat.le_refl _, fun _ => rfl⟩
    | error e => exact .inl rfl
  | _ => exact .inl rfl

theorem endedWith_covered (token : String) (o : Order) (r : o.Result) (h : History)
    (keeps : o.Keeps r h) :
    endedWith token o r = 0 ∨ ∃ call x, h.Told (.store call) x ∧
      call.Takes (fun x => x.tokenHash = Token.digest token) (endedWith token o r) x := by
  have one (u : String) (own : u = token) (n : Nat) (le : n ≤ 1)
      (told : h.Told (.store (.deleteByHash (Token.digest u))) (.ok ())) :
      ∃ call x, h.Told (.store call) x ∧
        call.Takes (fun x => x.tokenHash = Token.digest token) n x := by
    refine ⟨_, _, told, le, fun x hash => ?_⟩
    rw [own] at hash
    exact decide_eq_true hash
  cases o with
  | destroy u =>
    cases r with
    | ok _ =>
      by_cases own : u = token
      · refine .inr (one u own _ ?_ (Manager.told_of_destroyed [] keeps))
        simp [endedWith, own]
      · exact .inl (if_neg own)
    | error e => exact .inl rfl
  | refresh u =>
    cases r with
    | ok created =>
      by_cases own : u = token
      · refine .inr (one u own _ ?_ keeps.2)
        simp [endedWith, own]
      · exact .inl (if_neg own)
    | error e => exact .inl rfl
  | _ => exact .inl rfl

/-! ## One token -/

/-- No two calls draw the token, and no other token that is drawn has its digest. -/
structure Distinct (token : String) (ts : List Transition) : Prop where
  sole : ∀ c d, Drew c token ts → Drew d token ts → c = d
  apart : ∀ c u, Drew c u ts → Token.digest u = Token.digest token → u = token

theorem Distinct.mono (h : Distinct token us) (sub : ts ⊆ us) : Distinct token ts where
  sole c d drew drew' := h.sole c d (drew.mono sub) (drew'.mono sub)
  apart c u drew := h.apart c u (drew.mono sub)

/-- Whether this is so can be read off the tokens that were drawn. -/
theorem distinct_of_draws
    (sole : ∀ p ∈ draws ts, ∀ q ∈ draws ts, p.2 = token → q.2 = token → p.1 = q.1)
    (apart : ∀ p ∈ draws ts, Token.digest p.2 = Token.digest token → p.2 = token) :
    Distinct token ts where
  sole c d drew drew' :=
    sole (c, token) (mem_draws drew) (d, token) (mem_draws drew') rfl rfl
  apart c u drew := apart (c, u) (mem_draws drew)

/-- Whoever stores a session under the digest has drawn the token. -/
theorem Distinct.drew_of_stores {x : Session} (h : Distinct token ts)
    (run : Service.Run (service m) (fresh settings) ts s) (ht : t ∈ ts) (stores : Stores x t.event)
    (hash : x.tokenHash = Token.digest token) : Drew t.event.call token ts := by
  obtain ⟨u, drew, digest⟩ := Traffic.drew_of_stores run (fresh_idle settings) ht stores
  rw [h.apart _ u drew (digest.trans hash)] at drew
  exact drew

/-- A call stores one session at the most. -/
theorem call_ne_of_stores {a b : List Transition} {u : Transition} {x y : Session}
    (run : Service.Run (service m) (fresh settings) (a ++ t :: b) s) (stores : Stores x t.event)
    (hu : u ∈ a) (stores' : Stores y u.event) : u.event.call ≠ t.event.call := by
  obtain ⟨c, moment, asked⟩ := eq_of_stores stores
  obtain ⟨d, moment', asked'⟩ := eq_of_stores stores'
  obtain ⟨_, _, _, unwritten⟩ := Manager.grounded_of_asked run (fresh_idle settings)
    (fresh_numbered settings) (fun _ => rfl) asked
  rw [asked, asked']
  intro own
  obtain rfl : d = c := own
  -- What the call has stored before is in its history when it asks to store again.
  have told := mem_history.mpr ⟨u, hu, moment', asked'⟩
  exact unwritten _ told y rfl

/-- There is one session at the most that is ever stored under the digest. -/
theorem countP_creations_le_one (run : Service.Run (service m) (fresh settings) ts s)
    (distinct : Distinct token ts) :
    (creations ts).countP (fun x => x.tokenHash = Token.digest token) ≤ 1 := by
  induction run with
  | start => exact Nat.zero_le _
  | @snoc ts s s' e run step ih =>
    have before := ih (distinct.mono (List.subset_append_left _ _))
    rw [creations_snoc, List.countP_append]
    cases created : created? e with
    | none => simpa using before
    | some x =>
      by_cases hash : x.tokenHash = Token.digest token
      · have whole := run.snoc step
        have stores : Stores x e := created?_eq_some.mp created
        -- An earlier creation would be one of the same call.
        have fresh : (creations ts).countP (fun x => x.tokenHash = Token.digest token) = 0 := by
          apply List.countP_eq_zero.mpr
          intro y mem same
          obtain ⟨u, hu, stores'⟩ := mem_creations.mp mem
          have drew := distinct.drew_of_stores (t := ⟨s, e, s'⟩) whole (by simp) stores hash
          have drew' := distinct.drew_of_stores whole (List.mem_append_left _ hu) stores'
            (of_decide_eq_true same)
          exact call_ne_of_stores whole stores hu stores' (distinct.sole _ _ drew' drew)
        rw [fresh]
        simp [hash]
      · simpa [hash] using before

/-! ## Racing destructions -/

/-- The calls that were begun to destroy a token. -/
def destroyers (token : String) (ts : List Transition) : List Nat :=
  ts.filterMap fun t =>
    match t.event with
    | .begun c (.destroy u) => if u = token then some c else none
    | _ => none

/-- What came of the destructions of a token that have returned. -/
def outcomes (token : String) (ts : List Transition) : List (Except Session.Error Unit) :=
  ts.filterMap fun t =>
    match t.event with
    | .returned _ (.destroy u) r => if u = token then some r else none
    | _ => none

/-- Destructions race for the session of a token. -/
structure Contested (token : String) (ts : List Transition) : Prop where
  /-- One at least begins when the session is stored. -/
  begun : ∃ t ∈ ts, ∃ c, t.event = .begun c (.destroy token) ∧
    t.before.world.Stored (Token.digest token)
  /-- Nobody else takes the session out of the storage. -/
  only : ∀ t ∈ ts, t.before.world.Stored (Token.digest token) →
    ¬ t.after.world.Stored (Token.digest token) → t.event.call ∈ destroyers token ts
  /-- The storage does not fail them. -/
  sound : ∀ c ∈ destroyers token ts, ∀ moment ∈ momentsOf c ts, moment.fault = none
  returned : ∀ c ∈ destroyers token ts, c ∈ returnedCalls ts

theorem mem_destroyers :
    c ∈ destroyers token ts ↔ ∃ t ∈ ts, t.event = .begun c (.destroy token) := by
  unfold destroyers
  rw [List.mem_filterMap]
  refine exists_congr fun t => and_congr_right fun _ => ?_
  constructor
  · intro h
    split at h
    next begun =>
      split at h
      next own =>
        cases h
        rw [begun, own]
      next => cases h
    next => cases h
  · intro begun
    rw [begun]
    exact if_pos rfl

theorem mem_outcomes {r : Except Session.Error Unit} :
    r ∈ outcomes token ts ↔ ∃ t ∈ ts, ∃ c, t.event = .returned c (.destroy token) r := by
  unfold outcomes
  rw [List.mem_filterMap]
  refine exists_congr fun t => and_congr_right fun _ => ?_
  constructor
  · intro h
    split at h
    next c u r returned =>
      split at h
      next own =>
        cases h
        exact ⟨c, by rw [returned, own]⟩
      next => cases h
    next => cases h
  · rintro ⟨c, returned⟩
    rw [returned]
    exact if_pos rfl

/-- Every destruction that succeeds is charged. -/
theorem count_outcomes_le :
    (outcomes token ts).count (.ok ()) ≤
      Service.total (Service.charged (endedWith token)) ts := by
  induction ts with
  | nil => exact Nat.le_refl _
  | cons t ts ih =>
    have parts : outcomes token (t :: ts) = outcomes token [t] ++ outcomes token ts :=
      List.filterMap_append (l := [t])
    have first : (outcomes token [t]).count (.ok ()) ≤ Service.charged (endedWith token) t := by
      unfold outcomes Service.charged
      rw [List.filterMap_cons, List.filterMap_nil]
      split
      next => exact Nat.zero_le _
      next r same =>
        split at same
        next c u r' returned =>
          split at same
          next own =>
            cases same
            rw [returned]
            cases r with
            | ok _ => simp [endedWith, own]
            | error e => simp
          next => cases same
        next => cases same
    rw [parts, List.count_append, Service.total_cons]
    exact Nat.add_le_add first ih

/-- A destruction that the storage does not fail ends as its deletion does: it finds the session
there, or it does not. -/
theorem deletion_of_destruction {r : Except Session.Error Unit}
    (run : Service.Run (service m) (fresh settings) ts s) (nonempty : token ≠ "") (ht : t ∈ ts)
    (returned : t.event = .returned c (.destroy token) r)
    (sound : ∀ moment ∈ momentsOf c ts, moment.fault = none) :
    ∃ u ∈ ts, ∃ moment x,
      u.event = .asked c moment (.store (.deleteByHash (Token.digest token))) x ∧
      History.deletions (history c ts) = [(Token.digest token, x)] ∧ r = Manager.destroyed x ∧
      (x = .ok () ∨ x = .error .notFound ∧ ¬ u.before.world.Stored (Token.digest token)) := by
  have keeps := Manager.keeps_of_returned run (fresh_idle settings) (fresh_numbered settings)
    (fun _ => rfl) ht returned
  simp only [Order.Keeps, String.isEmpty_iff, if_neg nonempty] at keeps
  obtain ⟨x, deletions, result⟩ := keeps
  have told : History.Told (history c ts) (.store (.deleteByHash (Token.digest token))) x := by
    apply History.mem_deletions.mp
    simp [deletions]
  obtain ⟨u, hu, moment, asked⟩ := mem_history.mp told
  refine ⟨u, hu, moment, x, asked, deletions, result, ?_⟩
  have whole := sound moment (mem_momentsOf hu asked)
  have step := run.step_of_mem hu
  rw [asked] at step
  have answered := step.answer_eq.1
  simp only [serve_store, Moment.store, whole] at answered
  rw [answered]
  exact Storage.Memory.deleteByHash_cases _ _ _

/-- A call that was begun to destroy a token returns as such. -/
theorem exists_returned_of_destroyer (run : Service.Run (service m) (fresh settings) ts s)
    (mem : c ∈ destroyers token ts) (ended : c ∈ returnedCalls ts) :
    ∃ t ∈ ts, ∃ r, t.event = .returned c (.destroy token) r := by
  obtain ⟨w, hw, begun⟩ := mem_destroyers.mp mem
  obtain ⟨t, ht, o, r, returned⟩ := returned_of_mem ended
  obtain ⟨u, hu, begun'⟩ := run.begun_of_returned (fresh_idle settings) ht returned
  obtain rfl := run.order_eq (fresh_numbered settings) hw hu begun begun'
  exact ⟨t, ht, r, returned⟩

/-- What a destruction takes out of the storage it deletes under the digest of its token. -/
theorem eq_deletion_of_covers {r : Request} {x : Answer r} (asks : (Order.destroy token).Asks r)
    (covers : (Due.ofAnswer r x).Covers (Token.digest token)) :
    (⟨r, x⟩ : Exchange Request Answer) =
      ⟨.store (.deleteByHash (Token.digest token)), .ok ()⟩ := by
  cases r with
  | store call =>
    cases call with
    | deleteByHash k =>
      cases x with
      | ok u =>
        obtain rfl : k = Token.digest token := covers
        rfl
      | error e => exact absurd covers id
    | deleteExpired => cases (asks : Order.destroy token = .purge)
    | _ => exact absurd asks id
  | _ => exact absurd covers id

namespace Contested

/-- The destruction that takes the session out of the storage succeeds. -/
theorem ok_of_removal (contested : Contested token ts)
    (run : Service.Run (service m) (fresh settings) ts s) (nonempty : token ≠ "") (ht : t ∈ ts)
    (stored : t.before.world.Stored (Token.digest token))
    (gone : ¬ t.after.world.Stored (Token.digest token)) : .ok () ∈ outcomes token ts := by
  have mem := contested.only t ht stored gone
  obtain ⟨c, moment, r, y, asked, covers⟩ := asked_of_removal (run.step_of_mem ht) stored gone
  have mem : c ∈ destroyers token ts := by
    rw [asked] at mem
    exact mem
  obtain ⟨w, hw, begun⟩ := mem_destroyers.mp mem
  have asks := Manager.asks_of_begun run (fresh_idle settings) (fresh_numbered settings)
    (fun _ => rfl) hw begun ht asked
  have told := mem_history.mpr ⟨t, ht, moment, asked⟩
  rw [eq_deletion_of_covers asks covers] at told
  -- A destruction is told of one deletion, and returns what came of it.
  obtain ⟨u, hu, r, returned⟩ := exists_returned_of_destroyer run mem (contested.returned c mem)
  obtain ⟨_, _, _, x, _, deletions, rfl, _⟩ :=
    deletion_of_destruction run nonempty hu returned (contested.sound c mem)
  have deleted := History.mem_deletions.mpr told
  rw [deletions] at deleted
  obtain rfl : .ok () = x := by simpa using deleted
  exact mem_outcomes.mpr ⟨u, hu, c, returned⟩

/-- One of the racing destructions succeeds. -/
theorem ok_mem_outcomes (contested : Contested token ts)
    (run : Service.Run (service m) (fresh settings) ts s) (nonempty : token ≠ "") :
    .ok () ∈ outcomes token ts := by
  obtain ⟨w, hw, c, begun, stored⟩ := contested.begun
  have mem : c ∈ destroyers token ts := mem_destroyers.mpr ⟨w, hw, begun⟩
  obtain ⟨t, ht, r, returned⟩ := exists_returned_of_destroyer run mem (contested.returned c mem)
  obtain ⟨u, hu, moment, x, asked, _, rfl, rfl | ⟨rfl, absent⟩⟩ :=
    deletion_of_destruction run nonempty ht returned (contested.sound c mem)
  · exact mem_outcomes.mpr ⟨t, ht, c, returned⟩
  · -- The session was there when this call began, and some step has removed it since.
    obtain ⟨a, b, rfl⟩ := List.append_of_mem hw
    have late := run.mem_of_begun (fresh_numbered settings) begun hu (by rw [asked]; rfl)
      (fun o' same => by rw [asked] at same; cases same)
    obtain ⟨b', rest, rfl⟩ := List.append_of_mem late
    obtain ⟨_, start, second⟩ := run.mid
    obtain ⟨middle, _, _⟩ := second.mid
    rw [begun] at start
    rw [← start.world_of_begun] at stored
    obtain ⟨p, v, q, rfl, before, after⟩ := removal_of_not_stored middle stored absent
    exact contested.ok_of_removal run nonempty (t := v) (by simp) before
      (after v List.mem_cons_self)

/-- A destruction that does not succeed finds nothing to destroy. -/
theorem eq_of_mem_outcomes (contested : Contested token ts)
    (run : Service.Run (service m) (fresh settings) ts s) (nonempty : token ≠ "")
    {r : Except Session.Error Unit} (h : r ∈ outcomes token ts) :
    r = .ok () ∨ r = .error .notFound := by
  obtain ⟨t, ht, c, returned⟩ := mem_outcomes.mp h
  have mem : c ∈ destroyers token ts :=
    mem_destroyers.mpr (run.begun_of_returned (fresh_idle settings) ht returned)
  obtain ⟨_, _, _, x, _, _, rfl, rfl | ⟨rfl, _⟩⟩ :=
    deletion_of_destruction run nonempty ht returned (contested.sound c mem)
  · exact .inl rfl
  · exact .inr rfl

/-- A session that is stored has a token that is not empty. -/
theorem token_ne_empty (contested : Contested token ts) (distinct : Distinct token ts)
    (run : Service.Run (service m) (fresh settings) ts s) : token ≠ "" := by
  obtain ⟨w, hw, _, _, x, mem, hash⟩ := contested.begun
  obtain ⟨a, b, rfl⟩ := List.append_of_mem hw
  obtain ⟨t, ht, stores⟩ := stores_of_mem run.mid.1 rfl mem
  obtain ⟨u, hu, moment, n, pair, drew, token⟩ :=
    distinct.drew_of_stores run (List.mem_append_left _ ht) stores hash
  obtain ⟨_, answered⟩ := run.answer_eq hu drew
  rw [← token]
  exact Moment.token_ne_empty answered.symm

end Contested

/-! ## The tally -/

/-- What is stored, with all the sessions that calls say they have ended, is no more than what was
created. Of the calls that destroy or refresh one token no more than one succeeds; and of those that
destroy it one does, and the others find nothing, if nobody else removes its session. -/
theorem ended_at_most_once {m : Manager} {settings : Cache.Settings} {ts : List Transition}
    {s : State} (run : Service.Run (service m) (fresh settings) ts s) :
    s.world.storage.sessions.length + Service.total (Service.charged ended) ts ≤
        (creations ts).length ∧
      ∀ token, Distinct token ts →
        Service.total (Service.charged (endedWith token)) ts ≤ 1 ∧
        (Contested token ts → (outcomes token ts).count (.ok ()) = 1 ∧
          ∀ r ∈ outcomes token ts, r = .ok () ∨ r = .error .notFound) := by
  constructor
  · have tally := size_add_charged_le run ended_covered
    simpa [size] using tally
  · intro token distinct
    have once : Service.total (Service.charged (endedWith token)) ts ≤ 1 := by
      have tally := size_add_charged_le run (endedWith_covered token)
      have sole := countP_creations_le_one run distinct
      omega
    refine ⟨once, fun contested => ?_⟩
    have nonempty := contested.token_ne_empty distinct run
    have some := List.count_pos_iff.mpr (contested.ok_mem_outcomes run nonempty)
    have few : (outcomes token ts).count (.ok ()) ≤ 1 := Nat.le_trans count_outcomes_le once
    exact ⟨Nat.le_antisymm few some, fun r => contested.eq_of_mem_outcomes run nonempty⟩

theorem ended_at_most_once_sample :
    ∃ ts s, Service.Run (service sampleManager) (fresh {}) ts s ∧
      Distinct sampleToken ts ∧ Contested sampleToken ts ∧ destroyers sampleToken ts = [1, 2] ∧
      outcomes sampleToken ts = [.error .notFound, .ok ()] ∧
      s.world.storage.sessions.length + Service.total (Service.charged ended) ts ≤
        (creations ts).length ∧
      Service.total (Service.charged (endedWith sampleToken)) ts ≤ 1 ∧
      (outcomes sampleToken ts).count (.ok ()) = 1 := by
  -- The destruction that begins first comes too late with its deletion, and returns first.
  have play : ((fresh {}).play? (service sampleManager)
      (wholeCall 0 (.create "u" "i" "a") 7 sampleMoment ++
        .start (.destroy sampleToken) :: .start (.destroy sampleToken) ::
          (List.replicate 2 (.proceed 2 sampleMoment) ++
            (List.replicate 2 (.proceed 1 sampleMoment) ++
              [.finish 1, .proceed 2 sampleMoment, .finish 2])))).map
        (fun (p : List Transition × State) =>
        (draws p.1, decide (
          destroyers sampleToken p.1 = [1, 2] ∧
          outcomes sampleToken p.1 = [.error .notFound, .ok ()] ∧
          (∃ t ∈ p.1, t.event.mark? = some (1, .inl (.destroy sampleToken)) ∧
            t.before.world.Stored (Token.digest sampleToken)) ∧
          (∀ t ∈ p.1, t.before.world.Stored (Token.digest sampleToken) →
            ¬ t.after.world.Stored (Token.digest sampleToken) →
            t.event.call ∈ destroyers sampleToken p.1) ∧
          (∀ c ∈ destroyers sampleToken p.1, ∀ moment ∈ momentsOf c p.1, moment.fault = none) ∧
          ∀ c ∈ destroyers sampleToken p.1, c ∈ returnedCalls p.1))) =
      some ([(0, sampleToken)], true) := by
    decide +kernel
  obtain ⟨⟨ts, s⟩, played, seen⟩ := Option.map_eq_some_iff.mp play
  simp only [Prod.mk.injEq] at seen
  obtain ⟨drawn, holds⟩ := seen
  obtain ⟨racing, came, ⟨t, ht, mark, stored⟩, only, sound, returned⟩ := of_decide_eq_true holds
  have run := Service.Run.of_play? played
  have drew {c : Nat} {u : String} (h : Drew c u ts) : c = 0 ∧ u = sampleToken := by
    have mem := mem_draws h
    rw [drawn] at mem
    simpa using mem
  have distinct : Distinct sampleToken ts :=
    { sole := fun c d h h' => (drew h).1.trans (drew h').1.symm
      apart := fun c u h _ => (drew h).2 }
  have contested : Contested sampleToken ts :=
    { begun := ⟨t, ht, 1, (Service.event_of_mark? mark).symm, stored⟩
      only, sound, returned }
  obtain ⟨tally, one⟩ := ended_at_most_once run
  obtain ⟨once, race⟩ := one sampleToken distinct
  exact ⟨ts, s, run, distinct, contested, racing, came, tally, once, (race contested).1⟩

end SessionKit.Traffic
