import SessionKit.Proofs.Reentry

/-!
# Whether a destruction is final

A destruction deletes the session from the storage and then drops its digest from the cache. It is
final if the drop has not failed, and if no other manager was about to fill the session in.
-/

namespace SessionKit

namespace Manager

open Discipline History

variable {m : Manager} {token : String}

/-- What a destruction asks before all else, and how it ends. -/
def Destroys (token : String) (r : Except Session.Error Unit) (h : History) : Prop :=
  ∃ x y more, h = ⟨.store (.deleteByHash (Token.digest token)), x⟩ ::
    ⟨.invalidate (Token.digest token), y⟩ :: more ∧ r = destroyed x

theorem destroys_destroy (cached : m.cached = true) (nonempty : ¬ token.isEmpty) :
    freely.wp (m.destroy token).run (Destroys token) [] := by
  rw [destroy_run, if_neg nonempty]
  refine remembering_ask.mpr ⟨trivial, fun deleted => ?_⟩
  -- The drop may fail, and then the failure is written to the log.
  have dropping {f : Unit → Action (Except Session.Error Unit)} (next : ∀ y more,
      freely.wp (f ()) (Destroys token) (⟨.store (.deleteByHash (Token.digest token)), deleted⟩ ::
        ⟨.invalidate (Token.digest token), y⟩ :: more)) :
      freely.wp ((m.invalidate (Token.digest token)).bind f) (Destroys token)
        [⟨.store (.deleteByHash (Token.digest token)), deleted⟩] := by
    rw [m.invalidate_cached cached]
    refine remembering_ask.mpr ⟨trivial, fun dropped => ?_⟩
    cases dropped with
    | ok u => exact next _ []
    | error cause => exact wp_free (only_log fun _ => trivial) fun _ more _ => next _ more
  refine dropping fun dropped more => ?_
  rcases deleted with (_ | _) | _
  · exact remembering_done.mpr ⟨_, dropped, more, rfl, rfl⟩
  · exact remembering_done.mpr ⟨_, dropped, more, rfl, rfl⟩
  · refine wp_free (only_log fun _ => trivial) fun _ more' _ => ?_
    exact remembering_done.mpr ⟨_, dropped, more ++ more', rfl, rfl⟩

end Manager

namespace Fleet

open Manager (Request Answer Order History)
open Discipline (history unsigned)
open Traffic (sampleManager sampleToken sampleCreated)

variable {ι : Type} [DecidableEq ι] {m : ι → Manager} {settings : Cache.Settings} {s s' : State ι}
  {ts us a b d : List (Transition ι)} {t u v w : Transition ι} {c e n : Nat} {i j : ι}
  {x : Session} {token tokenHash : String} {moment : Moment}

/-! ## What a destruction does -/

/-- The deletion and the drop of a destruction, one after the other. -/
theorem steps_of_destroy (run : Service.Run (service m) s (a ++ u :: (b ++ w :: d)) s')
    (cached : (m i).cached = true) (nonempty : ¬ token.isEmpty)
    (begun : u.event = .begun c (i, .destroy token)) {r : Except Session.Error Unit}
    (returned : w.event = .returned c (i, .destroy token) r) :
    ∃ p t q t' q' x y moment moment', b = p ++ t :: (q ++ t' :: q') ∧
      t.event = .asked c moment (i, .store (.deleteByHash (Token.digest token))) x ∧
      t'.event = .asked c moment' (i, .invalidate (Token.digest token)) y ∧
      r = Manager.destroyed x := by
  have destroys : Manager.Destroys token r (unsigned (history c b)) :=
    Discipline.vow_of_begun run begun
      (Discipline.remembering_sign i (Manager.destroys_destroy cached nonempty)) returned
  obtain ⟨x, y, more, steps, result⟩ := destroys
  obtain ⟨⟨⟨j, _⟩, _⟩, _, told, same, rest⟩ := List.map_eq_cons_iff.mp steps
  cases same
  obtain ⟨⟨⟨k, _⟩, _⟩, _, rfl, same, _⟩ := List.map_eq_cons_iff.mp rest
  cases same
  obtain ⟨p, t, q, moment, rfl, deletion, told⟩ := Discipline.split_of_history told
  obtain ⟨q, t', q', moment', rfl, drop, _⟩ := Discipline.split_of_history told
  obtain ⟨rfl, _⟩ := asks_of_begun run begun (by simp) deletion
  obtain ⟨rfl, _⟩ := asks_of_begun run begun (by simp) drop
  exact ⟨p, t, q, t', q', _, _, moment, moment', rfl, deletion, drop, result⟩

/-- The storage has lost a digest when its deletion has not failed. -/
theorem not_stored_of_deletion (step : Service.Step (service m) t.before t.event t.after)
    {x : Except Storage.Error Unit}
    (asked : t.event = .asked c moment (i, .store (.deleteByHash tokenHash)) x)
    (answered : x = .ok () ∨ x = .error .notFound) : ¬ t.after.world.Stored tokenHash := by
  rw [asked] at step
  obtain ⟨rfl, world⟩ := step.answer_eq
  rw [world]
  exact Traffic.not_stored_of_deleteByHash answered

theorem answered_of_destroyed {x : Except Storage.Error Unit}
    (h : ∀ cause, Manager.destroyed x ≠ .error (.storage "delete session" cause)) :
    x = .ok () ∨ x = .error .notFound := by
  rcases x with (_ | reason) | _
  · exact .inr rfl
  · exact absurd rfl (h (.backend reason))
  · exact .inl rfl

/-- A drop succeeds when the cache does not fail. -/
theorem clears_of_sound (step : Service.Step (service m) t.before t.event t.after)
    {y : Except Cache.Error Unit} (asked : t.event = .asked c moment (i, .invalidate tokenHash) y)
    (sound : moment.cacheFault = none) : y = .ok () := by
  rw [asked] at step
  obtain ⟨rfl, _⟩ := step.answer_eq
  show (moment.answer (.invalidate tokenHash) _).1 = _
  rw [moment.answer_of_sound _ sound]
  exact Cache.Memory.delete_ok _ tokenHash

theorem nonempty_of_verified (run : Service.Run (service m) s ts s')
    (order : [Service.Event.begun c (i, .verify token),
      .returned c (i, .verify token) (.ok x)].Sublist (ts.map (·.event))) : ¬ token.isEmpty := by
  obtain ⟨a, v, b, rfl, begun, rest⟩ := Service.cons_sublist_events order
  obtain ⟨b, w, d, rfl, returned, _⟩ := Service.cons_sublist_events rest
  have accepts : History.Accepts (unsigned (history c b)) token x :=
    keeps_of_returned run begun returned
  exact accepts.nonempty

/-! ## Managers that share a cache -/

/-- A token that is verified after its destruction was put back by another manager: one that was
shown the session before the deletion, and that filled it in after the drop. -/
theorem put_back_after_destroy {ι : Type} [DecidableEq ι] {m : ι → Manager}
    {settings : Cache.Settings} {token : String} {ts us : List (Transition ι)} {s s' : State ι}
    {c d : Nat} {i j : ι} {r : Except Session.Error Unit} {x : Session}
    (cached : (m i).cached = true)
    (first : Service.Run (service m) (fresh settings) ts s)
    (second : Service.Run (service m) s us s') (brief : Brief i (ts ++ us))
    (spent : ∀ e, Drew e token (ts ++ us) → Returned e ts)
    (distinct : ∀ e u, Drew e u (ts ++ us) → Token.digest u = Token.digest token → u = token)
    (sound : ∀ moment y, .asked c moment (i, .invalidate (Token.digest token)) y ∈
      us.map (·.event) → moment.cacheFault = none)
    (order : [Service.Event.begun c (i, .destroy token), .returned c (i, .destroy token) r,
      .begun d (j, .verify token), .returned d (j, .verify token) (.ok x)].Sublist
        (us.map (·.event)))
    (answered : ∀ cause, r ≠ .error (.storage "delete session" cause)) :
    ∃ k e n y deleted shown deletion drop fill, k ≠ i ∧
      [Service.Event.asked e shown (k, .store (.byHash (Token.digest token))) (.ok y),
        .asked c deletion (i, .store (.deleteByHash (Token.digest token))) deleted,
        .asked c drop (i, .invalidate (Token.digest token)) (.ok ()),
        .asked e fill (k, .fill n (Token.digest token) y) .done,
        .returned d (j, .verify token) (.ok x)].Sublist ((ts ++ us).map (·.event)) := by
  obtain ⟨a, u, b, rfl, begun, rest⟩ := Service.cons_sublist_events order
  obtain ⟨b, w, b', rfl, returned, verified⟩ := Service.cons_sublist_events rest
  have nonempty := nonempty_of_verified second.mid.2.2.mid.2.2 verified
  obtain ⟨p, t, q, t', q', deleted, dropped, deletion, drop, rfl, deletes, drops, rfl⟩ :=
    steps_of_destroy second cached nonempty begun returned
  have parts : a ++ u :: (p ++ t :: (q ++ t' :: q') ++ w :: b') =
      (a ++ u :: p) ++ t :: (q ++ t' :: (q' ++ w :: b')) := by simp
  rw [parts] at second brief spent distinct sound ⊢
  have absent := not_stored_of_deletion second.mid.2.1 deletes (answered_of_destroyed answered)
  obtain rfl := clears_of_sound (second.step_of_mem (by simp)) drops
    (sound drop dropped (List.mem_map.mpr ⟨t', by simp, drops⟩))
  have later : (b'.map (·.event)).Sublist ((q' ++ w :: b').map (·.event)) := by
    simp only [List.map_append, List.map_cons]
    exact (List.sublist_cons_self _ _).trans (List.sublist_append_right _ _)
  obtain ⟨e, k, n, y, shown, fill, l, other, hl, shows, fills⟩ :=
    put_back_of_verified first second brief
      (fun e v drew hash => spent e (distinct e v drew hash ▸ drew)) absent
      (by rw [drops]; exact ⟨rfl, rfl⟩) (by rw [drops]; exact rfl) (verified.trans later)
  refine ⟨k, e, n, y, deleted, shown, deletion, drop, fill, other, ?_⟩
  -- The steps of the destruction come after what was shown, and before what is filled in.
  obtain ⟨l', l'', split⟩ := List.append_of_mem hl
  have whole : ts ++ ((a ++ u :: p) ++ t :: (q ++ t' :: (q' ++ w :: b'))) =
      l' ++ l :: (l'' ++ t :: (q ++ t' :: (q' ++ w :: b'))) := by
    rw [← List.append_assoc, split, List.append_assoc, List.cons_append]
  rw [whole, ← shows, ← deletes, ← drops]
  apply Service.sublist_cons_events
  apply Service.sublist_cons_events
  apply Service.sublist_cons_events
  exact fills

/-- The choices that take a call of one manager through its requests, each at the same moment. -/
def wholeCall {ι : Type} (c : Nat) (i : ι) (o : Order) (requests : Nat) (t : Moment) :
    List (Service.Choice (ι × Order) Moment) :=
  .start (i, o) :: (List.replicate requests (.proceed c t) ++ [.finish c])

/-- A moment at which nothing fails. -/
def sampleMoment : Moment := { Traffic.sampleMoment with }

/-- The second manager reads the session while the first has yet to cache it, and fills it in after
the first has destroyed it. -/
def SampleFill (ts us : List (Transition Bool)) (s s' : State Bool) : Prop :=
  Service.Run (service fun _ => sampleManager) (fresh {}) ts s ∧
    Service.Run (service fun _ => sampleManager) s us s' ∧ (∀ i, Brief i (ts ++ us)) ∧
    draws (ts ++ us) = [(0, sampleToken)] ∧ (∀ t ∈ ts ++ us, Sound t.event) ∧
    Service.marks ts = [(0, .inl (false, .create "u" "i" "a")),
      (1, .inl (true, .verify sampleToken)),
      (0, .inr ⟨(false, .create "u" "i" "a"), .ok sampleCreated⟩)] ∧
    Service.marks us = [(2, .inl (false, .destroy sampleToken)),
      (2, .inr ⟨(false, .destroy sampleToken), .ok ()⟩),
      (1, .inr ⟨(true, .verify sampleToken), .ok sampleCreated.session⟩),
      (3, .inl (true, .verify sampleToken)),
      (3, .inr ⟨(true, .verify sampleToken), .ok sampleCreated.session⟩)]

theorem exists_sampleFill : ∃ ts us s s', SampleFill ts us s s' := by
  have play : ((fresh {}).play? (service fun _ : Bool => sampleManager)
      (.start (false, .create "u" "i" "a") :: (List.replicate 5 (.proceed 0 sampleMoment) ++
        .start (true, .verify sampleToken) :: .proceed 1 sampleMoment ::
          (List.replicate 2 (.proceed 0 sampleMoment) ++ [.finish 0])))).bind (fun p =>
        (p.2.play? (service fun _ => sampleManager)
          (List.replicate 2 (.proceed 1 sampleMoment) ++
            (wholeCall 2 false (.destroy sampleToken) 3 sampleMoment ++
              (List.replicate 2 (.proceed 1 sampleMoment) ++
                .finish 1 :: wholeCall 3 true (.verify sampleToken) 2 sampleMoment)))).map
          fun q => decide (
            draws (p.1 ++ q.1) = [(0, sampleToken)] ∧
            (∀ t ∈ p.1 ++ q.1, Sound t.event) ∧
            Service.marks p.1 = [(0, .inl (false, .create "u" "i" "a")),
              (1, .inl (true, .verify sampleToken)),
              (0, .inr ⟨(false, .create "u" "i" "a"), .ok sampleCreated⟩)] ∧
            Service.marks q.1 = [(2, .inl (false, .destroy sampleToken)),
              (2, .inr ⟨(false, .destroy sampleToken), .ok ()⟩),
              (1, .inr ⟨(true, .verify sampleToken), .ok sampleCreated.session⟩),
              (3, .inl (true, .verify sampleToken)),
              (3, .inr ⟨(true, .verify sampleToken),
                .ok sampleCreated.session⟩)])) = some true := by
    decide +kernel
  obtain ⟨⟨ts, s⟩, first, rest⟩ := Option.bind_eq_some_iff.mp play
  obtain ⟨⟨us, s'⟩, second, seen⟩ := Option.map_eq_some_iff.mp rest
  exact ⟨ts, us, s, s', .of_play? first, .of_play? second,
    fun _ => .of_plays first second (by decide), of_decide_eq_true seen⟩

namespace SampleFill

variable {ts us : List (Transition Bool)} {s s' : State Bool} (sample : SampleFill ts us s s')
include sample

theorem drew {e : Nat} {u : String} (h : Drew e u (ts ++ us)) :
    u = sampleToken ∧ Returned e ts := by
  obtain ⟨_, _, _, drawn, _, created, _⟩ := sample
  have ended : (0, .inr ⟨(false, .create "u" "i" "a"), .ok sampleCreated⟩) ∈ Service.marks ts := by
    simp [created]
  exact drew_of_draws drawn ended h

theorem order : [Service.Event.begun 2 (false, .destroy sampleToken),
    .returned 2 (false, .destroy sampleToken) (.ok ()), .begun 3 (true, .verify sampleToken),
    .returned 3 (true, .verify sampleToken) (.ok sampleCreated.session)].Sublist
      (us.map (·.event)) := by
  obtain ⟨_, _, _, _, _, _, marks⟩ := sample
  have order : ((Service.marks us).map Service.Mark.event).Sublist (us.map (·.event)) :=
    Service.marks_sublist
  rw [marks] at order
  exact List.Sublist.trans (by simp [Service.Mark.event]) order

end SampleFill

theorem put_back_after_destroy_sample :
    ∃ ts us s s', SampleFill ts us s s' ∧
      ∃ k e n y deleted shown deletion drop fill, k ≠ false ∧
        [Service.Event.asked e shown (k, .store (.byHash (Token.digest sampleToken))) (.ok y),
          .asked 2 deletion (false, .store (.deleteByHash (Token.digest sampleToken))) deleted,
          .asked 2 drop (false, .invalidate (Token.digest sampleToken)) (.ok ()),
          .asked e fill (k, .fill n (Token.digest sampleToken) y) .done,
          .returned 3 (true, .verify sampleToken) (.ok sampleCreated.session)].Sublist
            ((ts ++ us).map (·.event)) := by
  obtain ⟨ts, us, s, s', sample⟩ := exists_sampleFill
  obtain ⟨first, second, brief, _, sound, _⟩ := id sample
  have faultless (moment : Moment) (y : Except Cache.Error Unit)
      (h : .asked 2 moment (false, .invalidate (Token.digest sampleToken)) y ∈
        us.map (·.event)) : moment.cacheFault = none := by
    obtain ⟨t, ht, event⟩ := List.mem_map.mp h
    have sound := sound t (List.mem_append_right ts ht)
    rw [event] at sound
    exact sound
  refine ⟨ts, us, s, s', sample, ?_⟩
  refine put_back_after_destroy rfl first second (brief false) (fun e h => (sample.drew h).2)
    (fun e u h _ => (sample.drew h).1) faultless sample.order ?_
  intro cause failed
  cases failed

/-- Nothing fails, and yet the token is good again for the manager that has not destroyed it. -/
theorem verified_after_destroy_elsewhere :
    ∃ ts us s s', SampleFill ts us s s' ∧ (∀ t ∈ ts ++ us, Sound t.event) ∧
      (∀ e, Drew e sampleToken (ts ++ us) → Returned e ts) ∧
      [Service.Event.begun 2 (false, .destroy sampleToken),
        .returned 2 (false, .destroy sampleToken) (.ok ()), .begun 3 (true, .verify sampleToken),
        .returned 3 (true, .verify sampleToken) (.ok sampleCreated.session)].Sublist
          (us.map (·.event)) := by
  obtain ⟨ts, us, s, s', sample⟩ := exists_sampleFill
  obtain ⟨_, _, _, _, sound, _⟩ := id sample
  exact ⟨ts, us, s, s', sample, sound, fun e h => (sample.drew h).2, sample.order⟩

/-! ## A manager whose cache fails -/

/-- A destruction that succeeds has deleted a session, and its token is refused to whoever
begins to verify it after some drop of the digest has succeeded since. Before that the cache may
have failed to drop the digest any number of times. -/
theorem fails_after_destroy_and_clear {m : Manager} {settings : Cache.Settings} {token : String}
    {ts us : List (Transition Unit)} {s s' : State Unit} {c : Nat}
    (first : Service.Run (service fun _ => m) (fresh settings) ts s)
    (second : Service.Run (service fun _ => m) s us s') (brief : Brief () (ts ++ us))
    (spent : ∀ e, Drew e token (ts ++ us) → Returned e ts)
    (distinct : ∀ e u, Drew e u (ts ++ us) → Token.digest u = Token.digest token → u = token)
    (order : [Service.Event.begun c ((), .destroy token),
      .returned c ((), .destroy token) (.ok ())].Sublist (us.map (·.event))) :
    ∃ a b moment, us.map (·.event) =
        a ++ .asked c moment ((), .store (.deleteByHash (Token.digest token))) (.ok ()) :: b ∧
      ∀ f d r, Clears (Token.digest token) f →
        [f, .begun d ((), .verify token), .returned d ((), .verify token) r].Sublist b →
          ∀ x, r ≠ .ok x := by
  obtain ⟨a, u, b, rfl, begun, rest⟩ := Service.cons_sublist_events order
  obtain ⟨b, w, b', rfl, returned, _⟩ := Service.cons_sublist_events rest
  have destroys : (Order.destroy token).Keeps (.ok ()) (unsigned (history c b)) :=
    keeps_of_returned second begun returned
  obtain ⟨t, ht, moment, i, deletes⟩ := told_unsigned.mp (Manager.told_of_destroyed [] destroys)
  obtain ⟨p, q, rfl⟩ := List.append_of_mem ht
  have parts : a ++ u :: (p ++ t :: q ++ w :: b') = (a ++ u :: p) ++ t :: (q ++ w :: b') := by simp
  rw [parts] at second brief spent distinct ⊢
  have absent := not_stored_of_deletion second.mid.2.1 deletes (.inl rfl)
  refine ⟨(a ++ u :: p).map (·.event), (q ++ w :: b').map (·.event), moment, ?_, ?_⟩
  · rw [List.map_append, List.map_cons, deletes]
  · rintro f d _ clears verified x rfl
    obtain ⟨p', t', q', split, rfl, after⟩ := Service.cons_sublist_events verified
    rw [split] at second brief spent distinct
    obtain ⟨j, drops⟩ := exists_drops_of_clears clears
    -- There is no other manager to put it back.
    obtain ⟨_, k, _, _, _, _, _, other, _⟩ := put_back_of_verified first second brief
      (fun e v drew hash => spent e (distinct e v drew hash ▸ drew)) absent drops clears after
    exact other (Subsingleton.elim k j)

/-- A moment at which calls to the cache fail. -/
def sampleFault : Moment := { sampleMoment with cacheFault := some "down" }

/-- The drop fails when the session is destroyed, and works when it is destroyed again. -/
def SampleFailure (ts us : List (Transition Unit)) (s s' : State Unit) : Prop :=
  Service.Run (service fun _ => sampleManager) (fresh {}) ts s ∧
    Service.Run (service fun _ => sampleManager) s us s' ∧ Brief () (ts ++ us) ∧
    draws (ts ++ us) = [(0, sampleToken)] ∧
    Service.marks ts = [(0, .inl ((), .create "u" "i" "a")),
      (0, .inr ⟨((), .create "u" "i" "a"), .ok sampleCreated⟩)] ∧
    Service.marks us = [(1, .inl ((), .destroy sampleToken)),
      (1, .inr ⟨((), .destroy sampleToken), .ok ()⟩),
      (2, .inl ((), .verify sampleToken)),
      (2, .inr ⟨((), .verify sampleToken), .ok sampleCreated.session⟩),
      (3, .inl ((), .destroy sampleToken)),
      (3, .inr ⟨((), .destroy sampleToken), .error .notFound⟩),
      (4, .inl ((), .verify sampleToken)),
      (4, .inr ⟨((), .verify sampleToken), .error .notFound⟩)]

theorem exists_sampleFailure : ∃ ts us s s', SampleFailure ts us s s' := by
  have play : ((fresh {}).play? (service fun _ : Unit => sampleManager)
      (wholeCall 0 () (.create "u" "i" "a") 7 sampleMoment)).bind (fun p =>
        (p.2.play? (service fun _ => sampleManager)
          (.start ((), .destroy sampleToken) :: .proceed 1 sampleMoment :: .proceed 1 sampleFault ::
            (List.replicate 2 (.proceed 1 sampleMoment) ++
              .finish 1 :: (wholeCall 2 () (.verify sampleToken) 2 sampleMoment ++
                (wholeCall 3 () (.destroy sampleToken) 2 sampleMoment ++
                  wholeCall 4 () (.verify sampleToken) 3 sampleMoment))))).map
          fun q => decide (
            draws (p.1 ++ q.1) = [(0, sampleToken)] ∧
            Service.marks p.1 = [(0, .inl ((), .create "u" "i" "a")),
              (0, .inr ⟨((), .create "u" "i" "a"), .ok sampleCreated⟩)] ∧
            Service.marks q.1 = [(1, .inl ((), .destroy sampleToken)),
              (1, .inr ⟨((), .destroy sampleToken), .ok ()⟩),
              (2, .inl ((), .verify sampleToken)),
              (2, .inr ⟨((), .verify sampleToken), .ok sampleCreated.session⟩),
              (3, .inl ((), .destroy sampleToken)),
              (3, .inr ⟨((), .destroy sampleToken), .error .notFound⟩),
              (4, .inl ((), .verify sampleToken)),
              (4, .inr ⟨((), .verify sampleToken), .error .notFound⟩)])) = some true := by
    decide +kernel
  obtain ⟨⟨ts, s⟩, first, rest⟩ := Option.bind_eq_some_iff.mp play
  obtain ⟨⟨us, s'⟩, second, seen⟩ := Option.map_eq_some_iff.mp rest
  exact ⟨ts, us, s, s', .of_play? first, .of_play? second, .of_plays first second (by decide),
    of_decide_eq_true seen⟩

namespace SampleFailure

variable {ts us : List (Transition Unit)} {s s' : State Unit} (sample : SampleFailure ts us s s')
include sample

theorem drew {e : Nat} {u : String} (h : Drew e u (ts ++ us)) :
    u = sampleToken ∧ Returned e ts := by
  obtain ⟨_, _, _, drawn, created, _⟩ := sample
  have ended : (0, .inr ⟨((), .create "u" "i" "a"), .ok sampleCreated⟩) ∈ Service.marks ts := by
    simp [created]
  exact drew_of_draws drawn ended h

theorem order : [Service.Event.begun 1 ((), .destroy sampleToken),
    .returned 1 ((), .destroy sampleToken) (.ok ()), .begun 2 ((), .verify sampleToken),
    .returned 2 ((), .verify sampleToken) (.ok sampleCreated.session)].Sublist
      (us.map (·.event)) := by
  obtain ⟨_, _, _, _, _, marks⟩ := sample
  have order : ((Service.marks us).map Service.Mark.event).Sublist (us.map (·.event)) :=
    Service.marks_sublist
  rw [marks] at order
  exact List.Sublist.trans (by simp [Service.Mark.event]) order

end SampleFailure

theorem fails_after_destroy_and_clear_sample :
    ∃ ts us s s', SampleFailure ts us s s' ∧ ∃ a b moment, us.map (·.event) =
        a ++ .asked 1 moment ((), .store (.deleteByHash (Token.digest sampleToken))) (.ok ()) :: b ∧
      ∀ f d r, Clears (Token.digest sampleToken) f →
        [f, .begun d ((), .verify sampleToken), .returned d ((), .verify sampleToken) r].Sublist b →
          ∀ x, r ≠ .ok x := by
  obtain ⟨ts, us, s, s', sample⟩ := exists_sampleFailure
  obtain ⟨first, second, brief, _⟩ := id sample
  refine ⟨ts, us, s, s', sample, ?_⟩
  refine fails_after_destroy_and_clear first second brief (fun e h => (sample.drew h).2)
    (fun e u h _ => (sample.drew h).1) (List.Sublist.trans ?_ sample.order)
  simp

/-- The drop has failed, and the token is still good though its destruction has succeeded. -/
theorem verified_after_failed_drop :
    ∃ ts us s s', SampleFailure ts us s s' ∧
      (∀ e, Drew e sampleToken (ts ++ us) → Returned e ts) ∧
      [Service.Event.begun 1 ((), .destroy sampleToken),
        .returned 1 ((), .destroy sampleToken) (.ok ()), .begun 2 ((), .verify sampleToken),
        .returned 2 ((), .verify sampleToken) (.ok sampleCreated.session)].Sublist
          (us.map (·.event)) := by
  obtain ⟨ts, us, s, s', sample⟩ := exists_sampleFailure
  exact ⟨ts, us, s, s', sample, fun e h => (sample.drew h).2, sample.order⟩

end Fleet
end SessionKit
