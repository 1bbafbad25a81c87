import SessionKit.Proofs.Provenance
import SessionKit.Proofs.Refusal

/-!
# Revocation

Who destroys a token deletes its session from the storage and drops its digest from the cache
thereafter. When no call is left that could put the session back, the drop ends the exposure of the
digest for good.
-/

namespace SessionKit.Traffic

open Manager (Request Answer Order)

variable {m : Manager} {s s' : State} {ts us : List Transition} {t : Transition} {c : Nat}
  {tokenHash token : String}

/-! ## What a call that revokes achieves -/

/-- How far the revocation of a digest has come. -/
structure Progress where
  /-- The storage does not have the digest. -/
  deleted : Prop
  /-- The digest was dropped from the cache while the storage did not have it. -/
  dropped : Prop

namespace Progress

variable {g g' : Progress} {ours : String → Prop}

def Later (g g' : Progress) : Prop := (g.deleted → g'.deleted) ∧ (g.dropped → g'.dropped)

theorem Later.both (h : Later g g') : g.deleted ∧ g.dropped → g'.deleted ∧ g'.dropped :=
  And.imp h.1 h.2

/-- What is achieved with an answer. All sessions under the digest are of our users. -/
def Achieves (tokenHash : String) (ours : String → Prop) :
    (r : Request) → Answer r → Progress → Progress → Prop
  | .store (.deleteByHash k), x, _, g' =>
    k = tokenHash → x = .ok () ∨ x = .error .notFound → g'.deleted
  | .store (.deleteOfUser u), x, _, g' => ours u → (∃ n, x = .ok n) → g'.deleted
  | .invalidate k, _, g, g' => k = tokenHash → g.deleted → g'.dropped
  | .invalidateAll, _, g, g' => g.deleted → g'.dropped
  | _, _, _, _ => True

/-- To make progress with every deletion and with every drop. -/
def revoking (tokenHash : String) (ours : String → Prop) :
    Discipline Request Answer Progress where
  later := Later
  allows _ _ := True
  learns r x g g' := Later g g' ∧ Achieves tokenHash ours r x g g'
  later_refl _ := ⟨id, id⟩
  later_trans h h' := ⟨h'.1 ∘ h.1, h'.2 ∘ h.2⟩

theorem revoking_quiet : (revoking tokenHash ours).Quiet where
  allows _ _ := trivial
  learns learnt := learnt.1

/-- To drop the digest is progress, whatever else a discipline says, if what is deleted stays so. -/
theorem wp_invalidate_of {D : Discipline Request Answer Progress} (quiet : D.Quiet)
    (allowed : ∀ g, D.allows (.invalidate tokenHash) g) (grows : ∀ g g', D.later g g' → Later g g')
    (drops : ∀ x g g', D.learns (.invalidate tokenHash) x g g' →
      Later g g' ∧ (g.deleted → g'.dropped)) (cached : m.cached = true) :
    D.wp (m.invalidate tokenHash) (fun _ g' => g.deleted → g'.deleted ∧ g'.dropped) g := by
  rw [m.invalidate_cached cached]
  intro g₁ later
  refine ⟨allowed g₁, fun x g₂ learnt => ?_⟩
  have done (deleted : g.deleted) : g₂.deleted ∧ g₂.dropped :=
    (drops x g₁ g₂ learnt).imp (·.1 ((grows _ _ later).1 deleted))
      (· ((grows _ _ later).1 deleted))
  cases x with
  | ok u =>
    intro g₃ later' deleted
    exact (grows _ _ later').both (done deleted)
  | error e =>
    apply quiet.wp_log
    intro g₃ later' deleted
    exact (grows _ _ later').both (done deleted)

theorem wp_invalidate (cached : m.cached = true) (h : g.deleted) :
    (revoking tokenHash ours).wp (m.invalidate tokenHash) (fun _ g => g.dropped) g := by
  have drops : (revoking tokenHash ours).wp (m.invalidate tokenHash)
      (fun _ g' => g.deleted → g'.deleted ∧ g'.dropped) g :=
    wp_invalidate_of revoking_quiet (fun _ => trivial) (fun _ _ later => later)
      (fun _ _ _ learnt => ⟨learnt.1, learnt.2 rfl⟩) cached
  exact Discipline.wp_mono (fun _ _ dropped => (dropped h).2) drops

theorem wp_invalidateAll (cached : m.cached = true) (h : g.deleted) :
    (revoking tokenHash ours).wp m.invalidateAll (fun _ g => g.deleted ∧ g.dropped) g := by
  rw [m.invalidateAll_cached cached]
  intro g₁ later
  refine ⟨trivial, fun x g₂ learnt => ?_⟩
  have done : g₂.deleted ∧ g₂.dropped :=
    ⟨learnt.1.1 (later.1 h), learnt.2 (later.1 h)⟩
  cases x with
  | ok u => exact fun _ later => later.both done
  | error e => exact revoking_quiet.wp_log fun _ later => later.both done

/-- The result of a destruction says that the token is destroyed. -/
def Destroyed (r : Except Session.Error Unit) : Prop := r = .ok () ∨ r = .error .notFound

theorem wp_destroy (cached : m.cached = true) :
    (revoking (Token.digest token) ours).wp (m.destroy token).run
      (fun r g => Destroyed r → g.dropped) g := by
  rw [Manager.destroy_run]
  split
  · rintro g₁ _ (ok | notFound)
    · cases ok
    · cases notFound
  · intro g₁ _
    refine ⟨trivial, fun deleted g₂ learnt => ?_⟩
    rcases deleted with (_ | reason) | _
    · have gone : g₂.deleted := learnt.2 rfl (.inr rfl)
      refine Discipline.wp_bind_of (wp_invalidate cached gone) fun _ g₃ dropped => ?_
      exact fun _ later _ => later.2 dropped
    · refine Discipline.wp_bind_of (Discipline.wp_of_allows fun _ _ => trivial) fun _ g₃ _ => ?_
      rintro _ _ (ok | notFound)
      · cases ok
      · cases notFound
    · have gone : g₂.deleted := learnt.2 rfl (.inl rfl)
      refine Discipline.wp_bind_of (wp_invalidate cached gone) fun _ g₃ dropped => ?_
      exact revoking_quiet.wp_log_bind fun _ later _ => later.2 dropped

/-- Ending the sessions of a user deletes them, and drops everything if there were any. -/
theorem wp_destroyOfUser (cached : m.cached = true) {userId : String} (h : ours userId) :
    (revoking tokenHash ours).wp (m.destroyOfUser userId).run
      (fun r g => ∀ n, r = .ok n → g.deleted ∧ (0 < n → g.dropped)) g := by
  have delete : (revoking tokenHash ours).wp
      (Manager.store "delete user sessions" (.deleteOfUser userId)).run
      (fun r g => (∃ n, r = .ok n) → g.deleted) g := by
    rw [Manager.store_run]
    intro g₁ _
    refine ⟨trivial, fun removed g₂ learnt => ?_⟩
    cases removed with
    | ok n => exact fun _ later _ => later.1 (learnt.2 h ⟨n, rfl⟩)
    | error cause => exact fun _ _ ⟨_, failed⟩ => nomatch failed
  rw [Manager.destroyOfUser_run]
  refine Discipline.wp_andThen delete (fun removed g₁ deleted => ?_)
    (fun _ _ _ _ _ _ failed => nomatch failed)
  have gone : g₁.deleted := deleted ⟨removed, rfl⟩
  by_cases some : 0 < removed
  · rw [if_pos some]
    refine Discipline.wp_bind_of (wp_invalidateAll cached gone) fun _ g₂ done => ?_
    refine revoking_quiet.wp_log_bind fun _ later _ _ => ?_
    exact (later.both done).imp_right fun dropped _ => dropped
  · rw [if_neg some]
    refine revoking_quiet.wp_log_bind fun _ later n counted => ⟨later.1 gone, fun positive => ?_⟩
    cases counted
    exact absurd positive some

/-! ## Along a run -/

/-- The progress after some steps. -/
def after (tokenHash : String) (w : World) (ts : List Transition) : Progress where
  deleted := ¬ (Service.worldAfter w ts).Stored tokenHash
  dropped := ∃ t ∈ ts, Drops tokenHash t.event ∧ ¬ t.after.world.Stored tokenHash

/-- Nothing is lost as long as nobody puts the digest back into the storage. -/
theorem later_snoc {w : World} {e : Event} (here : Service.worldAfter w ts = s.world)
    (step : Service.Step (service m) s e s')
    (kept : ∀ x, Stores x e → x.tokenHash ≠ tokenHash) :
    Later (after tokenHash w ts) (after tokenHash w (ts ++ [⟨s, e, s'⟩])) := by
  simp only [Later, after, here, Service.worldAfter_snoc]
  refine ⟨fun absent ⟨x, mem, hash⟩ => ?_, fun ⟨t, ht, dropped⟩ => ⟨t, by simp [ht], dropped⟩⟩
  rcases mem_of_mem_step step mem with before | stores
  · exact absent ⟨x, before, hash⟩
  · exact kept x stores hash

/-- A drop counts if the digest is out of the storage then, and it does not touch the storage. -/
theorem dropped_of_deleted {w : World} (drops : Drops tokenHash t.event)
    (absent : (after tokenHash w (ts ++ [t])).deleted) :
    (after tokenHash w (ts ++ [t])).dropped := by
  rw [after, Service.worldAfter_snoc] at absent
  exact ⟨t, by simp, drops, absent⟩

theorem moves {w : World} {e : Event} (here : Service.worldAfter w ts = s.world)
    (step : Service.Step (service m) s e s')
    (kept : ∀ x, Stores x e → x.tokenHash ≠ tokenHash)
    (users : ∀ u, ours u → ∀ x ∈ s'.world.storage.sessions, x.tokenHash = tokenHash →
      x.userId = u) (c : Nat) :
    (revoking tokenHash ours).Moves c e (after tokenHash w ts)
      (after tokenHash w (ts ++ [⟨s, e, s'⟩])) := by
  have later := later_snoc here step kept
  cases step with
  | begun o => exact later
  | returned found => exact later
  | @asked d moment o r k found =>
    refine ⟨fun _ => ⟨later, ?_⟩, fun _ => later⟩
    cases r with
    | store call =>
      cases call with
      | deleteByHash k =>
        rintro rfl answered
        rw [after, Service.worldAfter_snoc]
        exact not_stored_of_deleteByHash answered
      | deleteOfUser u =>
        rintro our ⟨n, answered⟩
        rw [after, Service.worldAfter_snoc]
        rintro ⟨x, mem, hash⟩
        exact userId_ne_of_deleteOfUser answered mem (users u our x mem hash)
      | _ => trivial
    | invalidate k =>
      rintro rfl absent
      exact dropped_of_deleted rfl (later.1 absent)
    | invalidateAll => exact fun absent => dropped_of_deleted trivial (later.1 absent)
    | _ => trivial

/-- Every call makes progress all along a run in which nobody puts the digest back. -/
theorem moves_run (ours : String → Prop) (run : Service.Run (service m) s us s')
    (kept : ∀ t ∈ us, ∀ x, Stores x t.event → x.tokenHash ≠ tokenHash)
    (users : ∀ u, ours u → ∀ t ∈ us, ∀ x ∈ t.after.world.storage.sessions,
      x.tokenHash = tokenHash → x.userId = u) (c : Nat) :
    ∀ p t, p ++ [t] <+: us → (revoking tokenHash ours).Moves c t.event
      (after tokenHash s.world p) (after tokenHash s.world (p ++ [t])) := by
  intro p t cut
  have ht : t ∈ us := cut.subset (by simp)
  obtain ⟨before, step⟩ := run.step_of_prefix cut
  exact moves before.worldAfter_eq step (kept t ht) (fun u our => users u our t ht) c

end Progress

/-- A call has returned. -/
def Returned (c : Nat) (ts : List Transition) : Prop :=
  ∃ t ∈ ts, ∃ o r, t.event = .returned c o r

/-- The calls that have returned. -/
def returnedCalls (ts : List Transition) : List Nat :=
  (Service.marks ts).filterMap fun
    | (c, .inr _) => some c
    | _ => none

theorem returned_of_mem (h : c ∈ returnedCalls ts) : Returned c ts := by
  obtain ⟨⟨d, order | ⟨o, r⟩⟩, mark, same⟩ := List.mem_filterMap.mp h
  · cases same
  · cases same
    obtain ⟨t, ht, event⟩ := Service.mem_of_mem_marks mark
    exact ⟨t, ht, o, r, event⟩

section Returned

variable {settings : Cache.Settings} {d : Nat}

/-- When no call that draws a token with the digest is left, the digest does not come back. -/
theorem tokenHash_ne_of_stores (first : Service.Run (service m) (fresh settings) ts s)
    (second : Service.Run (service m) s us s')
    (spent : ∀ c u, Drew c u (ts ++ us) → Token.digest u = tokenHash → Returned c ts) :
    ∀ t ∈ us, ∀ x, Stores x t.event → x.tokenHash ≠ tokenHash := by
  rintro t ht x stores rfl
  obtain ⟨u, drew, digest⟩ := drew_of_stores (first.append second) (fresh_idle settings)
    (List.mem_append_right ts ht) stores
  -- The call that stores the session has drawn its token, so it had returned before.
  obtain ⟨w, hw, o, r, returned⟩ := spent _ u drew digest
  have ended := first.ended (fresh_numbered settings) hw returned
  exact (second.call_ne ended).1 t ht rfl

theorem not_stored_of_kept (run : Service.Run (service m) s us s')
    (absent : ¬ s.world.Stored tokenHash)
    (kept : ∀ t ∈ us, ∀ x, Stores x t.event → x.tokenHash ≠ tokenHash) :
    ∀ t ∈ us, ¬ t.after.world.Stored tokenHash := by
  refine (run.always (P := fun w => ¬ w.Stored tokenHash) (fun t ht step before => ?_) absent).1
  rintro ⟨x, mem, hash⟩
  rcases mem_of_mem_step step mem with mem | stores
  · exact before ⟨x, mem, hash⟩
  · exact kept t ht x stores hash

/-- A call that has returned has come as far as its program promises for its result. How it makes
progress is up to a discipline. -/
theorem achieved_of_returned {D : Discipline Request Answer Progress} {P : Progress → Prop}
    {o : Order} {r : o.Result} (run : Service.Run (service m) s us s')
    (moves : ∀ p t, p ++ [t] <+: us →
      D.Moves c t.event (Progress.after tokenHash s.world p)
        (Progress.after tokenHash s.world (p ++ [t])))
    (program : ∀ g, D.wp (o.program m) (fun x g => x = r → P g) g)
    (order : [Service.Event.begun c o, .returned c o r].Sublist (us.map (·.event))) :
    ∃ p t, p ++ [t] <+: us ∧ P (Progress.after tokenHash s.world p) := by
  obtain ⟨p, t, cut, _, achieved⟩ := Discipline.vow_of_returned
    (fun q x g => (⟨q, x⟩ : (q : Order) × q.Result) = ⟨o, r⟩ → P g)
    (Progress.after tokenHash s.world) run order
    (fun g => Discipline.wp_mono (fun x g achieves same => achieves (by cases same; rfl))
      (program g))
    moves
  exact ⟨p, t, cut, achieved rfl⟩

/-- What a call has deleted that has returned is not in the storage, if nobody puts it back. -/
theorem not_stored_of_returned {D : Discipline Request Answer Progress} {o : Order} {r : o.Result}
    (run : Service.Run (service m) s us s')
    (kept : ∀ t ∈ us, ∀ x, Stores x t.event → x.tokenHash ≠ tokenHash)
    (moves : ∀ p t, p ++ [t] <+: us →
      D.Moves c t.event (Progress.after tokenHash s.world p)
        (Progress.after tokenHash s.world (p ++ [t])))
    (deletes : ∀ g, D.wp (o.program m) (fun x g => x = r → g.deleted) g)
    (order : [Service.Event.begun c o, .returned c o r].Sublist (us.map (·.event))) :
    ¬ s'.world.Stored tokenHash := by
  obtain ⟨p, t, ⟨q, rfl⟩, absent⟩ := achieved_of_returned run moves deletes order
  rw [List.append_assoc, List.singleton_append] at run kept
  obtain ⟨before, _, _⟩ := run.mid
  rw [Progress.after, before.worldAfter_eq] at absent
  obtain ⟨u, hu, last⟩ := run.exists_world_eq
  rw [last]
  exact not_stored_of_kept run.tail absent (fun v hv => kept v (List.mem_append_right p hv)) u hu

/-- Once a call has made its way to the drop of a digest that does not come back, its token is
refused. -/
theorem fails_of_progress {D : Discipline Request Answer Progress} {o o' : Order} {r : o.Result}
    {r' : o'.Result} (first : Service.Run (service m) (fresh settings) ts s)
    (second : Service.Run (service m) s us s') (brief : Brief (ts ++ us))
    (kept : ∀ t ∈ us, ∀ x, Stores x t.event → x.tokenHash ≠ Token.digest token)
    (moves : ∀ p t, p ++ [t] <+: us →
      D.Moves c t.event (Progress.after (Token.digest token) s.world p)
        (Progress.after (Token.digest token) s.world (p ++ [t])))
    (progress : ∀ g, D.wp (o.program m) (fun x g => x = r → g.dropped) g)
    (order : [Service.Event.begun c o, .returned c o r, .begun d o', .returned d o' r'].Sublist
      (us.map (·.event)))
    (presents : Presents token o') : Fails r' := by
  obtain ⟨a, w, b, rfl, begun, order⟩ := Service.cons_sublist_events order
  obtain ⟨a', w', b', rfl, returned, order⟩ := Service.cons_sublist_events order
  -- The run up to the return of the revocation, and what comes after it.
  generalize revocation : a ++ w :: (a' ++ [w']) = rs
  have parts : a ++ w :: (a' ++ w' :: b') = rs ++ b' := by simp [← revocation]
  rw [parts] at second kept moves brief
  obtain ⟨_, early, _⟩ := second.split
  have within : [Service.Event.begun c o, .returned c o r].Sublist (rs.map (·.event)) := by
    rw [← begun, ← returned, ← revocation]
    exact Service.sublist_events
  obtain ⟨us, _, cut, t, ht, dropped, absent⟩ := achieved_of_returned early
    (fun p t cut => moves p t (cut.trans (List.prefix_append _ _))) progress within
  -- From the drop on the digest is in neither of them, and the other call begins later.
  obtain ⟨p, q, rfl⟩ := List.append_of_mem (cut.subset (List.mem_append_left _ ht) : t ∈ rs)
  rw [List.append_assoc, List.cons_append] at second brief
  have whole := first.append second
  rw [← List.append_assoc] at whole brief
  refine fails_of_drop whole brief dropped (fun u hu => ?_) (order.trans ?_) presents
  · rcases List.mem_cons.mp hu with rfl | hu
    · exact absent
    · refine not_stored_of_kept second.mid.2.2 absent (fun v hv => kept v ?_) u hu
      simpa using .inr (.inr (List.mem_append.mp hv))
  · rw [List.map_append]
    exact List.sublist_append_right _ _

/-! ## Drops by others -/

/-- A digest is dropped from the cache before some events, and after some others or else at a time
when the storage does not have it. -/
def Swept (tokenHash : String) (earlier later : List Event) (ts : List Transition) : Prop :=
  ∃ a t b, ts = a ++ t :: b ∧ Drops tokenHash t.event ∧
    (earlier.Sublist (a.map (·.event)) ∨ ¬ t.after.world.Stored tokenHash) ∧
    later.Sublist (b.map (·.event))

/-- If a call has deleted a digest that does not come back, it is enough that anybody drops it from
the cache after the call has returned. -/
theorem fails_of_swept {D : Discipline Request Answer Progress} {o o' : Order} {r : o.Result}
    {r' : o'.Result} (first : Service.Run (service m) (fresh settings) ts s)
    (second : Service.Run (service m) s us s') (brief : Brief (ts ++ us))
    (kept : ∀ t ∈ us, ∀ x, Stores x t.event → x.tokenHash ≠ Token.digest token)
    (moves : ∀ p t, p ++ [t] <+: us →
      D.Moves c t.event (Progress.after (Token.digest token) s.world p)
        (Progress.after (Token.digest token) s.world (p ++ [t])))
    (deletes : ∀ g, D.wp (o.program m) (fun x g => x = r → g.deleted) g)
    (swept : Swept (Token.digest token) [Service.Event.begun c o, .returned c o r]
      [.begun d o', .returned d o' r'] us)
    (presents : Presents token o') : Fails r' := by
  obtain ⟨a, t, b, rfl, dropped, when_dropped, late⟩ := swept
  obtain ⟨before, _, after⟩ := second.mid
  have absent : ∀ u ∈ t :: b, ¬ u.after.world.Stored (Token.digest token) := by
    have rest : ∀ u ∈ t :: b, ∀ x, Stores x u.event → x.tokenHash ≠ Token.digest token :=
      fun u hu => kept u (List.mem_append_right a hu)
    rcases when_dropped with early | gone
    · -- What the call has deleted is out of the storage already.
      have deleted : ¬ t.before.world.Stored (Token.digest token) := by
        refine not_stored_of_returned before (fun u hu => kept u (List.mem_append_left _ hu))
          (fun p u cut => moves p u (cut.trans (List.prefix_append _ _))) deletes early
      exact not_stored_of_kept second.tail deleted rest
    · refine List.forall_mem_cons.mpr ⟨gone, ?_⟩
      exact not_stored_of_kept after gone fun u hu => rest u (List.mem_cons_of_mem t hu)
  have whole := first.append second
  rw [← List.append_assoc] at whole brief
  exact fails_of_drop whole brief dropped absent late presents

end Returned

/-- A token that was destroyed is refused for good. Every call that draws the token has returned
before the destruction begins: the call that issued it, and no later one draws it again. -/
theorem fails_after_destroy {m : Manager} (cached : m.cached = true) {settings : Cache.Settings}
    {token : String} {ts us : List Transition} {s s' : State} {c d : Nat} {o : Order}
    {r : Except Session.Error Unit} {r' : o.Result}
    (first : Service.Run (service m) (fresh settings) ts s)
    (second : Service.Run (service m) s us s') (brief : Brief (ts ++ us))
    (spent : ∀ e, Drew e token (ts ++ us) → Returned e ts)
    (distinct : ∀ e u, Drew e u (ts ++ us) → Token.digest u = Token.digest token → u = token)
    (order : [Service.Event.begun c (.destroy token), .returned c (.destroy token) r,
      .begun d o, .returned d o r'].Sublist (us.map (·.event)))
    (destroyed : r = .ok () ∨ r = .error .notFound)
    (presents : Presents token o) : ∀ x, r' ≠ .ok x := by
  have kept := tokenHash_ne_of_stores first second
    (fun e u drew digest => spent e (distinct e u drew digest ▸ drew))
  refine fails_of_progress first second brief kept
    (Progress.moves_run (fun _ => False) second kept (fun _ no => no.elim) c)
    (fun g => ?_) order presents
  refine Discipline.wp_mono (fun x g achieves same => ?_) (Progress.wp_destroy cached)
  exact achieves (same ▸ destroyed)

theorem fails_after_destroy_sample :
    ∃ ts us s s', Service.Run (service sampleManager) (fresh {}) ts s ∧
      Service.Run (service sampleManager) s us s' ∧
      [Service.Event.begun 1 (.destroy sampleToken), .returned 1 (.destroy sampleToken) (.ok ()),
        .begun 2 (.verify sampleToken), .returned 2 (.verify sampleToken)
          (.error .notFound)].Sublist (us.map (·.event)) ∧
      ∀ x : Session, (.error .notFound : Except Session.Error Session) ≠ .ok x := by
  have play : ((fresh {}).play? (service sampleManager)
      (wholeCall 0 (.create "u" "i" "a") 7 sampleMoment)).bind (fun p =>
        (p.2.play? (service sampleManager)
          (wholeCall 1 (.destroy sampleToken) 3 sampleMoment ++
            wholeCall 2 (.verify sampleToken) 3 sampleMoment)).map fun q =>
        (draws (p.1 ++ q.1), returnedCalls p.1, Service.marks q.1)) =
      some ([(0, sampleToken)], [0], [(1, .inl (.destroy sampleToken)),
        (1, .inr ⟨.destroy sampleToken, .ok ()⟩), (2, .inl (.verify sampleToken)),
        (2, .inr ⟨.verify sampleToken, .error .notFound⟩)]) := by
    decide +kernel
  obtain ⟨⟨ts, s⟩, first, rest⟩ := Option.bind_eq_some_iff.mp play
  obtain ⟨⟨us, s'⟩, second, seen⟩ := Option.map_eq_some_iff.mp rest
  simp only [Prod.mk.injEq] at seen
  obtain ⟨drawn, ended, marks⟩ := seen
  have order : ((Service.marks us).map Service.Mark.event).Sublist (us.map (·.event)) :=
    Service.marks_sublist
  rw [marks] at order
  have drew {e : Nat} {u : String} (h : Drew e u (ts ++ us)) : e = 0 ∧ u = sampleToken := by
    have mem := mem_draws h
    rw [drawn] at mem
    simpa using mem
  refine ⟨ts, us, s, s', .of_play? first, .of_play? second, order, ?_⟩
  refine fails_after_destroy rfl (.of_play? first) (.of_play? second)
    (.of_plays first second (by decide)) (fun e h => ?_) (fun e u h _ => (drew h).2) order
    (.inl rfl) rfl
  rw [(drew h).1]
  exact returned_of_mem (by simp [ended])

end SessionKit.Traffic
