import SessionKit.Proofs.Issuance

/-!
# Revocation by identifier

To end a session by its identifier is to look it up for its digest, to delete it, and to drop the
digest from the cache. A lookup that fails does not keep the session from being deleted, but then
nobody knows the digest, and until somebody else drops it the session may still be served from the
cache.
-/

namespace SessionKit.Traffic

open Manager (Request Answer Order)

variable {m : Manager} {s s' : State} {ts us : List Transition} {t : Transition} {c : Nat}
  {tokenHash id : String}

/-! ## What a call that revokes by identifier achieves -/

namespace Progress

variable {g g' g'' : Progress} {found : Prop}

theorem Later.refl (g : Progress) : Later g g := ⟨fun h => h, fun h => h⟩

theorem Later.trans (h : Later g g') (h' : Later g' g'') : Later g g'' :=
  ⟨h'.1 ∘ h.1, h'.2 ∘ h.2⟩

/-- What is achieved with an answer, if the identifier is that of the session under the digest, and
if there is something that keeps the lookup from failing. -/
def AchievesById (found : Prop) (tokenHash id : String) :
    (r : Request) → Answer r → Progress → Progress → Prop
  | .store (.byId k), x, _, _ =>
    k = id → (∀ y, x = .ok y → y.tokenHash = tokenHash) ∧ (found → ∀ cause, x ≠ .error cause)
  | .store (.deleteById k), x, _, g' => k = id → x = .ok () ∨ x = .error .notFound → g'.deleted
  | .invalidate k, _, g, g' => k = tokenHash → g.deleted → g'.dropped
  | _, _, _, _ => True

/-- To find a session under a digest by its identifier, and to make progress as one goes on. -/
def finding (found : Prop) (tokenHash id : String) : Discipline Request Answer Progress where
  later := Later
  allows _ _ := True
  learns r x g g' := Later g g' ∧ AchievesById found tokenHash id r x g g'
  later_refl := Later.refl
  later_trans := @Later.trans

theorem finding_quiet : (finding found tokenHash id).Quiet where
  allows _ _ := trivial
  learns learnt := learnt.1

/-- What was found is dropped, whether or not the lookup has found anything. -/
theorem wp_invalidateFound (cached : m.cached = true) {x : Except Storage.Error Session}
    (hash : ∀ y, x = .ok y → y.tokenHash = tokenHash) (finds : found → ∀ cause, x ≠ .error cause) :
    (finding found tokenHash id).wp (m.invalidateFound x)
      (fun _ g' => g.deleted → g'.deleted ∧ (found → g'.dropped)) g := by
  cases x with
  | ok y =>
    obtain rfl := hash y rfl
    have drops : (finding found y.tokenHash id).wp (m.invalidate y.tokenHash)
        (fun _ g' => g.deleted → g'.deleted ∧ g'.dropped) g :=
      wp_invalidate_of finding_quiet (fun _ => trivial) (fun _ _ later => later)
        (fun _ _ _ learnt => ⟨learnt.1, learnt.2 rfl⟩) cached
    exact Discipline.wp_mono (fun _ _ done gone => (done gone).imp_right fun d _ => d) drops
  | error cause =>
    exact fun _ later gone => ⟨later.1 gone, fun found => absurd rfl (finds found cause)⟩

theorem wp_destroyById (cached : m.cached = true) (tokenHash id : String) :
    (finding found tokenHash id).wp (m.destroyById id).run
      (fun r g' => r = .ok () → g'.deleted ∧ (found → g'.dropped)) g := by
  rw [Manager.destroyById_run]
  intro g₁ _
  refine ⟨trivial, fun x g₂ learnt => ?_⟩
  obtain ⟨hash, finds⟩ := learnt.2 rfl
  intro g₃ _
  refine ⟨trivial, fun deleted g₄ learnt => ?_⟩
  refine Discipline.wp_bind_of (wp_invalidateFound cached hash finds) fun _ g₅ done => ?_
  rcases deleted with (_ | reason) | _
  · apply finding_quiet.wp_log_bind
    intro g₆ later _
    exact (done (learnt.2 rfl (.inr rfl))).imp later.1 (later.2 ∘ ·)
  · intro g₆ _ ok
    cases ok
  · apply finding_quiet.wp_log_bind
    intro g₆ later _
    exact (done (learnt.2 rfl (.inl rfl))).imp later.1 (later.2 ∘ ·)

/-! ## Along a run -/

/-- A session under a digest and no other one has an identifier. -/
def Names (w : World) (tokenHash id : String) : Prop :=
  ∀ x ∈ w.storage.sessions, x.id = id ↔ x.tokenHash = tokenHash

/-- A deletion by identifier that does not fail leaves nothing under the digest. -/
theorem not_stored_of_deleteById {moment : Moment} {w : World} (names : Names w tokenHash id)
    (h : (moment.serve (.store (.deleteById id)) w).1 = .ok () ∨
      (moment.serve (.store (.deleteById id)) w).1 = .error .notFound) :
    ¬ (moment.serve (.store (.deleteById id)) w).2.Stored tokenHash := by
  rw [serve_store] at h ⊢
  rcases store_cases (t := moment) (w := w) (.deleteById id) with ⟨reason, failed⟩ | done
  · rw [failed] at h
    rcases h with h | h <;> cases h
  · rw [done]
    rintro ⟨x, mem, hash⟩
    simp only [Storage.Memory.call] at mem
    cases found : w.storage.byId? id with
    | none =>
      -- There is no session with the identifier, so there was none under the digest either.
      rw [found] at mem
      have named : x.id = id := (names x mem).mpr hash
      have other := List.find?_eq_none.mp found x mem
      exact other (decide_eq_true named)
    | some y =>
      rw [found] at mem
      have named : y.id = id := of_decide_eq_true (List.find?_some found :)
      have same := (names y (List.mem_of_find?_eq_some found)).mp named
      have kept := (Storage.Memory.mem_without.mp mem).2
      exact kept (decide_eq_true (hash.trans same.symm))

theorem tokenHash_of_byId {moment : Moment} {w : World} {y : Session}
    (names : Names w tokenHash id) (h : (moment.serve (.store (.byId id)) w).1 = .ok y) :
    y.tokenHash = tokenHash := by
  rw [serve_store] at h
  rcases store_cases (t := moment) (w := w) (.byId id) with ⟨reason, failed⟩ | done
  · rw [failed] at h
    cases h
  · rw [done] at h
    simp only [Storage.Memory.call] at h
    cases found : w.storage.byId? id with
    | none =>
      rw [found] at h
      cases h
    | some x =>
      rw [found] at h
      cases h
      have named : y.id = id := of_decide_eq_true (List.find?_some found :)
      exact (names y (List.mem_of_find?_eq_some found)).mp named

/-- Progress is made in every step, and the more if the lookups of the call do not fail. -/
theorem moves_finding {w : World} {e : Event} (here : Service.worldAfter w ts = s.world)
    (step : Service.Step (service m) s e s') (names : Names s.world tokenHash id)
    (kept : ∀ x, Stores x e → x.tokenHash ≠ tokenHash)
    (finds : found → ∀ moment cause, e ≠ .asked c moment (.store (.byId id)) (.error cause)) :
    (finding found tokenHash id).Moves c e (after tokenHash w ts)
      (after tokenHash w (ts ++ [⟨s, e, s'⟩])) := by
  have later := later_snoc here step kept
  cases step with
  | begun o => exact later
  | returned found => exact later
  | @asked d moment o r rest flying =>
    refine ⟨fun own => ⟨later, ?_⟩, fun _ => later⟩
    subst own
    cases r with
    | store call =>
      cases call with
      | byId k =>
        rintro rfl
        refine ⟨fun y shown => tokenHash_of_byId names shown, fun found cause failed => ?_⟩
        exact finds found moment cause (congrArg _ failed)
      | deleteById k =>
        rintro rfl answered
        rw [after, Service.worldAfter_snoc]
        exact not_stored_of_deleteById names answered
      | _ => trivial
    | invalidate k =>
      rintro rfl deleted
      exact dropped_of_deleted rfl (later.1 deleted)
    | _ => trivial

end Progress

/-- The lookups by identifier that have failed, each with its call. -/
def failedLookups (ts : List Transition) : List (Nat × String × Storage.Error) :=
  ts.filterMap fun t =>
    match t.event with
    | .asked c _ (.store (.byId id)) (.error cause) => some (c, id, cause)
    | _ => none

theorem mem_failedLookups {moment : Moment} {cause : Storage.Error} (h : t ∈ ts)
    (asked : t.event = .asked c moment (.store (.byId id)) (.error cause)) :
    (c, id, cause) ∈ failedLookups ts := by
  apply List.mem_filterMap.mpr
  exact ⟨t, h, by rw [asked]⟩

section Issued

variable {settings : Cache.Settings} {created : Session.Created} {e : Nat}

/-- The identifier of an issued session is that of the session under the digest of its token, as
long as no other session gets it. -/
theorem names_of_issued (run : Service.Run (service m) (fresh settings) ts s)
    (issued : Issued e created ts) (sole : ∀ e', Drew e' created.token ts → e' = e)
    (distinct : ∀ e' u, Drew e' u ts → Token.digest u = Token.digest created.token →
      u = created.token)
    (ids : ∀ x ∈ creations ts, x.id = created.session.id → x = created.session) :
    Progress.Names s.world (Token.digest created.token) created.session.id := by
  intro x mem
  obtain ⟨t, ht, stores⟩ := stores_of_mem run rfl mem
  constructor
  · intro named
    rw [ids x (mem_creations.mpr ⟨t, ht, stores⟩) named]
    exact tokenHash_of_issued run issued
  · intro same
    rw [eq_session_of_stores run issued sole distinct ht stores same]

end Issued

/-- A token is refused once its session was ended by its identifier, if the lookup for the digest
did not fail; or else as soon as anybody has dropped the digest from the cache after that. A drop at
some time before is as good, if the storage did not have the digest then. -/
theorem fails_after_destroyById {m : Manager} (cached : m.cached = true) {settings : Cache.Settings}
    {created : Session.Created} {ts us : List Transition} {s s' : State} {c d e : Nat} {o : Order}
    {r : o.Result}
    (first : Service.Run (service m) (fresh settings) ts s)
    (second : Service.Run (service m) s us s') (brief : Brief (ts ++ us))
    (issued : Issued e created ts)
    (sole : ∀ e', Drew e' created.token (ts ++ us) → e' = e)
    (distinct : ∀ e' u, Drew e' u (ts ++ us) → Token.digest u = Token.digest created.token →
      u = created.token)
    (ids : ∀ x ∈ creations (ts ++ us), x.id = created.session.id → x = created.session)
    (order : [Service.Event.begun c (.destroyById created.session.id),
      .returned c (.destroyById created.session.id) (.ok ()),
      .begun d o, .returned d o r].Sublist (us.map (·.event)))
    (found_or_swept : (∀ cause, (c, created.session.id, cause) ∉ failedLookups us) ∨
      Swept (Token.digest created.token)
        [.begun c (.destroyById created.session.id),
          .returned c (.destroyById created.session.id) (.ok ())]
        [.begun d o, .returned d o r] us)
    (presents : Presents created.token o) : ∀ x, r ≠ .ok x := by
  have kept := tokenHash_ne_of_stores first second fun e' u drew digest => by
    obtain ⟨t, ht, o, x, returned, _⟩ := issued
    obtain rfl := sole e' (distinct e' u drew digest ▸ drew)
    exact ⟨t, ht, o, x, returned⟩
  have moves : ∀ p t, p ++ [t] <+: us →
      (Progress.finding (∀ cause, (c, created.session.id, cause) ∉ failedLookups us)
        (Token.digest created.token) created.session.id).Moves c t.event
        (Progress.after (Token.digest created.token) s.world p)
        (Progress.after (Token.digest created.token) s.world (p ++ [t])) := by
    intro p t cut
    have ht : t ∈ us := cut.subset (by simp)
    obtain ⟨before, step⟩ := second.step_of_prefix cut
    -- What is known of the whole run is known of the run before the step.
    have within : (ts ++ p).Sublist (ts ++ us) :=
      (List.Sublist.refl ts).append ((List.prefix_append p [t]).trans cut).sublist
    have names := names_of_issued (first.append before)
      (issued.mono (List.subset_append_left _ _))
      (fun e' drew => sole e' (drew.mono within.subset))
      (fun e' u drew => distinct e' u (drew.mono within.subset))
      (fun x mem => ids x ((within.filterMap _).subset mem))
    refine Progress.moves_finding before.worldAfter_eq step names (kept t ht) ?_
    intro found moment cause failed
    exact found cause (mem_failedLookups ht failed)
  rcases found_or_swept with found | swept
  · refine fails_of_progress first second brief kept moves (fun g => ?_) order presents
    exact Discipline.wp_mono (fun x g achieves same => (achieves same).2 found)
      (Progress.wp_destroyById cached _ _)
  · refine fails_of_swept first second brief kept moves (fun g => ?_) swept presents
    exact Discipline.wp_mono (fun x g achieves same => (achieves same).1)
      (Progress.wp_destroyById cached _ _)

/-- The sample session is issued by the first call, and nobody draws its token or gets its
identifier again. -/
def SampleIssued (ts us : List Transition) : Prop :=
  Service.marks ts = [(0, .inl (.create "u" "i" "a")),
    (0, .inr ⟨.create "u" "i" "a", .ok sampleCreated⟩)] ∧
  draws (ts ++ us) = [(0, sampleToken)] ∧ creations (ts ++ us) = [sampleCreated.session]

instance (ts us : List Transition) : Decidable (SampleIssued ts us) :=
  inferInstanceAs (Decidable (_ ∧ _ ∧ _))

namespace SampleIssued

variable (h : SampleIssued ts us)

include h

theorem issued : Issued 0 sampleCreated ts := by
  obtain ⟨t, ht, event⟩ := Service.mem_of_mem_marks
    (show (0, .inr ⟨.create "u" "i" "a", .ok sampleCreated⟩) ∈ Service.marks ts by simp [h.1])
  exact ⟨t, ht, _, _, event, rfl⟩

theorem eq_of_drew {e : Nat} {u : String} (drew : Drew e u (ts ++ us)) :
    e = 0 ∧ u = sampleToken := by
  have mem := mem_draws drew
  rw [h.2.1] at mem
  simpa using mem

theorem eq_of_created {x : Session} (mem : x ∈ creations (ts ++ us)) :
    x = sampleCreated.session := by
  rw [h.2.2] at mem
  exact List.mem_singleton.mp mem

end SampleIssued

theorem fails_after_destroyById_sample :
    ∃ ts us s s', Service.Run (service sampleManager) (fresh {}) ts s ∧
      Service.Run (service sampleManager) s us s' ∧ SampleIssued ts us ∧ failedLookups us = [] ∧
      [Service.Event.begun 1 (.destroyById "s"), .returned 1 (.destroyById "s") (.ok ()),
        .begun 2 (.verify sampleToken), .returned 2 (.verify sampleToken)
          (.error .notFound)].Sublist (us.map (·.event)) ∧
      ∀ x : Session, (.error .notFound : Except Session.Error Session) ≠ .ok x := by
  have play : ((fresh {}).play? (service sampleManager)
      (wholeCall 0 (.create "u" "i" "a") 7 sampleMoment)).bind (fun p =>
        (p.2.play? (service sampleManager)
          (wholeCall 1 (.destroyById "s") 4 sampleMoment ++
            wholeCall 2 (.verify sampleToken) 3 sampleMoment)).map fun q =>
        (decide (SampleIssued p.1 q.1), failedLookups q.1, Service.marks q.1)) =
      some (true, [], [(1, .inl (.destroyById "s")), (1, .inr ⟨.destroyById "s", .ok ()⟩),
        (2, .inl (.verify sampleToken)),
        (2, .inr ⟨.verify sampleToken, .error .notFound⟩)]) := by
    decide +kernel
  obtain ⟨⟨ts, s⟩, first, rest⟩ := Option.bind_eq_some_iff.mp play
  obtain ⟨⟨us, s'⟩, second, seen⟩ := Option.map_eq_some_iff.mp rest
  simp only [Prod.mk.injEq] at seen
  obtain ⟨holds, found, marks⟩ := seen
  have sample := of_decide_eq_true holds
  have order : ((Service.marks us).map Service.Mark.event).Sublist (us.map (·.event)) :=
    Service.marks_sublist
  rw [marks] at order
  refine ⟨ts, us, s, s', .of_play? first, .of_play? second, sample, found, order, ?_⟩
  exact fails_after_destroyById rfl (.of_play? first) (.of_play? second)
    (.of_plays first second (by decide)) sample.issued (fun e drew => (sample.eq_of_drew drew).1)
    (fun e u drew _ => (sample.eq_of_drew drew).2) (fun x mem _ => sample.eq_of_created mem) order
    (.inl fun cause => by simp [found]) rfl

/-- A session was ended by its identifier after a lookup that failed, and its token is still
good. -/
def Missed (cause : Storage.Error) : Prop :=
  ∃ ts us s s' c d, Service.Run (service sampleManager) (fresh {}) ts s ∧
    Service.Run (service sampleManager) s us s' ∧ Issued 0 sampleCreated ts ∧
    (∀ e, Drew e sampleToken (ts ++ us) → e = 0) ∧
    (∀ e u, Drew e u (ts ++ us) → Token.digest u = Token.digest sampleToken → u = sampleToken) ∧
    (∀ x ∈ creations (ts ++ us), x.id = "s" → x = sampleCreated.session) ∧
    (c, "s", cause) ∈ failedLookups us ∧
    [Service.Event.begun c (.destroyById "s"), .returned c (.destroyById "s") (.ok ()),
      .begun d (.verify sampleToken), .returned d (.verify sampleToken)
        (.ok sampleCreated.session)].Sublist (us.map (·.event))

theorem missed_of_play {cause : Storage.Error} {c d : Nat}
    (others : List (Service.Mark Order Order.Result)) (choices : List Choice)
    (play : ((fresh {}).play? (service sampleManager)
      (wholeCall 0 (.create "u" "i" "a") 7 sampleMoment)).bind (fun p =>
        (p.2.play? (service sampleManager) choices).map fun q =>
        (decide (SampleIssued p.1 q.1), failedLookups q.1, Service.marks q.1)) =
      some (true, [(c, "s", cause)], others ++ [(c, .inl (.destroyById "s")),
        (c, .inr ⟨.destroyById "s", .ok ()⟩), (d, .inl (.verify sampleToken)),
        (d, .inr ⟨.verify sampleToken, .ok sampleCreated.session⟩)])) : Missed cause := by
  obtain ⟨⟨ts, s⟩, early, rest⟩ := Option.bind_eq_some_iff.mp play
  obtain ⟨⟨us, s'⟩, late, seen⟩ := Option.map_eq_some_iff.mp rest
  simp only [Prod.mk.injEq] at seen
  obtain ⟨holds, failed, marks⟩ := seen
  have sample := of_decide_eq_true holds
  have order : ((Service.marks us).map Service.Mark.event).Sublist (us.map (·.event)) :=
    Service.marks_sublist
  rw [marks, List.map_append] at order
  refine ⟨ts, us, s, s', c, d, .of_play? early, .of_play? late, sample.issued, ?_, ?_, ?_, ?_, ?_⟩
  · intro e drew
    exact (sample.eq_of_drew drew).1
  · intro e u drew _
    exact (sample.eq_of_drew drew).2
  · intro x mem _
    exact sample.eq_of_created mem
  · rw [failed]
    exact List.mem_singleton_self _
  · exact (List.sublist_append_right _ _).trans order

/-- Where the lookup fails, the cache may still serve the session. Either a destruction has deleted
it from the storage before, and has yet to drop it from the cache; or the storage could not be
reached for the lookup, and deletes the session thereafter. -/
theorem verified_after_destroyById : Missed .notFound ∧ Missed (.backend "down") := by
  constructor
  · refine missed_of_play (c := 2) (d := 3) [(1, .inl (.destroy sampleToken))]
      (.start (.destroy sampleToken) :: .proceed 1 sampleMoment ::
        (wholeCall 2 (.destroyById "s") 3 sampleMoment ++
          wholeCall 3 (.verify sampleToken) 2 sampleMoment)) ?_
    decide +kernel
  · refine missed_of_play (c := 1) (d := 2) []
      (.start (.destroyById "s") :: .proceed 1 { sampleMoment with fault := some "down" } ::
        (List.replicate 2 (.proceed 1 sampleMoment) ++ .finish 1 ::
          wholeCall 2 (.verify sampleToken) 2 sampleMoment)) ?_
    decide +kernel

end SessionKit.Traffic
