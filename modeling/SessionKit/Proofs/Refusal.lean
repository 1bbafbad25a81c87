import SessionKit.Proofs.Exposure

/-!
# Refusal

Once a digest has been dropped from the cache while the storage did not have it, and as long as
nobody puts it back into the storage, the digest is not exposed, so the cache does not have it
either. A verification that begins then finds nothing in either of them.
-/

namespace SessionKit.Traffic

open Manager (Request Answer Order)

variable {m : Manager} {s s' : State} {ts a b : List Transition} {t : Transition} {c : Nat}
  {tokenHash token : String}

/-! ## Without exposure -/

theorem exposed_iff_since : Exposed tokenHash ts ↔
    Since (fun _ t => t.after.world.Stored tokenHash) (fun t => ¬ Drops tokenHash t.event) ts :=
  Iff.rfl

/-- A digest that is dropped while the storage does not have it, and that does not come back, is
exposed no longer. -/
theorem not_exposed_of_drop (dropped : Drops tokenHash t.event)
    (gone : ∀ u ∈ t :: b, ¬ u.after.world.Stored tokenHash) :
    ¬ Exposed tokenHash (a ++ t :: b) := by
  rw [exposed_iff_since]
  exact not_since_of_not_keeps (not_not_intro dropped) fun _ u hu => gone u hu

/-! ## Verification -/

/-- What a storage and a cache without a digest answer. -/
def Denies (tokenHash : String) : (r : Request) → Answer r → Prop
  | .lookUp k, x => k = tokenHash → ∀ s, x ≠ .ok (some s)
  | .store (.byHash k), x => k = tokenHash → ∀ s, x ≠ .ok s
  | _, _ => True

/-- To find nothing under a digest. -/
def denial (tokenHash : String) : Discipline Request Answer Unit where
  later _ _ := True
  allows _ _ := True
  learns r x _ _ := Denies tokenHash r x
  later_refl _ := trivial
  later_trans _ _ := trivial

theorem denial_quiet : (denial tokenHash).Quiet where
  allows _ _ := trivial
  learns _ := trivial

theorem denial_wp_cacheGet :
    (denial tokenHash).wp (m.cacheGet tokenHash) (fun hit _ => hit = none) () := by
  by_cases cached : m.cached
  · rw [m.cacheGet_cached cached]
    intro _ _
    refine ⟨trivial, fun hit _ denied => ?_⟩
    rcases hit with e | _ | x
    · exact denial_quiet.wp_log_bind fun _ _ => rfl
    · exact fun _ _ => rfl
    · exact absurd rfl (denied rfl x)
  · rw [Manager.cacheGet, if_neg cached]
    exact fun _ _ => rfl

/-- A result that is a failure. -/
def Fails {α : Type} (r : Except Session.Error α) : Prop := ∀ a, r ≠ .ok a

theorem fails_error {α : Type} {e : Session.Error} : Fails (.error e : Except Session.Error α) :=
  fun _ ok => nomatch ok

theorem denial_wp_verifyStored :
    (denial tokenHash).wp (m.verifyStored token tokenHash).run (fun r _ => Fails r) () := by
  have lookUp : (denial tokenHash).wp
      (Manager.storeFound "look up session" (.byHash tokenHash)).run (fun r _ => Fails r) () := by
    rw [Manager.storeFound_run]
    intro _ _
    refine ⟨trivial, fun found _ denied => ?_⟩
    rcases found with (_ | _) | x
    · exact fun _ _ => fails_error
    · exact fun _ _ => fails_error
    · exact absurd rfl (denied rfl x)
  rw [Manager.verifyStored_run]
  refine Discipline.wp_bind_of (Discipline.wp_of_allows fun _ _ => trivial) fun n _ _ => ?_
  exact Discipline.wp_andThen lookUp (fun x _ fails => absurd rfl (fails x))
    (fun _ _ _ _ _ => fails_error)

theorem denial_wp_verify :
    (denial (Token.digest token)).wp (m.verify token).run (fun r _ => Fails r) () := by
  rw [Manager.verify_run]
  split
  · exact fun _ _ => fails_error
  · refine Discipline.wp_bind_of denial_wp_cacheGet fun hit _ none => ?_
    rw [none]
    exact denial_wp_verifyStored

theorem denial_wp_refresh :
    (denial (Token.digest token)).wp (m.refresh token).run (fun r _ => Fails r) () := by
  rw [Manager.refresh_run]
  exact Discipline.wp_andThen denial_wp_verify (fun x _ fails => absurd rfl (fails x))
    (fun _ _ _ _ _ => fails_error)

/-- The order is to verify or to refresh a token. -/
def Presents (token : String) : Order → Prop
  | .verify u => u = token
  | .refresh u => u = token
  | _ => False

theorem denial_wp_program {o : Order} (h : Presents token o) :
    (denial (Token.digest token)).wp (o.program m) (fun r _ => Fails r) () := by
  cases o with
  | verify u =>
    obtain rfl := (h : u = token)
    exact denial_wp_verify
  | refresh u =>
    obtain rfl := (h : u = token)
    exact denial_wp_refresh
  | _ => exact absurd h id

/-! ## Along a run -/

/-- A step that answers a lookup in the cache or in the storage. -/
theorem denies_of_step {e : Event} (step : Service.Step (service m) s e s')
    (uncached : ¬ s.world.Cached tokenHash) (unstored : ¬ s'.world.Stored tokenHash) (c : Nat) :
    (denial tokenHash).Moves c e () () := by
  cases step with
  | begun o => trivial
  | returned found => trivial
  | @asked d moment o r k found =>
    refine ⟨fun _ => ?_, fun _ => trivial⟩
    show Denies tokenHash r _
    unfold Denies
    split
    next h =>
      rintro rfl x hit
      exact uncached (cached_of_lookUp_ok hit)
    next h =>
      rintro rfl x hit
      exact unstored (stored_of_byHash_ok hit).2
    next => trivial

/-- While a digest is in neither of them, whoever presents its token is refused. -/
theorem fails_of_absent {o : Order} {r : o.Result} (run : Service.Run (service m) s ts s')
    (uncached : ∀ t ∈ ts, ¬ t.before.world.Cached (Token.digest token))
    (unstored : ∀ t ∈ ts, ¬ t.after.world.Stored (Token.digest token))
    (order : [Service.Event.begun c o, .returned c o r].Sublist (ts.map (·.event)))
    (presents : Presents token o) : Fails r := by
  have denied : ∀ us t, us ++ [t] <+: ts →
      (denial (Token.digest token)).Moves c t.event () () := by
    intro us t cut
    have mem : t ∈ ts := cut.subset (by simp)
    exact denies_of_step (run.step_of_mem mem) (uncached t mem) (unstored t mem) c
  obtain ⟨_, _, _, _, fails⟩ := Discipline.vow_of_returned (fun _ r _ => Fails r) (fun _ => ())
    run order (fun _ => denial_wp_program presents) denied
  exact fails

/-- After a digest was dropped from the cache while the storage did not have it, and as long as it
does not come back there, whoever presents its token is refused. -/
theorem fails_of_drop {settings : Cache.Settings} {o : Order} {r : o.Result}
    (run : Service.Run (service m) (fresh settings) (a ++ t :: b) s) (brief : Brief (a ++ t :: b))
    (dropped : Drops (Token.digest token) t.event)
    (gone : ∀ u ∈ t :: b, ¬ u.after.world.Stored (Token.digest token))
    (order : [Service.Event.begun c o, .returned c o r].Sublist (b.map (·.event)))
    (presents : Presents token o) : Fails r := by
  obtain ⟨_, _, second⟩ := run.mid
  refine fails_of_absent second (fun u hu cached => ?_)
    (fun u hu => gone u (List.mem_cons_of_mem t hu)) order presents
  -- If the cache had the digest before the step, it would be exposed.
  obtain ⟨d, e, rfl⟩ := List.append_of_mem hu
  rw [← List.cons_append, ← List.append_assoc] at run brief
  obtain ⟨before, _, _⟩ := run.mid
  refine not_exposed_of_drop dropped (fun w hw => gone w ?_)
    (exposed_of_cached before brief.of_append cached)
  exact List.cons_subset_cons t (List.subset_append_left d _) hw

end SessionKit.Traffic
