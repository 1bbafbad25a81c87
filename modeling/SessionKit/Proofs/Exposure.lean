import SessionKit.Proofs.Rules
import SessionKit.Proofs.Traffic

/-!
# Exposure

A digest is exposed while the storage may have shown it to somebody who has not been told since that
it may be gone: it was in the storage at some time after it was last dropped from the cache. What
is in the cache is exposed, because a call fills the cache only with what it saw in the storage
after it read the generation, and the generation changes with every drop. It comes back to the same
value only after as many drops as a word has values, which no brief call is there to see.
-/

namespace SessionKit.Traffic

open Manager (Request Answer Order)

variable {m : Manager} {s s' : State} {ts : List Transition} {t : Transition}
  {tokenHash : String}

/-- The storage had the digest at the end of some step, and no later step dropped it. -/
def Exposed (tokenHash : String) (ts : List Transition) : Prop :=
  ∃ a t b, ts = a ++ t :: b ∧ t.after.world.Stored tokenHash ∧
    ∀ u ∈ b, ¬ Drops tokenHash u.event

theorem exposed_of_stored (h : t.after.world.Stored tokenHash) :
    Exposed tokenHash (ts ++ [t]) :=
  ⟨ts, t, [], rfl, h, by simp⟩

theorem Exposed.snoc (h : Exposed tokenHash ts) (kept : ¬ Drops tokenHash t.event) :
    Exposed tokenHash (ts ++ [t]) := by
  obtain ⟨a, u, b, rfl, stored, quiet⟩ := h
  refine ⟨a, u, b ++ [t], by simp, stored, fun w hw => ?_⟩
  rcases List.mem_append.mp hw with hw | hw
  · exact quiet w hw
  · rw [List.mem_singleton.mp hw]
    exact kept

/-! ## What a call knows -/

/-- What the generation was when a call began, how often it was bumped since, and what is
exposed. -/
structure Outlook where
  first : UInt64
  bumps : Nat
  exposed : String → Prop

namespace Outlook

variable {g g' : Outlook} {n : UInt64}

/-- The generation after some bumps. -/
def reached (g : Outlook) (k : Nat) : UInt64 := g.first + UInt64.ofNat k

/-- What is exposed stays exposed as long as the generation is not bumped. -/
structure Later (g g' : Outlook) : Prop where
  first : g'.first = g.first
  bumps : g.bumps ≤ g'.bumps
  exposed : g.bumps = g'.bumps → ∀ k, g.exposed k → g'.exposed k

/-- What an answer says about the time when it was given. -/
def Shows : (r : Request) → Answer r → Outlook → Prop
  | .generation, n, g => n = g.reached g.bumps
  | .store (.byHash k), .ok _, g => g.exposed k
  | .store (.create s), .ok (), g => g.exposed s.tokenHash
  | _, _, _ => True

theorem Later.trans {a b c : Outlook} (h : Later a b) (h' : Later b c) : Later a c where
  first := h'.first.trans h.first
  bumps := Nat.le_trans h.bumps h'.bumps
  exposed same k hk := by
    have early : a.bumps = b.bumps := Nat.le_antisymm h.bumps (same ▸ h'.bumps)
    exact h'.exposed (early ▸ same) k (h.exposed early k hk)

/-- To fill the cache only with what is exposed, as far as a word can tell. -/
def caution : Discipline Request Answer Outlook where
  later := Later
  allows
    | .fill n k _, g => g.bumps < UInt64.size → n = g.reached g.bumps → g.exposed k
    | _, _ => True
  learns r x g g' := Later g g' ∧ Shows r x g'
  later_refl _ := ⟨rfl, Nat.le_refl _, fun _ _ hk => hk⟩
  later_trans := Later.trans

theorem caution_quiet : caution.Quiet where
  allows _ _ := trivial
  learns learnt := learnt.1

/-- The request does not fill the cache. -/
def Spares : Request → Prop
  | .fill _ _ _ => False
  | _ => True

theorem allows_of_spares (r : Request) (g : Outlook) (h : Spares r) : caution.allows r g := by
  cases r with
  | fill _ _ _ => exact absurd h id
  | _ => trivial

/-- The generation was this one at some time since the call began. -/
def Read (n : UInt64) (g : Outlook) : Prop := ∃ k ≤ g.bumps, n = g.reached k

/-- Likewise, and the digest is exposed if the generation has not been bumped since that time. -/
def Ready (n : UInt64) (tokenHash : String) (g : Outlook) : Prop :=
  ∃ k ≤ g.bumps, n = g.reached k ∧ (k = g.bumps → g.exposed tokenHash)

theorem reached_of_later (later : Later g g') (k : Nat) : g'.reached k = g.reached k := by
  rw [reached, reached, later.first]

theorem Read.later (h : Read n g) (later : Later g g') : Read n g' := by
  obtain ⟨k, le, read⟩ := h
  exact ⟨k, Nat.le_trans le later.bumps, read.trans (reached_of_later later k).symm⟩

theorem Read.ready (h : Read n g) (exposed : g.exposed tokenHash) : Ready n tokenHash g := by
  obtain ⟨k, le, read⟩ := h
  exact ⟨k, le, read, fun _ => exposed⟩

theorem Ready.later (h : Ready n tokenHash g) (later : Later g g') : Ready n tokenHash g' := by
  obtain ⟨k, le, read, exposed⟩ := h
  refine ⟨k, Nat.le_trans le later.bumps, read.trans (reached_of_later later k).symm,
    fun same => ?_⟩
  have early : k = g.bumps := Nat.le_antisymm le (same ▸ later.bumps)
  exact later.exposed (early ▸ same) _ (exposed early)

/-- Two counts that a word cannot tell apart are the same if both are below its size. -/
theorem eq_of_reached_eq {j k : Nat} (hj : j < UInt64.size) (hk : k < UInt64.size)
    (same : g.reached j = g.reached k) : j = k := by
  have words : UInt64.ofNat j = UInt64.ofNat k := (UInt64.add_right_inj _).mp same
  have counts := congrArg UInt64.toNat words
  rwa [UInt64.toNat_ofNat_of_lt' hj, UInt64.toNat_ofNat_of_lt' hk] at counts

/-- A fill that is ready is one of something exposed, if the call is brief. -/
theorem Ready.exposed (h : Ready n tokenHash g) (brief : g.bumps < UInt64.size)
    (current : n = g.reached g.bumps) : g.exposed tokenHash := by
  obtain ⟨k, le, read, exposed⟩ := h
  exact exposed (eq_of_reached_eq (Nat.lt_of_le_of_lt le brief) brief (read.symm.trans current))

/-! ## What the operations do -/

theorem wp_spares {α : Type} {p : Manager.Action α} (h : p.Only Spares) :
    caution.wp p (fun _ _ => True) g :=
  Discipline.wp_of_only allows_of_spares h

theorem wp_currentGeneration :
    caution.wp m.currentGeneration (fun n g => m.cached = true → Read n g) g := by
  unfold Manager.currentGeneration
  split
  · intro g₁ _
    refine ⟨trivial, fun n g₂ learnt g₃ later _ => ?_⟩
    have read : Read n g₂ := ⟨g₂.bumps, Nat.le_refl _, learnt.2⟩
    exact read.later later
  next uncached => exact fun _ _ cached => absurd cached uncached

theorem wp_cacheFill {x : Session} (h : m.cached = true → Ready n tokenHash g) :
    caution.wp (m.cacheFill n tokenHash x) (fun _ _ => True) g := by
  by_cases cached : m.cached
  · rw [m.cacheFill_cached cached]
    intro g₁ later
    refine ⟨((h cached).later later).exposed, fun filled g₂ _ => ?_⟩
    cases filled with
    | done => exact fun _ _ => trivial
    | outdated => exact wp_spares (Manager.only_log fun _ => trivial)
    | failed e => exact wp_spares (Manager.only_log fun _ => trivial)
  · rw [Manager.cacheFill, if_neg cached]
    exact fun _ _ => trivial

theorem wp_storeCreate {x : Session} (h : m.cached = true → Read n g) :
    caution.wp (Manager.store "create session" (.create x)).run
      (fun r g => r = .ok () → m.cached = true → Ready n x.tokenHash g) g := by
  rw [Manager.store_run]
  intro g₁ later
  refine ⟨trivial, fun answer g₂ learnt => ?_⟩
  rcases answer with _ | _
  · exact fun _ _ failed => nomatch failed
  · -- The session is there when the answer comes, and the generation was read before that.
    have ready (cached : m.cached = true) : Ready n x.tokenHash g₂ :=
      (((h cached).later later).later learnt.1).ready learnt.2
    exact fun g₃ later _ cached => (ready cached).later later

theorem wp_storeByHash (h : m.cached = true → Read n g) :
    caution.wp (Manager.storeFound "look up session" (.byHash tokenHash)).run
      (fun r g => ∀ x, r = .ok x → m.cached = true → Ready n tokenHash g) g := by
  rw [Manager.storeFound_run]
  intro g₁ later
  refine ⟨trivial, fun answer g₂ learnt => ?_⟩
  rcases answer with (_ | _) | x
  · exact fun _ _ _ failed => nomatch failed
  · exact fun _ _ _ failed => nomatch failed
  · -- Likewise for a session that was found.
    have ready (cached : m.cached = true) : Ready n tokenHash g₂ :=
      (((h cached).later later).later learnt.1).ready learnt.2
    exact fun g₃ later _ _ cached => (ready cached).later later

theorem wp_create (userId ipAddress userAgent : String) :
    caution.wp (m.create userId ipAddress userAgent).run (fun _ _ => True) g := by
  rw [Manager.create_run]
  refine Discipline.wp_andThen (wp_spares (m.only_drawCredentials (fun _ => trivial)
    fun _ _ => trivial)) (fun x g _ => ?_)
    (fun _ _ _ _ _ => trivial)
  intro g₁ _
  refine ⟨trivial, fun (now : Timestamp) g₂ _ => ?_⟩
  cases h : now.add? m.settings.maxAge with
  | none =>
    rw [Manager.createAt_none m h]
    exact fun _ _ => trivial
  | some expiresAt =>
    rw [Manager.createAt_some m h]
    refine Discipline.wp_bind_of wp_currentGeneration fun n g read => ?_
    refine Discipline.wp_andThen (wp_storeCreate read) (fun _ g ready => ?_)
      (fun _ _ _ _ _ => trivial)
    refine Discipline.wp_bind_of (wp_cacheFill (ready rfl)) fun _ g _ => ?_
    exact caution_quiet.wp_log_bind fun _ _ => trivial

theorem wp_verifyStored (token : String) :
    caution.wp (m.verifyStored token tokenHash).run (fun _ _ => True) g := by
  rw [Manager.verifyStored_run]
  refine Discipline.wp_bind_of wp_currentGeneration fun n g read => ?_
  refine Discipline.wp_andThen (wp_storeByHash read) (fun x g ready => ?_)
    (fun _ _ _ _ _ => trivial)
  split
  · exact caution_quiet.wp_log_bind fun _ _ => trivial
  · intro g₁ later
    refine ⟨trivial, fun (now : Timestamp) g₂ learnt => ?_⟩
    show caution.wp (ite (x.isExpiredAt now = true) _ _) _ _
    split
    · refine caution_quiet.wp_log_bind (wp_spares ?_)
      exact (Manager.only_removeExpired trivial).bind fun _ => trivial
    · have still (cached : m.cached = true) : Ready n tokenHash g₂ :=
        ((ready x rfl cached).later later).later learnt.1
      exact Discipline.wp_bind_of (wp_cacheFill still) fun _ _ _ _ _ => trivial

theorem wp_verify (token : String) :
    caution.wp (m.verify token).run (fun _ _ => True) g := by
  rw [Manager.verify_run]
  split
  · exact fun _ _ => trivial
  · have lookUp : caution.wp (m.cacheGet (Token.digest token)) (fun _ _ => True) g :=
      wp_spares (m.only_cacheGet (fun _ => trivial) trivial)
    refine Discipline.wp_bind_of lookUp fun hit g _ => ?_
    cases hit with
    | none => exact wp_verifyStored token
    | some x => exact wp_spares (m.only_verifyCached (fun _ => trivial) trivial trivial trivial)

theorem wp_refresh (token : String) :
    caution.wp (m.refresh token).run (fun _ _ => True) g := by
  rw [Manager.refresh_run]
  refine Discipline.wp_andThen (wp_verify token) (fun old g _ => ?_) (fun _ _ _ _ _ => trivial)
  refine Discipline.wp_andThen (wp_spares (m.only_destroy (fun _ => trivial) trivial trivial))
    (fun _ g _ => ?_) (fun _ _ _ _ _ => trivial)
  refine Discipline.wp_andThen (wp_create _ _ _) (fun created g _ => ?_)
    (fun _ _ _ _ _ => trivial)
  exact caution_quiet.wp_log_bind fun _ _ => trivial

theorem wp_program (o : Order) : caution.wp (o.program m) (fun _ _ => True) g := by
  have spares (never : ∀ n k x, ¬ o.Asks (.fill n k x)) :
      caution.wp (o.program m) (fun _ _ => True) g := by
    refine wp_spares ((o.only_program m).mono fun r asked => ?_)
    cases r with
    | fill n k x => exact never n k x asked
    | _ => trivial
  cases o with
  | create userId ipAddress userAgent => exact wp_create userId ipAddress userAgent
  | verify token => exact wp_verify token
  | refresh token => exact wp_refresh token
  | _ => exact spares fun _ _ _ => id

/-! ## Along a run -/

/-- The outlook of a call some steps after it began. -/
def after (w : World) (before ts : List Transition) : Outlook where
  first := w.generation
  bumps := ts.countP fun t => Traffic.bumps t.event
  exposed k := Exposed k (before ++ ts)

theorem moves {before : List Transition} {s₀ : State} {e : Event}
    (run : Service.Run (service m) s₀ ts s) (step : Service.Step (service m) s e s') (c : Nat) :
    caution.Moves c e (after s₀.world before ts)
      (after s₀.world before (ts ++ [⟨s, e, s'⟩])) := by
  have later : Later (after s₀.world before ts) (after s₀.world before (ts ++ [⟨s, e, s'⟩])) := by
    refine ⟨rfl, List.Sublist.countP_le (List.sublist_append_left _ _), fun same k hk => ?_⟩
    show Exposed k (before ++ (ts ++ [⟨s, e, s'⟩]))
    rw [← List.append_assoc]
    refine Exposed.snoc hk fun dropped => ?_
    -- A drop would have bumped the generation.
    simp [after, dropped.bumps] at same
  cases step with
  | begun o => exact later
  | returned found => exact later
  | @asked d moment o r k found =>
    refine ⟨fun _ => ⟨later, ?_⟩, fun _ => later⟩
    -- An answer that shows a digest is given by a storage that has it then.
    unfold Shows
    split
    next =>
      refine (generation_run run).trans ?_
      simp [after, reached, Traffic.bumps, Request.bumps]
    next k x shown =>
      rw [after, ← List.append_assoc]
      exact exposed_of_stored (stored_of_byHash_ok shown).2
    next x shown =>
      rw [after, ← List.append_assoc]
      exact exposed_of_stored (stored_of_create_ok shown)
    next => trivial

/-- A call keeps to its caution all along a run. -/
theorem moves_run {before : List Transition} {s₀ : State}
    (run : Service.Run (service m) s₀ ts s) (c : Nat) :
    ∀ us t, us ++ [t] <+: ts → caution.Moves c t.event (after s₀.world before us)
      (after s₀.world before (us ++ [t])) := by
  intro us t cut
  obtain ⟨first, step⟩ := run.step_of_prefix cut
  exact moves first step c

/-- The beginning of a call does not bump the generation. -/
theorem bumps_after_begun {w : World} {before : List Transition} {c : Nat} {o : Order}
    (begun : t.event = .begun c o) :
    (after w before (t :: ts)).bumps = ts.countP fun u => Traffic.bumps u.event := by
  simp [after, begun, Traffic.bumps]

end Outlook

/-- What a call fills the cache with is exposed if the generation is the one that it has read. -/
theorem exposed_of_fill {settings : Cache.Settings} {c : Nat} {moment : Moment} {x : Session}
    {answer : Manager.Filled} (run : Service.Run (service m) (fresh settings) (ts ++ [t]) s)
    (brief : Brief (ts ++ [t]))
    (asked : t.event = .asked c moment (.fill t.before.world.generation tokenHash x) answer) :
    Exposed tokenHash ts := by
  obtain ⟨first, step, _⟩ := run.mid
  rw [asked] at step
  obtain ⟨o, k, flying⟩ := step.flight_of_asked
  obtain ⟨u, hu, begun⟩ := first.begun_of_flight (fresh_idle settings) flying
  obtain ⟨a, b, rfl⟩ := List.append_of_mem hu
  rw [List.append_assoc, List.cons_append] at run brief
  have few : b.countP (fun v => bumps v.event) < UInt64.size :=
    brief a u b t [] _ rfl (by rw [asked]; exact begun)
  -- The run is seen from the beginning of the call, which keeps to its caution from there on.
  have call : Service.Run (service m) u.before ([] ++ u :: (b ++ [t])) s := run.tail
  have heeds := Discipline.heeds_of_begun (fun _ _ _ => True) (Outlook.after u.before.world a) call
    begun (Outlook.wp_program _) (Outlook.moves_run call c) b t (List.prefix_refl _)
  rw [asked] at heeds
  exact heeds rfl (Outlook.bumps_after_begun begun ▸ few) (generation_run first.tail)

/-- What is in the cache is exposed. -/
theorem exposed_of_cached {settings : Cache.Settings}
    (run : Service.Run (service m) (fresh settings) ts s) (brief : Brief ts)
    (h : s.world.Cached tokenHash) : Exposed tokenHash ts := by
  induction run with
  | start => exact absurd h (Cache.Memory.not_holds_new settings)
  | @snoc ts s e s' run step ih =>
    rcases cached_of_cached_step step h with ⟨before, kept⟩ | ⟨c, moment, x, answer, rfl⟩
    · exact (ih brief.of_append before).snoc kept
    · -- The entry is new: a call has filled the cache with it.
      exact (exposed_of_fill (run.snoc step) brief rfl).snoc id

/-! ## Without a cache -/

/-- A manager without a cache fills nothing in. -/
theorem only_spares_of_uncached (uncached : m.cached = false) (o : Order) :
    (o.program m).Only Outlook.Spares := by
  have never {Q : Prop} (cached : m.cached = true) : Q :=
    absurd (cached.symm.trans uncached) (by decide)
  have logs (e : SessionKit.Event) : Outlook.Spares (.log e) := trivial
  have verified (token : String) : (m.verify token).run.Only Outlook.Spares :=
    m.only_verify logs trivial trivial trivial trivial trivial trivial never
  have created (userId ipAddress userAgent : String) :
      (m.create userId ipAddress userAgent).run.Only Outlook.Spares :=
    m.only_create logs (fun _ => trivial) (fun _ _ => trivial) trivial trivial
      (fun _ _ => trivial) never
  have others (none : ∀ n k x, ¬ o.Asks (.fill n k x)) : (o.program m).Only Outlook.Spares := by
    refine (o.only_program m).mono fun r asks => ?_
    cases r with
    | fill n k x => exact none n k x asks
    | _ => trivial
  cases o with
  | create userId ipAddress userAgent => exact created _ _ _
  | verify token => exact verified token
  | refresh token =>
    show Program.Only _ (m.refresh token).run
    rw [Manager.refresh_run]
    refine Manager.only_andThen (verified token) fun old => ?_
    refine Manager.only_andThen (m.only_destroy logs trivial trivial) fun _ => ?_
    refine Manager.only_andThen (created _ _ _) fun _ => ?_
    exact (Manager.only_log logs).bind fun _ => trivial
  | _ => exact others fun _ _ _ => id

theorem not_cached_of_uncached {settings : Cache.Settings} (uncached : m.cached = false)
    (run : Service.Run (service m) (fresh settings) ts s) : ¬ s.world.Cached tokenHash := by
  intro cached
  obtain ⟨a, t, b, rfl, off, on⟩ := run.exists_turn (P := fun w => w.Cached tokenHash)
    (Cache.Memory.not_holds_new settings) cached
  obtain ⟨before, step, _⟩ := run.mid
  rcases cached_of_cached_step step (on t (by simp)) with ⟨held, _⟩ | ⟨c, moment, x, answer, asked⟩
  · exact off held
  · rw [asked] at step
    obtain ⟨o, k, flying⟩ := step.flight_of_asked
    obtain ⟨u, hu, begun⟩ := before.begun_of_flight (fresh_idle settings) flying
    obtain ⟨p, q, rfl⟩ := List.append_of_mem hu
    rw [List.append_assoc, List.cons_append] at run
    exact Discipline.request_of_begun run begun (only_spares_of_uncached uncached o)
      (List.mem_append_right q List.mem_cons_self) asked

end SessionKit.Traffic
