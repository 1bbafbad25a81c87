import SessionKit.Proofs.Exposure

/-!
# Removal

Most operations that take a session out of the storage drop its digest from the cache in their next
step. Two do not always: a verification that finds its session expired in the storage, and a
destruction by identifier whose lookup did not show the session that it deletes. A digest that is
left in the cache without its session was removed by one of these.
-/

namespace SessionKit.Traffic

open Manager (Request Answer Order)

variable {m : Manager} {s s' : State} {ts us a b : List Transition} {t u : Transition} {c : Nat}
  {tokenHash token : String} {o : Order}

/-! ## What is due after a removal -/

/-- What a call has to drop from the cache in its next step. -/
inductive Due where
  | nothing
  | digest (tokenHash : String)
  | everything

namespace Due

variable {g : Due}

/-- What is due after a deletion of many sessions. -/
def ofCount (n : Nat) : Due := if 0 < n then everything else nothing

def ofAnswer : (r : Request) → Answer r → Due
  | .store (.deleteByHash k), .ok () => digest k
  | .store (.deleteById _), .ok () => everything
  | .store (.deleteOfUser _), .ok n => ofCount n
  | .store .deleteExpired, .ok n => ofCount n
  | _, _ => nothing

/-- A digest is among what is due. -/
def Covers (tokenHash : String) : Due → Prop
  | nothing => False
  | digest k => k = tokenHash
  | everything => True

theorem covers_ofCount {n : Nat} (h : 0 < n) : (ofCount n).Covers tokenHash := by
  rw [ofCount, if_pos h]
  trivial

theorem pos_of_covers {n : Nat} (covers : (ofCount n).Covers tokenHash) : 0 < n := by
  by_contra none
  rw [ofCount, if_neg none] at covers
  exact covers

/-- To drop from the cache at once whatever was taken out of the storage. -/
def attention : Discipline Request Answer Due :=
  .recording (fun _ => ofAnswer) fun r g => ∀ k, g.Covers k → r.Drops k

theorem wp_log {level : Level} {message : String}
    {fields : List (String × SessionKit.Event.Value)} :
    attention.wp (Manager.log level message fields) (fun _ g => g = nothing) nothing := by
  rintro _ rfl
  exact ⟨fun _ none => none.elim, fun _ _ learnt _ same => same.symm.trans learnt⟩

theorem wp_log_bind {α : Type} {level : Level} {message : String}
    {fields : List (String × SessionKit.Event.Value)} {p : Manager.Action α}
    {post : α → Due → Prop} (h : attention.wp p post nothing) :
    attention.wp ((Manager.log level message fields).bind fun _ => p) post nothing :=
  Discipline.wp_bind_of wp_log fun _ g (same : g = nothing) => same ▸ h

theorem wp_invalidate (cached : m.cached = true) (h : ∀ k, g.Covers k → k = tokenHash) :
    attention.wp (m.invalidate tokenHash) (fun _ g => g = nothing) g := by
  rw [m.invalidate_cached cached]
  rintro _ rfl
  refine ⟨fun k covered => (h k covered).symm, fun x g learnt => ?_⟩
  obtain rfl : g = nothing := learnt
  cases x with
  | ok _ => exact fun _ => Eq.symm
  | error e => exact wp_log

theorem wp_invalidateAll (cached : m.cached = true) :
    attention.wp m.invalidateAll (fun _ g => g = nothing) g := by
  rw [m.invalidateAll_cached cached]
  rintro _ rfl
  refine ⟨fun k _ => trivial, fun x g learnt => ?_⟩
  obtain rfl : g = nothing := learnt
  cases x with
  | ok _ => exact fun _ => Eq.symm
  | error e => exact wp_log

theorem wp_destroy (cached : m.cached = true) :
    attention.wp (m.destroy token).run (fun _ g => g = nothing) nothing := by
  rw [Manager.destroy_run]
  split
  · exact fun _ => Eq.symm
  · rintro _ rfl
    refine ⟨fun _ none => none.elim, fun deleted g learnt => ?_⟩
    refine Discipline.wp_bind_of (wp_invalidate cached fun k covered => ?_)
      fun _ g (none : g = nothing) => ?_
    · rw [(learnt : g = _)] at covered
      rcases deleted with _ | _
      · exact covered.elim
      · exact covered.symm
    · subst none
      rcases deleted with (_ | _) | _
      · exact fun _ => Eq.symm
      · exact fun _ => Eq.symm
      · exact wp_log_bind fun _ => Eq.symm

theorem wp_invalidateAll_if {α : Type} {n : Nat} {p : Manager.Action α} {post : α → Due → Prop}
    (cached : m.cached = true) (h : attention.wp p post nothing) :
    attention.wp ((if 0 < n then m.invalidateAll else .done ()).bind fun _ => p) post
      (ofCount n) := by
  unfold ofCount
  split
  · exact Discipline.wp_bind_of (wp_invalidateAll cached) fun _ g (same : g = nothing) => same ▸ h
  · exact h

theorem wp_store {operation : String} {call : Storage.Call} :
    attention.wp (Manager.store operation call).run (fun r g =>
      (∀ x, r = .ok x → g = ofAnswer (.store call) (.ok x)) ∧
        ∀ e, r = .error e → g = nothing) nothing := by
  have failed : ∀ e, ofAnswer (.store call) (.error e) = nothing := by
    intro e
    cases call <;> rfl
  rw [Manager.store_run]
  rintro _ rfl
  refine ⟨fun _ none => none.elim, fun answer g learnt => ?_⟩
  cases answer with
  | ok x => exact fun _ same => ⟨fun _ ok => by cases ok; exact same.symm.trans learnt, nofun⟩
  | error e => exact fun _ same => ⟨nofun, fun _ _ => same.symm.trans (learnt.trans (failed e))⟩

theorem wp_destroyOfUser (cached : m.cached = true) (userId : String) :
    attention.wp (m.destroyOfUser userId).run (fun _ g => g = nothing) nothing := by
  rw [Manager.destroyOfUser_run]
  refine Discipline.wp_andThen wp_store (fun n g counts => ?_)
    (fun e g counts _ same => same.symm.trans (counts.2 e rfl))
  rw [counts.1 n rfl]
  exact wp_invalidateAll_if cached (wp_log_bind fun _ => Eq.symm)

theorem wp_purge (cached : m.cached = true) :
    attention.wp m.purge.run (fun _ g => g = nothing) nothing := by
  rw [Manager.purge_run]
  refine Discipline.wp_andThen wp_store (fun n g counts => ?_)
    (fun e g counts _ same => same.symm.trans (counts.2 e rfl))
  rw [counts.1 n rfl]
  exact wp_invalidateAll_if cached (wp_log_bind fun _ => Eq.symm)

/-- What an answer took out of the storage is due. -/
theorem covers_of_removal {moment : Moment} {w : World} {r : Request} {x : Session}
    (mem : x ∈ w.storage.sessions) (gone : x ∉ (moment.serve r w).2.storage.sessions) :
    (ofAnswer r (moment.serve r w).1).Covers x.tokenHash := by
  have removed := (mem_serve_of_mem mem).resolve_left gone
  cases r with
  | store call =>
    have hash : ∀ k, call = .deleteByHash k → k = x.tokenHash := by
      rintro k rfl
      rw [serve_store] at gone
      rcases store_cases (t := moment) (w := w) (.deleteByHash k) with ⟨reason, failed⟩ | done
      · rw [failed] at gone
        exact absurd mem gone
      · rw [done] at gone
        by_contra other
        exact gone (Storage.Memory.mem_deleteByHash.mpr ⟨mem, Ne.symm other⟩)
    revert removed
    generalize (moment.serve (.store call) w).1 = answer
    intro removed
    cases call with
    | deleteByHash k =>
      cases answer with
      | ok u => exact hash k rfl
      | error e => exact absurd removed id
    | deleteById k =>
      cases answer with
      | ok u => trivial
      | error e => exact absurd removed id
    | deleteOfUser u =>
      cases answer with
      | ok n => exact covers_ofCount removed
      | error e => exact absurd removed id
    | deleteExpired =>
      cases answer with
      | ok n => exact covers_ofCount removed
      | error e => exact absurd removed id
    | _ => exact absurd removed id
  | _ => exact absurd removed id

end Due

/-! ## Silent removals -/

/-- The last step that took the digest out of the storage is one of a call of this order, and the
next step of this call does not drop it from the cache. -/
def GoneSilently (tokenHash : String) (o : Order) (ts : List Transition) : Prop :=
  ∃ a t b, ts = a ++ t :: b ∧ t.before.world.Stored tokenHash ∧
    (∀ u ∈ t :: b, ¬ u.after.world.Stored tokenHash) ∧
    (∃ u ∈ a, u.event = .begun t.event.call o) ∧
    ∀ u, b.find? (fun u => u.event.call = t.event.call) = some u → ¬ Drops tokenHash u.event

/-- The orders that may remove a digest silently. -/
def Careless (tokenHash : String) : Order → Prop
  | .verify token => Token.digest token = tokenHash
  | .refresh token => Token.digest token = tokenHash
  | .destroyById _ => True
  | _ => False

/-- A digest that the storage had and no longer has was removed by some step. -/
theorem removal_of_not_stored (run : Service.Run (service m) s ts s')
    (stored : s.world.Stored tokenHash) (gone : ¬ s'.world.Stored tokenHash) :
    ∃ a t b, ts = a ++ t :: b ∧ t.before.world.Stored tokenHash ∧
      ∀ u ∈ t :: b, ¬ u.after.world.Stored tokenHash := by
  obtain ⟨a, t, b, rfl, before, after⟩ :=
    run.exists_turn (P := fun w => ¬ w.Stored tokenHash) (not_not_intro stored) gone
  exact ⟨a, t, b, rfl, not_not.mp before, after⟩

/-- A step that removes a digest asks the storage for it. -/
theorem asked_of_removal {e : Event} (step : Service.Step (service m) s e s')
    (stored : s.world.Stored tokenHash) (gone : ¬ s'.world.Stored tokenHash) :
    ∃ c moment r x, e = .asked c moment r x ∧ (Due.ofAnswer r x).Covers tokenHash := by
  obtain ⟨x, mem, hash⟩ := stored
  have absent : x ∉ s'.world.storage.sessions := fun mem => gone ⟨x, mem, hash⟩
  cases step with
  | begun o => exact absurd mem absent
  | returned found => exact absurd mem absent
  | asked found => exact ⟨_, _, _, _, rfl, hash ▸ Due.covers_of_removal mem absent⟩

/-- What is in the cache and not in the storage was removed silently. -/
theorem gone_silently_of_cached {settings : Cache.Settings}
    (run : Service.Run (service m) (fresh settings) ts s) (brief : Brief ts)
    (cached : s.world.Cached tokenHash) (gone : ¬ s.world.Stored tokenHash) :
    ∃ o, GoneSilently tokenHash o ts := by
  -- After the storage last showed the digest nobody has dropped it, and some step has removed it.
  obtain ⟨a, t, b, rfl, stored, quiet⟩ := exposed_of_cached run brief cached
  obtain ⟨first, step, rest⟩ := run.mid
  obtain ⟨p, w, q, rfl, before, after⟩ := removal_of_not_stored rest stored gone
  have whole : a ++ t :: (p ++ w :: q) = (a ++ t :: p) ++ w :: q := by simp
  rw [whole] at run
  obtain ⟨earlier, removal, _⟩ := run.mid
  obtain ⟨c, moment, r, x, asked, _⟩ := asked_of_removal removal before (after w (by simp))
  rw [asked] at removal
  obtain ⟨o, k, flying⟩ := removal.flight_of_asked
  obtain ⟨u, hu, begun⟩ := earlier.begun_of_flight (fresh_idle settings) flying
  refine ⟨o, a ++ t :: p, w, q, whole, before, after, ⟨u, hu, by rw [asked]; exact begun⟩, ?_⟩
  exact fun v hv => quiet v (by simp [List.mem_of_find?_eq_some hv])

theorem GoneSilently.not_stored (h : GoneSilently tokenHash o ts)
    (run : Service.Run (service m) s ts s') : ¬ s'.world.Stored tokenHash := by
  obtain ⟨a, t, b, rfl, _, gone, _⟩ := h
  obtain ⟨u, hu, last⟩ := run.exists_world_eq
  rw [last]
  exact gone u hu

/-- The orders that drop from the cache in their next step whatever they remove. -/
def Attentive : Order → Prop
  | .destroy _ => True
  | .destroyOfUser _ => True
  | .purge => True
  | _ => False

theorem careless_or_attentive {r : Request} {x : Answer r} (asks : o.Asks r)
    (covers : (Due.ofAnswer r x).Covers tokenHash) : Careless tokenHash o ∨ Attentive o := by
  cases r with
  | store call =>
    cases call with
    | deleteByHash k =>
      cases x with
      | ok u =>
        obtain rfl : k = tokenHash := covers
        cases o with
        | verify token => exact .inl (asks : k = _).symm
        | refresh token => exact .inl (asks : k = _).symm
        | destroy token => exact .inr trivial
        | _ => exact absurd asks id
      | error e => exact absurd covers id
    | deleteById k =>
      cases o with
      | destroyById id => exact .inl trivial
      | _ => exact absurd asks id
    | deleteOfUser u =>
      cases o with
      | destroyOfUser userId => exact .inr trivial
      | _ => exact absurd asks id
    | deleteExpired =>
      obtain rfl : o = .purge := asks
      exact .inr trivial
    | _ => exact absurd covers id
  | _ => exact absurd covers id

theorem wp_attentive (cached : m.cached = true) (h : Attentive o) :
    Due.attention.wp (o.program m) (fun _ g => g = .nothing) .nothing := by
  cases o with
  | destroy token => exact Due.wp_destroy cached
  | destroyOfUser userId => exact Due.wp_destroyOfUser cached userId
  | purge => exact Due.wp_purge cached
  | _ => exact absurd h id

/-- After all calls have returned, a silent removal was that of a careless order. -/
theorem GoneSilently.careless (h : GoneSilently tokenHash o ts) (cached : m.cached = true)
    {settings : Cache.Settings} (run : Service.Run (service m) (fresh settings) ts s)
    (idle : s.Idle) : Careless tokenHash o := by
  obtain ⟨a, t, b, rfl, stored, gone, ⟨u, hu, begun⟩, silent⟩ := h
  obtain ⟨before, removal, rest⟩ := run.mid
  obtain ⟨c, moment, r, x, asked, covers⟩ := asked_of_removal removal stored (gone t (by simp))
  rw [asked] at removal begun silent
  obtain ⟨p, q, rfl⟩ := List.append_of_mem hu
  rw [List.append_assoc, List.cons_append] at run
  have asks := Discipline.request_of_begun run begun (o.only_program m)
    (List.mem_append_right q List.mem_cons_self) asked
  -- An attentive order has to drop the digest in the next step of its call.
  refine (careless_or_attentive asks covers).resolve_right fun attentive => ?_
  have heeds : ∀ us w, us ++ [w] <+: q ++ t :: b →
      Due.attention.Heeds (fun _ _ g => g = .nothing) c w.event
        (Discipline.record (fun _ => Due.ofAnswer) c .nothing us) :=
    Discipline.heeds_record run begun (wp_attentive cached attentive)
  obtain ⟨_, _, flying⟩ := removal.flight_of_asked
  have old := (before.numbered (fresh_numbered settings)).lt flying
  cases next : b.find? (fun u => u.event.call = c) with
  | none =>
    -- The call has to return, so it takes another step.
    have stays : ∀ w ∈ b, w.event.call ≠ c := by simpa using List.find?_eq_none.mp next
    obtain ⟨f, flying⟩ := removal.flight_after_asked
    rw [← rest.flights_of_ne stays, idle c] at flying
    cases flying
  | some w =>
    obtain ⟨own, d, e, rfl, others⟩ := List.find?_eq_some_iff_append.mp next
    -- Nothing has changed what is due between the removal and this step.
    have due : Discipline.record (fun _ => Due.ofAnswer) c .nothing (q ++ t :: d) =
        Due.ofAnswer r x := by
      have parts : q ++ t :: d = (q ++ [t]) ++ d := by simp
      rw [parts, Discipline.record_append, Discipline.record_of_ne (by simpa using others),
        Discipline.record_snoc, asked, Discipline.enter, if_pos rfl]
    have heeded := heeds (q ++ t :: d) w ⟨e, by simp⟩
    rw [due] at heeded
    cases kind : w.event with
    | begun c' o' =>
      -- The call has begun long before.
      obtain ⟨between, again, _⟩ := rest.mid
      rw [kind] at again own
      have later := Nat.le_trans removal.begun_le between.begun_le
      rw [← again.eq_begun] at later
      exact absurd (of_decide_eq_true own) (Nat.ne_of_gt (Nat.lt_of_lt_of_le old later))
    | asked c' moment' r' y =>
      rw [kind] at heeded own
      -- It drops the digest, so the removal was not silent.
      have drops := heeded (of_decide_eq_true own) tokenHash covers
      exact silent w next (by rw [kind]; exact drops)
    | returned c' o' y =>
      rw [kind] at heeded own
      -- It does not return with anything due.
      rw [heeded (of_decide_eq_true own)] at covers
      exact covers

/-! ## What is left in the cache -/

/-- Once all calls have returned, the session of a digest in the cache is in the storage too unless
a careless order removed it silently. -/
theorem stored_iff_not_gone_silently {m : Manager} (cached : m.cached = true)
    {settings : Cache.Settings} {tokenHash : String} {ts : List Transition} {s : State}
    (run : Service.Run (service m) (fresh settings) ts s) (brief : Brief ts) (idle : s.Idle)
    (held : s.world.Cached tokenHash) :
    s.world.Stored tokenHash ↔ ∀ o, Careless tokenHash o → ¬ GoneSilently tokenHash o ts := by
  constructor
  · exact fun stored o _ gone => gone.not_stored run stored
  · intro none
    by_contra absent
    obtain ⟨o, gone⟩ := gone_silently_of_cached run brief held absent
    exact none o (gone.careless cached run idle) gone

/-- A digest is destroyed and drawn again. Two calls fill the cache with the new session: the one
that has created it, and before that one a verification that finds it in the storage. -/
theorem stored_iff_not_gone_silently_sample :
    ∃ ts s, Service.Run (service sampleManager) (fresh {}) ts s ∧ Brief ts ∧ s.Idle ∧
      (∃ t ∈ ts, t.before.world.Stored (Token.digest sampleToken) ∧
        ¬ t.after.world.Stored (Token.digest sampleToken)) ∧
      s.world.Cached (Token.digest sampleToken) ∧ s.world.Stored (Token.digest sampleToken) ∧
      ∀ o, Careless (Token.digest sampleToken) o →
        ¬ GoneSilently (Token.digest sampleToken) o ts := by
  have play : ((fresh {}).play? (service sampleManager)
      (wholeCall 0 (.create "u" "i" "a") 7 sampleMoment ++
        (wholeCall 1 (.destroy sampleToken) 3 sampleMoment ++
          (.start (.create "u" "i" "a") :: (List.replicate 5 (.proceed 2 sampleMoment) ++
            (wholeCall 3 (.verify sampleToken) 5 sampleMoment ++
              [.proceed 2 sampleMoment, .proceed 2 sampleMoment, .finish 2])))))).map
        (fun p => decide (p.2.begun = 4 ∧ (∀ c ∈ List.range 4, (p.2.flights c).isNone) ∧
          (∃ t ∈ p.1, t.before.world.Stored (Token.digest sampleToken) ∧
            ¬ t.after.world.Stored (Token.digest sampleToken)) ∧
          p.2.world.Cached (Token.digest sampleToken) ∧
          p.2.world.Stored (Token.digest sampleToken))) = some true := by
    decide +kernel
  obtain ⟨⟨ts, s⟩, played, seen⟩ := Option.map_eq_some_iff.mp play
  obtain ⟨four, none, removal, held, stored⟩ := of_decide_eq_true seen
  have run := Service.Run.of_play? played
  have brief : Brief ts := .of_play? played (by decide)
  have idle : s.Idle := (run.numbered (fresh_numbered {})).idle fun c hc =>
    none c (List.mem_range.mpr (four ▸ hc))
  exact ⟨ts, s, run, brief, idle, removal, held, stored,
    (stored_iff_not_gone_silently rfl run brief idle held).mp stored⟩

/-- A creation waits with its session in the storage and not yet in the cache. At the very time at
which the session ends a verification finds it there, and removes it; nothing keeps the creation
from filling the cache then. The clock is not set back. -/
theorem cached_after_expiry :
    ∃ ts s, Service.Run (service sampleManager) (fresh {}) ts s ∧ (readings ts).Pairwise (· ≤ ·) ∧
      s.Idle ∧ s.world.Cached (Token.digest sampleToken) ∧
      ¬ s.world.Stored (Token.digest sampleToken) := by
  let late : Moment := { sampleMoment with now := sampleCreated.session.expiresAt }
  have play : ((fresh {}).play? (service sampleManager)
      (.start (.create "u" "i" "a") :: (List.replicate 5 (.proceed 0 sampleMoment) ++
        (wholeCall 1 (.verify sampleToken) 6 late ++
          [.proceed 0 late, .proceed 0 late, .finish 0])))).map (fun p =>
        (p.2.begun, (p.2.flights 0).isNone, (p.2.flights 1).isNone,
          decide ((readings p.1).Pairwise (· ≤ ·)),
          decide (p.2.world.Cached (Token.digest sampleToken)),
          decide (p.2.world.Stored (Token.digest sampleToken)))) =
      some (2, true, true, true, true, false) := by
    decide +kernel
  obtain ⟨⟨ts, s⟩, played, seen⟩ := Option.map_eq_some_iff.mp play
  simp only [Prod.mk.injEq, decide_eq_true_eq, decide_eq_false_iff_not] at seen
  obtain ⟨two, first, second, forward, held, absent⟩ := seen
  have run := Service.Run.of_play? played
  have idle : s.Idle := (run.numbered (fresh_numbered {})).idle fun c hc => by
    obtain rfl | rfl : c = 0 ∨ c = 1 := by omega
    · exact first
    · exact second
  exact ⟨ts, s, run, forward, idle, held, absent⟩

end SessionKit.Traffic
