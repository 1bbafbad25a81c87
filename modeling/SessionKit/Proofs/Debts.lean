import SessionKit.Proofs.Conduct
import SessionKit.Proofs.Traffic

/-!
# Debts to the cache

What a refresh has read into the cache it drops from there before it returns, and so does whoever
takes a session out of the storage. There are two things that nobody drops: the entry of the session
that the call itself has put into the storage, and a session that has expired, if the cache was seen
without it.
-/

namespace SessionKit.Manager

open Discipline History

variable {α β : Type} {m : Manager} {h more : History} {e : Exchange Request Answer}
  {r : Request} {token tokenHash : String}

/-! ## What is owed -/

namespace History

/-- The cache was asked for a digest, and did not have it. -/
def Missed (h : History) (tokenHash : String) : Prop :=
  ∃ x, h.Told (.lookUp tokenHash) x ∧ ∀ s, x ≠ .ok (some s)

/-- A session was put into the storage under a digest. -/
def Wrote (h : History) (tokenHash : String) : Prop :=
  ∃ s, h.Told (.store (.create s)) (.ok ()) ∧ s.tokenHash = tokenHash

theorem missed_last {x : Except Cache.Error (Option Session)} (none : ∀ s, x ≠ .ok (some s)) :
    Missed (h ++ [⟨.lookUp tokenHash, x⟩]) tokenHash := ⟨x, told_last, none⟩

theorem Missed.mono {h' : History} (missed : h.Missed tokenHash) (grown : h <+: h') :
    h'.Missed tokenHash := by
  obtain ⟨x, told, none⟩ := missed
  exact ⟨x, told.mono grown, none⟩

end History

/-- After this exchange a digest is to be dropped from the cache. -/
def Indebts (tokenHash : String) (h : History) : Exchange Request Answer → Prop
  | ⟨.fill _ k _, _⟩ => k = tokenHash ∧ ¬ h.Wrote tokenHash
  | ⟨.store (.deleteByHash k), .ok ()⟩ => k = tokenHash ∧ ¬ h.Missed tokenHash
  | ⟨.store (.deleteOfUser _), .ok n⟩ => 0 < n
  | _ => False

/-- A digest is still to be dropped. -/
def Owed (tokenHash : String) (h : History) : Prop :=
  Since (Indebts tokenHash) (fun e => ¬ e.1.Drops tokenHash) h

/-- The request leaves no debt. -/
def Free : Request → Prop
  | .fill _ _ _ | .store (.deleteByHash _) | .store (.deleteOfUser _) => False
  | _ => True

theorem not_indebts_of_free (free : Free e.1) : ¬ Indebts tokenHash h e := by
  obtain ⟨r, x⟩ := e
  cases r with
  | fill _ _ _ => exact absurd free id
  | store call =>
    cases call with
    | deleteByHash _ => exact absurd free id
    | deleteOfUser _ => exact absurd free id
    | _ => exact id
  | _ => exact id

theorem free_of_drops (drops : r.Drops tokenHash) : Free r := by
  cases r with
  | invalidate k => trivial
  | invalidateAll => trivial
  | _ => exact absurd drops id

theorem not_owed_nil : ¬ Owed tokenHash [] := not_since_nil

theorem not_owed_of_drops (drops : e.1.Drops tokenHash) : ¬ Owed tokenHash (h ++ [e]) := by
  rw [Owed, since_snoc]
  rintro (indebts | ⟨_, kept⟩)
  · exact not_indebts_of_free (free_of_drops drops) indebts
  · exact kept drops

theorem not_owed_snoc (clear : ¬ Owed tokenHash h) (none : ¬ Indebts tokenHash h e) :
    ¬ Owed tokenHash (h ++ [e]) := by
  rw [Owed, since_snoc]
  rintro (indebts | ⟨owed, _⟩)
  · exact none indebts
  · exact clear owed

theorem not_owed_append (clear : ¬ Owed tokenHash h) (free : ∀ e ∈ more, Free e.1) :
    ¬ Owed tokenHash (h ++ more) := by
  induction more using List.reverseRecOn with
  | nil => simpa using clear
  | append_singleton more e ih =>
    rw [← List.append_assoc]
    apply not_owed_snoc
    · exact ih fun e' he => free e' (by simp [he])
    · exact not_indebts_of_free (free e (by simp))

/-! ## Pieces -/

/-- To remember what was told, and to be free in what to ask. -/
abbrev freely : Discipline Request Answer History := remembering fun _ _ => True

theorem wp_free {p : Action α} {f : α → Action β} {post : β → History → Prop} (only : p.Only Free)
    (next : ∀ a more, (∀ e ∈ more, Free e.1) → freely.wp (f a) post (h ++ more)) :
    freely.wp (p.bind f) post h :=
  remembering_past (fun _ _ _ _ => trivial) only next

/-- Free requests keep an account clear. -/
theorem wp_clear {p : Action α} (only : p.Only Free) (clear : ¬ Owed tokenHash h) :
    freely.wp p (fun _ h => ¬ Owed tokenHash h) h := by
  rw [← Program.bind_done p]
  refine wp_free only fun a more free => ?_
  exact remembering_done.mpr (not_owed_append clear free)

theorem wp_invalidate (cached : m.cached = true) {f : Unit → Action β}
    {post : β → History → Prop}
    (next : ∀ h, ¬ Owed tokenHash h → freely.wp (f ()) post h) :
    freely.wp ((m.invalidate tokenHash).bind f) post h := by
  rw [m.invalidate_cached cached]
  refine remembering_ask.mpr ⟨trivial, fun x => ?_⟩
  have clear : ¬ Owed tokenHash (h ++ [⟨.invalidate tokenHash, x⟩]) := not_owed_of_drops rfl
  cases x with
  | ok u => exact next _ clear
  | error cause =>
    refine wp_free (only_log fun _ => trivial) fun _ more free => ?_
    exact next _ (not_owed_append clear free)

theorem wp_invalidateAll (cached : m.cached = true) {f : Unit → Action β}
    {post : β → History → Prop}
    (next : ∀ h, ¬ Owed tokenHash h → freely.wp (f ()) post h) :
    freely.wp (m.invalidateAll.bind f) post h := by
  rw [m.invalidateAll_cached cached]
  refine remembering_ask.mpr ⟨trivial, fun x => ?_⟩
  have clear : ¬ Owed tokenHash (h ++ [⟨.invalidateAll, x⟩]) := not_owed_of_drops trivial
  cases x with
  | ok u => exact next _ clear
  | error cause =>
    refine wp_free (only_log fun _ => trivial) fun _ more free => ?_
    exact next _ (not_owed_append clear free)

/-- A session that has expired may be removed for good when the cache does not have it. -/
theorem wp_removeExpired_of_missed {f : Session.Error → Action β} {post : β → History → Prop}
    (missed : h.Missed tokenHash) (clear : ¬ Owed tokenHash h)
    (next : ∀ fault h, ¬ Owed tokenHash h → freely.wp (f fault) post h) :
    freely.wp ((removeExpired tokenHash).bind f) post h := by
  rw [removeExpired_run]
  refine remembering_ask.mpr ⟨trivial, fun x => ?_⟩
  have still : ¬ Owed tokenHash (h ++ [⟨.store (.deleteByHash tokenHash), x⟩]) := by
    apply not_owed_snoc clear
    intro indebts
    rcases x with _ | _
    · exact indebts
    · exact indebts.2 missed
  rcases x with (_ | _) | _
  · exact next _ _ still
  · exact next _ _ still
  · exact next _ _ still

/-- What the call has put into the storage itself it may leave in the cache. -/
theorem wp_cacheFill_of_wrote (cached : m.cached = true) {n : UInt64} {k : String}
    {s : Session} {f : Unit → Action β} {post : β → History → Prop} (wrote : h.Wrote k)
    (clear : ¬ Owed tokenHash h)
    (next : ∀ h, ¬ Owed tokenHash h → freely.wp (f ()) post h) :
    freely.wp ((m.cacheFill n k s).bind f) post h := by
  rw [m.cacheFill_cached cached]
  refine remembering_ask.mpr ⟨trivial, fun filled => ?_⟩
  have still : ¬ Owed tokenHash (h ++ [⟨.fill n k s, filled⟩]) := by
    apply not_owed_snoc clear
    rintro ⟨rfl, unwritten⟩
    exact unwritten wrote
  have logged {level : Level} {message : String} {fields : List (String × SessionKit.Event.Value)} :
      freely.wp ((log level message fields).bind f) post (h ++ [⟨.fill n k s, filled⟩]) := by
    refine wp_free (only_log fun _ => trivial) fun _ more free => ?_
    exact next _ (not_owed_append still free)
  cases filled with
  | done => exact next _ still
  | outdated => exact logged
  | failed cause => exact logged

/-! ## Operations -/

/-- A verification that fails leaves no debt. -/
def Cleared (token : String) : Except Session.Error Session → History → Prop
  | .ok _, _ => ¬ token.isEmpty
  | .error _, h => ¬ Owed (Token.digest token) h

theorem cleared_verifyCached (cached : m.cached = true) {s : Session} (nonempty : ¬ token.isEmpty) :
    freely.wp (m.verifyCached (Token.digest token) s).run (Cleared token) h := by
  rw [verifyCached_run]
  refine remembering_ask.mpr ⟨trivial, fun (now : Timestamp) => ?_⟩
  show Discipline.wp _ (ite (s.isExpiredAt now = true) _ _) _ _
  split
  · refine wp_free (only_log fun _ => trivial) fun _ more _ => ?_
    rw [removeExpired_run]
    refine remembering_ask.mpr ⟨trivial, fun x => ?_⟩
    -- The digest is dropped whatever came of the deletion.
    rcases x with (_ | _) | _
    · exact wp_invalidate cached fun _ clear => remembering_done.mpr clear
    · exact wp_invalidate cached fun _ clear => remembering_done.mpr clear
    · exact wp_invalidate cached fun _ clear => remembering_done.mpr clear
  · exact remembering_done.mpr nonempty

theorem cleared_verifyStored (nonempty : ¬ token.isEmpty) (missed : h.Missed (Token.digest token))
    (clear : ¬ Owed (Token.digest token) h) :
    freely.wp (m.verifyStored token (Token.digest token)).run (Cleared token) h := by
  rw [verifyStored_run]
  refine wp_free (m.only_currentGeneration trivial) fun n more free => ?_
  have found : freely.wp (storeFound "look up session" (.byHash (Token.digest token))).run
      (fun _ h => ¬ Owed (Token.digest token) h ∧ h.Missed (Token.digest token)) (h ++ more) := by
    refine wp_mono ?_ (remembering_keeping (wp_clear (only_storeFound trivial)
      (not_owed_append clear free)) (only_storeFound (P := Free) trivial))
    rintro _ _ ⟨clear, more', rfl, _⟩
    exact ⟨clear, (missed.mono (List.prefix_append _ _)).mono (List.prefix_append _ _)⟩
  refine wp_andThen found ?_ fun _ _ unfound => remembering_done.mpr unfound.1
  intro s h ⟨clear, missed⟩
  split
  · refine wp_free (only_log fun _ => trivial) fun _ more free => ?_
    exact remembering_done.mpr (not_owed_append clear free)
  · refine remembering_ask.mpr ⟨trivial, fun (now : Timestamp) => ?_⟩
    show Discipline.wp _ (ite (s.isExpiredAt now = true) _ _) _ _
    split
    · have clear : ¬ Owed (Token.digest token) (h ++ [⟨.now, now⟩]) := not_owed_snoc clear id
      refine wp_free (only_log fun _ => trivial) fun _ more free => ?_
      apply wp_removeExpired_of_missed
      · exact (missed.mono (List.prefix_append _ _)).mono (List.prefix_append _ _)
      · exact not_owed_append clear free
      · exact fun _ _ clear => remembering_done.mpr clear
    · have fills : freely.wp (m.cacheFill n (Token.digest token) s) (fun _ _ => True)
          (h ++ [⟨.now, now⟩]) := wp_of_allows fun _ _ => trivial
      exact wp_bind_of fills fun _ _ _ => remembering_done.mpr nonempty

theorem cleared_verify (cached : m.cached = true) (token : String) :
    freely.wp (m.verify token).run (Cleared token) [] := by
  rw [verify_run]
  split
  · exact remembering_done.mpr not_owed_nil
  next nonempty =>
    rw [m.cacheGet_cached cached]
    refine remembering_ask.mpr ⟨trivial, fun x => ?_⟩
    have clear : ¬ Owed (Token.digest token) ([] ++ [⟨.lookUp (Token.digest token), x⟩]) :=
      not_owed_append not_owed_nil (by simp [Free])
    rcases x with cause | _ | s
    · have missed : Missed ([] ++ [⟨.lookUp (Token.digest token), .error cause⟩])
          (Token.digest token) := missed_last (by simp)
      show freely.wp (((log _ _ _).bind _).bind _) _ _
      rw [Program.bind_assoc]
      refine wp_free (only_log fun _ => trivial) fun _ more free => ?_
      exact cleared_verifyStored nonempty (missed.mono (List.prefix_append _ _))
        (not_owed_append clear free)
    · exact cleared_verifyStored nonempty (missed_last (by simp)) clear
    · exact cleared_verifyCached cached nonempty

/-- A destruction drops its digest in any case. -/
theorem cleared_destroy (cached : m.cached = true) (nonempty : ¬ token.isEmpty) :
    freely.wp (m.destroy token).run (fun _ h => ¬ Owed (Token.digest token) h) h := by
  rw [destroy_run, if_neg nonempty]
  refine remembering_ask.mpr ⟨trivial, fun deleted => ?_⟩
  refine wp_invalidate cached fun h clear => ?_
  rcases deleted with (_ | _) | _
  · exact remembering_done.mpr clear
  · exact remembering_done.mpr clear
  · refine wp_free (only_log fun _ => trivial) fun _ more free => ?_
    exact remembering_done.mpr (not_owed_append clear free)

theorem cleared_create (cached : m.cached = true) {userId ipAddress userAgent : String}
    (clear : ¬ Owed tokenHash h) :
    freely.wp (m.create userId ipAddress userAgent).run (fun _ h => ¬ Owed tokenHash h) h := by
  rw [create_run]
  refine wp_andThen (wp_clear (m.only_drawCredentials (fun _ => trivial) fun _ _ => trivial) clear)
    ?_ fun _ _ clear => remembering_done.mpr clear
  intro x h clear
  refine remembering_ask.mpr ⟨trivial, fun (now : Timestamp) => ?_⟩
  have clear : ¬ Owed tokenHash (h ++ [⟨.now, now⟩]) := not_owed_snoc clear id
  show freely.wp (m.createAt userId ipAddress userAgent x now) _ _
  cases expiry : now.add? m.settings.maxAge with
  | none =>
    rw [createAt_none m expiry]
    exact remembering_done.mpr clear
  | some expiresAt =>
    rw [createAt_some m expiry]
    refine wp_free (m.only_currentGeneration trivial) fun n more free => ?_
    have clear := not_owed_append clear free
    refine remembering_ask.mpr ⟨trivial, fun answer => ?_⟩
    cases answer with
    | error cause => exact remembering_done.mpr (not_owed_snoc clear id)
    | ok u =>
      -- The storage has taken the session.
      refine wp_cacheFill_of_wrote cached ⟨_, told_last, rfl⟩ (not_owed_snoc clear id) ?_
      intro h clear
      refine wp_free (only_log fun _ => trivial) fun _ more free => ?_
      exact remembering_done.mpr (not_owed_append clear free)

theorem cleared_refresh (cached : m.cached = true) (token : String) :
    freely.wp (m.refresh token).run (fun _ h => ¬ Owed (Token.digest token) h) [] := by
  rw [refresh_run]
  refine wp_andThen (cleared_verify cached token) ?_ fun _ _ clear => remembering_done.mpr clear
  intro old h nonempty
  refine wp_andThen (cleared_destroy cached nonempty) ?_ fun _ _ clear => remembering_done.mpr clear
  intro _ h clear
  refine wp_andThen (cleared_create cached clear) ?_ fun _ _ clear => remembering_done.mpr clear
  intro created h clear
  refine wp_free (only_log fun _ => trivial) fun _ more free => ?_
  exact remembering_done.mpr (not_owed_append clear free)

theorem cleared_destroyOfUser (cached : m.cached = true) (userId tokenHash : String) :
    freely.wp (m.destroyOfUser userId).run (fun _ h => ¬ Owed tokenHash h) [] := by
  rw [destroyOfUser_run, store_run]
  refine remembering_ask.mpr ⟨trivial, fun removed => ?_⟩
  cases removed with
  | error cause => exact remembering_done.mpr (not_owed_snoc not_owed_nil id)
  | ok n =>
    have counted {h : History} (clear : ¬ Owed tokenHash h) :
        freely.wp ((log .info "user sessions destroyed"
          [("user_id", .quoted userId), ("removed", .number n)]).bind fun _ => .done (.ok n))
          (fun (_ : Except Session.Error Nat) h => ¬ Owed tokenHash h) h := by
      refine wp_free (only_log fun _ => trivial) fun _ more free => ?_
      exact remembering_done.mpr (not_owed_append clear free)
    show freely.wp ((if 0 < n then m.invalidateAll else .done ()).bind _) _ _
    split
    · exact wp_invalidateAll cached fun _ clear => counted clear
    next none => exact counted (not_owed_snoc not_owed_nil none)

/-- The orders that leave no debt under a digest. -/
def Order.Settles (tokenHash : String) : Order → Prop
  | .refresh token => Token.digest token = tokenHash
  | .destroyOfUser _ => True
  | _ => False

theorem wp_settles (cached : m.cached = true) (tokenHash : String) (o : Order) :
    freely.wp (o.program m) (fun _ h => o.Settles tokenHash → ¬ Owed tokenHash h) [] := by
  have others (other : ¬ o.Settles tokenHash) :
      freely.wp (o.program m) (fun _ h => o.Settles tokenHash → ¬ Owed tokenHash h) [] :=
    wp_mono (fun _ _ _ settles => absurd settles other) (wp_of_allows fun _ _ => trivial)
  cases o with
  | refresh token =>
    by_cases same : Token.digest token = tokenHash
    · obtain rfl := same
      exact wp_mono (fun _ _ clear _ => clear) (cleared_refresh cached token)
    · exact others same
  | destroyOfUser userId =>
    exact wp_mono (fun _ _ clear _ => clear) (cleared_destroyOfUser cached userId tokenHash)
  | _ => exact others id

end SessionKit.Manager
