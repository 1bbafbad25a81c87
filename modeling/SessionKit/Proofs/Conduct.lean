import SessionKit.Proofs.History
import SessionKit.Proofs.Rules
import SessionKit.Proofs.Values

/-!
# The conduct of a call

What a call of a manager asks for is grounded in what it was told before, and so is what it hands
back. Nothing is assumed about who answers: the storage and the cache may say anything.
-/

namespace SessionKit

namespace Manager

open Discipline

/-! ## Histories -/

/-- What a call has asked and what it was answered. -/
abbrev History := List (Exchange Request Answer)

namespace History

variable {h h' more : History}

/-- An answer is in a history. -/
def Told (h : History) (r : Request) (x : Answer r) : Prop :=
  (⟨r, x⟩ : Exchange Request Answer) ∈ h

/-- What the clock read. -/
def clock (h : History) : List Timestamp :=
  h.filterMap fun
    | ⟨.now, t⟩ => some t
    | _ => none

/-- What was deleted by digest, with the answers. -/
def deletions (h : History) : List (String × Except Storage.Error Unit) :=
  h.filterMap fun
    | ⟨.store (.deleteByHash k), x⟩ => some (k, x)
    | _ => none

/-- No session was offered to the storage. -/
def Unwritten (h : History) : Prop := ∀ e ∈ h, ∀ x, e.1 ≠ .store (.create x)

theorem Told.mono {r : Request} {x : Answer r} (told : h.Told r x) (grown : h <+: h') :
    h'.Told r x := grown.subset told

theorem told_last {r : Request} {x : Answer r} :
    (h ++ [⟨r, x⟩] : History).Told r x := by
  simp [Told]

@[simp] theorem clock_append : clock (h ++ h') = h.clock ++ h'.clock := List.filterMap_append

@[simp] theorem deletions_append : deletions (h ++ h') = h.deletions ++ h'.deletions :=
  List.filterMap_append

@[simp] theorem clock_nil : clock [] = [] := rfl

@[simp] theorem clock_now {t : Timestamp} : clock (⟨.now, t⟩ :: h) = t :: h.clock := rfl

@[simp] theorem clock_store {call : Storage.Call} {x : Storage.Answer call} :
    clock (⟨.store call, x⟩ :: h) = h.clock := rfl

@[simp] theorem clock_lookUp {k : String} {x : Except Cache.Error (Option Session)} :
    clock (⟨.lookUp k, x⟩ :: h) = h.clock := rfl

@[simp] theorem deletions_nil : deletions [] = [] := rfl

@[simp] theorem deletions_deleteByHash {k : String} {x : Except Storage.Error Unit} :
    deletions (⟨.store (.deleteByHash k), x⟩ :: h) = (k, x) :: h.deletions := rfl

theorem clock_eq_nil (h : ∀ e ∈ more, e.1 ≠ .now) : more.clock = [] := by
  refine List.filterMap_eq_nil_iff.mpr ?_
  rintro ⟨r, x⟩ he
  cases r with
  | now => exact absurd rfl (h _ he)
  | _ => rfl

theorem deletions_eq_nil (h : ∀ e ∈ more, ∀ k, e.1 ≠ .store (.deleteByHash k)) :
    more.deletions = [] := by
  refine List.filterMap_eq_nil_iff.mpr ?_
  rintro ⟨r, x⟩ he
  cases r with
  | store call =>
    cases call with
    | deleteByHash k => exact absurd rfl (h _ he k)
    | _ => rfl
  | _ => rfl

/-- The answer to a deletion by digest. -/
theorem mem_deletions {k : String} {x : Except Storage.Error Unit} :
    (k, x) ∈ h.deletions ↔ h.Told (.store (.deleteByHash k)) x := by
  constructor
  · intro mem
    obtain ⟨⟨r, y⟩, he, same⟩ := List.mem_filterMap.mp mem
    cases r with
    | store call =>
      cases call with
      | deleteByHash k' =>
        cases same
        exact he
      | _ => cases same
    | _ => cases same
  · intro told
    exact List.mem_filterMap.mpr ⟨_, told, rfl⟩

theorem Unwritten.append (unwritten : h.Unwritten) (rest : more.Unwritten) :
    Unwritten (h ++ more) := by
  intro e he
  rcases List.mem_append.mp he with he | he
  · exact unwritten e he
  · exact rest e he

/-! ## What the answers come to -/

/-- A session was found under a digest. -/
def Found (h : History) (tokenHash : String) (x : Session) : Prop :=
  h.Told (.lookUp tokenHash) (.ok (some x)) ∨ h.Told (.store (.byHash tokenHash)) (.ok x)

/-- A session was found under a digest that the clock says has expired. -/
def Expired (h : History) (tokenHash : String) : Prop :=
  ∃ x now, h.Found tokenHash x ∧ h.Told .now now ∧ x.expiresAt ≤ now

/-- Why a token is accepted. A session out of the cache is not compared with the token. -/
structure Accepts (h : History) (token : String) (x : Session) : Prop where
  nonempty : ¬ token.isEmpty
  found : h.Told (.lookUp (Token.digest token)) (.ok (some x)) ∨
    h.Told (.store (.byHash (Token.digest token))) (.ok x) ∧ x.tokenHash = Token.digest token
  /-- The clock was read once, and the session was good then. -/
  current : ∃ now, h.clock = [now] ∧ now < x.expiresAt

/-- Why a token is refused. -/
inductive Refuses (h : History) (token : String) : Prop where
  | empty (isEmpty : token.isEmpty)
  | unfound (cause : Storage.Error)
      (told : h.Told (.store (.byHash (Token.digest token))) (.error cause))
  | mismatched (x : Session) (told : h.Told (.store (.byHash (Token.digest token))) (.ok x))
      (mismatch : (Token.verify token x.tokenHash).toOption ≠ some true)
  | expired (expired : h.Expired (Token.digest token))

/-- Why a session is issued: the storage has taken it, and its digest is that of the token. -/
structure Issues (h : History) (created : Session.Created) : Prop where
  stored : h.Told (.store (.create created.session)) (.ok ())
  drawn : ∃ n pair, h.Told (.token n) (.ok pair) ∧ pair.token = created.token ∧
    pair.digest = created.session.tokenHash

theorem Found.mono {k : String} {x : Session} (found : h.Found k x) (grown : h <+: h') :
    h'.Found k x := found.imp (·.mono grown) (·.mono grown)

theorem Expired.mono {k : String} (expired : h.Expired k) (grown : h <+: h') : h'.Expired k := by
  obtain ⟨x, now, found, read, late⟩ := expired
  exact ⟨x, now, found.mono grown, read.mono grown, late⟩

theorem Issues.mono {created : Session.Created} (issues : h.Issues created) (grown : h <+: h') :
    h'.Issues created := by
  obtain ⟨n, pair, told, same⟩ := issues.drawn
  exact ⟨issues.stored.mono grown, n, pair, told.mono grown, same⟩

end History

open History

/-! ## What is grounded -/

/-- How a destruction ends whose deletion was answered. -/
def destroyed : Except Storage.Error Unit → Except Session.Error Unit
  | .ok () => .ok ()
  | .error .notFound => .error .notFound
  | .error cause => .error (.storage "delete session" cause)

namespace Order

/-- What a call must have been told before it asks for something. The cache gets no session but
under its own digest, and after the storage had it. The storage gets one session at the most. And
whoever verifies a token deletes its session only when this has expired. -/
def Grounded (o : Order) : Request → History → Prop
  | .fill _ k x, h => x.tokenHash = k ∧
      (h.Told (.store (.byHash k)) (.ok x) ∨ h.Told (.store (.create x)) (.ok ()))
  | .store (.create _), h => h.Unwritten
  | .store (.deleteByHash k), h => match o with
    | .verify _ => h.Expired k
    | _ => True
  | _, _ => True

/-- What a call hands back, given what it was told. -/
def Keeps : (o : Order) → o.Result → History → Prop
  | .create _ _ _, .ok created, h => h.Issues created
  | .verify token, .ok x, h => h.Accepts token x
  | .verify token, .error _, h => h.Refuses token
  | .destroy token, r, h => if token.isEmpty then r = .error .invalidToken else
      ∃ x, h.deletions = [(Token.digest token, x)] ∧ r = destroyed x
  | .destroyOfUser userId, .ok n, h => h.Told (.store (.deleteOfUser userId)) (.ok n)
  | .refresh token, .ok created, h =>
      h.Issues created ∧ h.Told (.store (.deleteByHash (Token.digest token))) (.ok ())
  | .purge, .ok n, h => h.Told (.store .deleteExpired) (.ok n)
  | _, _, _ => True

end Order

/-! ## Pieces -/

variable {α β : Type} {m : Manager} {o : Order} {allows : Request → History → Prop}
  {h : History} {token tokenHash userId : String}

/-- Requests that no promise is about. -/
def Aside : Request → Prop
  | .generation | .invalidate _ | .invalidateAll | .lookUp _ | .log _ => True
  | _ => False

theorem Aside.clock_eq_nil {more : History} (h : ∀ e ∈ more, Aside e.1) : more.clock = [] := by
  refine History.clock_eq_nil fun e he now => ?_
  have aside := h e he
  rw [now] at aside
  exact aside

theorem Aside.deletions_eq_nil {more : History} (h : ∀ e ∈ more, Aside e.1) :
    more.deletions = [] := by
  refine History.deletions_eq_nil fun e he k delete => ?_
  have aside := h e he
  rw [delete] at aside
  exact aside

theorem Aside.unwritten {more : History} (h : ∀ e ∈ more, Aside e.1) : more.Unwritten := by
  intro e he x create
  have aside := h e he
  rw [create] at aside
  exact aside

theorem grounded_of_aside {r : Request} (h' : History) (aside : Aside r) : o.Grounded r h' := by
  cases r with
  | generation | invalidate _ | invalidateAll | lookUp _ | log _ => trivial
  | _ => exact absurd aside id

theorem wp_aside {p : Action α} {f : α → Action β} {post : β → History → Prop}
    (only : p.Only Aside)
    (next : ∀ a more, (∀ e ∈ more, Aside e.1) →
      (remembering o.Grounded).wp (f a) post (h ++ more)) :
    (remembering o.Grounded).wp (p.bind f) post h :=
  remembering_past (fun _ h' _ => grounded_of_aside h') only next

/-- What is left of a history when a call to the storage was answered. -/
def Answered (h : History) (call : Storage.Call) : Except Session.Error call.Value → History → Prop
  | .ok x, h' => h' = h ++ [⟨.store call, .ok x⟩]
  | .error _, h' => ∃ cause, h' = h ++ [⟨.store call, .error cause⟩]

theorem wp_store {operation : String} {call : Storage.Call} (allowed : allows (.store call) h) :
    (remembering allows).wp (store operation call).run (Answered h call) h := by
  rw [store_run]
  refine remembering_ask.mpr ⟨allowed, fun x => ?_⟩
  cases x with
  | ok v => exact remembering_done.mpr rfl
  | error cause => exact remembering_done.mpr ⟨cause, rfl⟩

theorem wp_storeFound {operation : String} {call : Storage.Call}
    (allowed : allows (.store call) h) :
    (remembering allows).wp (storeFound operation call).run (Answered h call) h := by
  rw [storeFound_run]
  refine remembering_ask.mpr ⟨allowed, fun x => ?_⟩
  rcases x with (_ | _) | v
  · exact remembering_done.mpr ⟨_, rfl⟩
  · exact remembering_done.mpr ⟨_, rfl⟩
  · exact remembering_done.mpr rfl

/-- A session is cached only when that is grounded. -/
theorem wp_cacheFill {n : UInt64} {s : Session} {f : Unit → Action β} {post : β → History → Prop}
    (hash : s.tokenHash = tokenHash)
    (shown : h.Told (.store (.byHash tokenHash)) (.ok s) ∨ h.Told (.store (.create s)) (.ok ()))
    (next : ∀ more : History, more.clock = [] →
      (remembering o.Grounded).wp (f ()) post (h ++ more)) :
    (remembering o.Grounded).wp ((m.cacheFill n tokenHash s).bind f) post h := by
  have only : (m.cacheFill n tokenHash s).Only fun r =>
      r = .fill n tokenHash s ∨ ∃ e, r = .log e :=
    m.only_cacheFill (fun e => .inr ⟨e, rfl⟩) fun _ => .inl rfl
  refine remembering_past (fun r h' grown kind => ?_) only fun _ more kind => next more ?_
  · rcases kind with rfl | ⟨e, rfl⟩
    · exact ⟨hash, shown.imp (·.mono grown) (·.mono grown)⟩
    · trivial
  · -- Neither the fill nor what is logged when it fails reads the clock.
    refine clock_eq_nil fun e he now => ?_
    rcases kind e he with fill | ⟨_, log⟩
    · rw [now] at fill
      cases fill
    · rw [now] at log
      cases log

/-! ## Verification -/

theorem wp_removeExpired (expired : h.Expired tokenHash) {f : Session.Error → Action β}
    {post : β → History → Prop}
    (next : ∀ fault h', h <+: h' →
      (remembering (Order.verify token).Grounded).wp (f fault) post h') :
    (remembering (Order.verify token).Grounded).wp ((removeExpired tokenHash).bind f) post h := by
  rw [removeExpired_run]
  refine remembering_ask.mpr ⟨expired, fun x => ?_⟩
  -- Whatever the storage answers, the verification goes on to say that the session has expired.
  rcases x with (_ | _) | _
  · exact next _ _ (List.prefix_append _ _)
  · exact next _ _ (List.prefix_append _ _)
  · exact next _ _ (List.prefix_append _ _)

theorem wp_verifyCached {s : Session} (nonempty : ¬ token.isEmpty) (unread : h.clock = [])
    (told : h.Told (.lookUp (Token.digest token)) (.ok (some s))) :
    (remembering (Order.verify token).Grounded).wp (m.verifyCached (Token.digest token) s).run
      (Order.verify token).Keeps h := by
  rw [verifyCached_run]
  refine remembering_ask.mpr ⟨trivial, fun (now : Timestamp) => ?_⟩
  have grown : h <+: h ++ [⟨.now, now⟩] := List.prefix_append _ _
  show Discipline.wp _ (ite (s.isExpiredAt now = true) _ _) _ _
  split
  next late =>
    -- The entry is reason enough to delete from the storage, where nobody has looked.
    have expired : Expired (h ++ [⟨.now, now⟩]) (Token.digest token) :=
      ⟨s, now, .inl (told.mono grown), told_last, of_decide_eq_true late⟩
    refine wp_aside (only_log fun _ => trivial) fun _ more _ => ?_
    refine wp_removeExpired (expired.mono (List.prefix_append _ _)) fun fault h' longer => ?_
    have still := expired.mono ((List.prefix_append _ _).trans longer)
    refine wp_aside (m.only_invalidate (fun _ => trivial) trivial) fun _ more' _ => ?_
    exact remembering_done.mpr (.expired (still.mono (List.prefix_append _ _)))
  next good =>
    refine remembering_done.mpr ⟨nonempty, .inl (told.mono grown), now, ?_, ?_⟩
    · simp [unread]
    · exact Timestamp.lt_of_not_le fun late => good (decide_eq_true late)

theorem wp_verifyStored (nonempty : ¬ token.isEmpty) (unread : h.clock = []) :
    (remembering (Order.verify token).Grounded).wp
      (m.verifyStored token (Token.digest token)).run (Order.verify token).Keeps h := by
  rw [verifyStored_run]
  refine wp_aside (m.only_currentGeneration trivial) fun n more aside => ?_
  refine wp_andThen (wp_storeFound trivial) (fun s h₁ found => ?_) (fun e h₁ unfound => ?_)
  · -- The session that was found is the answer that was just given.
    obtain rfl := found
    have told : Told (h ++ more ++ [⟨.store (.byHash (Token.digest token)), .ok s⟩])
        (.store (.byHash (Token.digest token))) (.ok s) := told_last
    have unread' : clock (h ++ more ++ [⟨.store (.byHash (Token.digest token)), .ok s⟩]) = [] := by
      simp [unread, Aside.clock_eq_nil aside]
    generalize h ++ more ++ [⟨.store (.byHash (Token.digest token)), .ok s⟩] = h₁ at told unread'
    split
    next mismatch =>
      refine wp_aside (only_log fun _ => trivial) fun _ more' _ => ?_
      exact remembering_done.mpr (.mismatched s (told.mono (List.prefix_append _ _)) mismatch)
    next matched =>
      have hash := Token.eq_digest_of_verify (not_not.mp matched)
      refine remembering_ask.mpr ⟨trivial, fun (now : Timestamp) => ?_⟩
      have grown : h₁ <+: h₁ ++ [⟨.now, now⟩] := List.prefix_append _ _
      show Discipline.wp _ (ite (s.isExpiredAt now = true) _ _) _ _
      split
      next late =>
        have expired : Expired (h₁ ++ [⟨.now, now⟩]) (Token.digest token) :=
          ⟨s, now, .inr (told.mono grown), told_last, of_decide_eq_true late⟩
        refine wp_aside (only_log fun _ => trivial) fun _ more' _ => ?_
        refine wp_removeExpired (expired.mono (List.prefix_append _ _)) fun fault h' longer => ?_
        exact remembering_done.mpr
          (.expired (expired.mono ((List.prefix_append _ _).trans longer)))
      next good =>
        -- The storage has shown the session, and its digest was compared with that of the token.
        refine wp_cacheFill hash (.inl (told.mono grown)) fun more' quiet => ?_
        refine remembering_done.mpr ⟨nonempty, .inr ⟨?_, hash⟩, now, ?_, ?_⟩
        · exact told.mono (grown.trans (List.prefix_append _ _))
        · simp [unread', quiet]
        · exact Timestamp.lt_of_not_le fun late => good (decide_eq_true late)
  · obtain ⟨cause, rfl⟩ := unfound
    exact remembering_done.mpr (.unfound cause told_last)

theorem wp_cacheGet :
    (remembering o.Grounded).wp (m.cacheGet tokenHash)
      (fun hit (h : History) =>
        h.clock = [] ∧ ∀ x, hit = some x → h.Told (.lookUp tokenHash) (.ok (some x))) [] := by
  by_cases cached : m.cached
  · rw [m.cacheGet_cached cached]
    refine remembering_ask.mpr ⟨trivial, fun x => ?_⟩
    rcases x with e | hit
    · refine wp_aside (only_log fun _ => trivial) fun _ more aside => remembering_done.mpr ⟨?_, ?_⟩
      · simp [Aside.clock_eq_nil aside]
      · simp
    · refine remembering_done.mpr ⟨by simp, ?_⟩
      rintro x rfl
      exact told_last
  · rw [cacheGet, if_neg cached]
    exact remembering_done.mpr ⟨rfl, by simp⟩

theorem wp_verify (token : String) :
    (remembering (Order.verify token).Grounded).wp (m.verify token).run
      (Order.verify token).Keeps [] := by
  rw [verify_run]
  split
  next isEmpty => exact remembering_done.mpr (.empty isEmpty)
  next nonempty =>
    refine wp_bind_of wp_cacheGet fun hit h ⟨unread, told⟩ => ?_
    cases hit with
    | some s => exact wp_verifyCached nonempty unread (told s rfl)
    | none => exact wp_verifyStored nonempty unread

/-! ## Creation and destruction -/

/-- What a creation that succeeds has been told. -/
def Creates (r : Except Session.Error Session.Created) (h : History) : Prop :=
  ∀ created, r = .ok created → h.Issues created

theorem creates_error {e : Session.Error} : Creates (.error e) h := fun _ failed => nomatch failed

theorem wp_create (userId ipAddress userAgent : String) (unwritten : h.Unwritten) :
    (remembering o.Grounded).wp (m.create userId ipAddress userAgent).run Creates h := by
  have failed {e : Session.Error} {h : History} :
      (remembering o.Grounded).wp (.done (.error e)) Creates h :=
    remembering_done.mpr creates_error
  rw [create_run, drawCredentials_run]
  refine remembering_ask.mpr ⟨trivial, fun x => ?_⟩
  cases x with
  | error cause => exact failed
  | ok pair =>
    refine remembering_ask.mpr ⟨trivial, fun x => ?_⟩
    cases x with
    | error cause => exact failed
    | ok id =>
      refine remembering_ask.mpr ⟨trivial, fun (now : Timestamp) => ?_⟩
      -- Of what was said so far, the draw is all that counts later on.
      have drawn : Told (h ++ [⟨.token m.settings.tokenBytes, .ok pair⟩] ++
          [⟨.identifier m.alphabet m.settings.idLength, .ok id⟩] ++ [⟨.now, now⟩])
          (.token m.settings.tokenBytes) (.ok pair) := by
        simp [Told]
      have unwritten' : Unwritten (h ++ [⟨.token m.settings.tokenBytes, .ok pair⟩] ++
          [⟨.identifier m.alphabet m.settings.idLength, .ok id⟩] ++ [⟨.now, now⟩]) := by
        refine ((unwritten.append ?_).append ?_).append ?_ <;> simp [Unwritten]
      generalize h ++ [⟨.token m.settings.tokenBytes, .ok pair⟩] ++
        [⟨.identifier m.alphabet m.settings.idLength, .ok id⟩] ++ [⟨.now, now⟩] = h₁
        at drawn unwritten'
      show (remembering o.Grounded).wp (m.createAt userId ipAddress userAgent (pair, id) now) _ _
      cases expiry : now.add? m.settings.maxAge with
      | none =>
        rw [createAt_none m expiry]
        exact failed
      | some expiresAt =>
        rw [createAt_some m expiry]
        refine wp_aside (m.only_currentGeneration trivial) fun n more aside => ?_
        refine wp_andThen (wp_store (unwritten'.append (Aside.unwritten aside)))
          (fun _ h₂ stored => ?_) (fun _ _ _ => failed)
        obtain rfl := stored
        refine wp_cacheFill rfl (.inr told_last) fun more' _ => ?_
        refine wp_aside (only_log fun _ => trivial) fun _ more'' _ => remembering_done.mpr ?_
        intro created issued
        cases issued
        have issues : Issues (h₁ ++ more ++ [⟨.store (.create _), .ok ()⟩])
            ⟨newSession userId ipAddress userAgent (pair, id) now expiresAt, pair.token⟩ :=
          { stored := told_last
            drawn := ⟨_, pair, drawn.mono (by simp [List.append_assoc]), rfl, rfl⟩ }
        exact (issues.mono (List.prefix_append _ _)).mono (List.prefix_append _ _)

theorem wp_destroy (token : String)
    (free : o.Grounded (.store (.deleteByHash (Token.digest token))) h) :
    (remembering o.Grounded).wp (m.destroy token).run
      (fun r (h' : History) => if token.isEmpty then r = .error .invalidToken else
        ∃ x, h'.deletions = h.deletions ++ [(Token.digest token, x)] ∧ r = destroyed x) h := by
  rw [destroy_run]
  split
  next isEmpty => exact remembering_done.mpr rfl
  next nonempty =>
    refine remembering_ask.mpr ⟨free, fun x => ?_⟩
    refine wp_aside (m.only_invalidate (fun _ => trivial) trivial) fun _ more aside => ?_
    have deleted : deletions (h ++ [⟨.store (.deleteByHash (Token.digest token)), x⟩] ++ more) =
        h.deletions ++ [(Token.digest token, x)] := by
      simp [Aside.deletions_eq_nil aside]
    rcases x with (_ | _) | _
    · exact remembering_done.mpr ⟨_, deleted, rfl⟩
    · exact remembering_done.mpr ⟨_, deleted, rfl⟩
    · refine wp_aside (only_log fun _ => trivial) fun _ more' aside' => ?_
      refine remembering_done.mpr ⟨.ok (), ?_, rfl⟩
      rw [deletions_append, deleted, Aside.deletions_eq_nil aside', List.append_nil]

/-- A destruction that succeeds was told that it has deleted something. -/
theorem told_of_destroyed (earlier : List (String × Except Storage.Error Unit))
    (ended : if token.isEmpty then Except.ok () = (.error .invalidToken : Except Session.Error Unit)
      else ∃ x, h.deletions = earlier ++ [(Token.digest token, x)] ∧ .ok () = destroyed x) :
    h.Told (.store (.deleteByHash (Token.digest token))) (.ok ()) := by
  split at ended
  · cases ended
  · obtain ⟨answer, deletions, ok⟩ := ended
    apply mem_deletions.mp
    rw [deletions]
    rcases answer with (_ | _) | _
    · cases ok
    · cases ok
    · simp

/-- What a refresh that succeeds has been told. -/
def Refreshes (token : String) (r : Except Session.Error Session.Created) (h : History) : Prop :=
  ∀ created, r = .ok created →
    h.Issues created ∧ h.Told (.store (.deleteByHash (Token.digest token))) (.ok ())

theorem unwritten_of_kind {P : Request → Prop} {more : History} (kind : ∀ e ∈ more, P e.1)
    (none : ∀ x, ¬ P (.store (.create x))) : more.Unwritten := by
  intro e he x create
  refine none x ?_
  rw [← create]
  exact kind e he

theorem wp_refresh (token : String) :
    (remembering (Order.refresh token).Grounded).wp (m.refresh token).run (Refreshes token) [] := by
  have failed {e : Session.Error} {h : History} :
      (remembering (Order.refresh token).Grounded).wp (.done (.error e)) (Refreshes token) h :=
    remembering_done.mpr fun _ failed => nomatch failed
  -- A refresh may do all that a verification may.
  have weaker (r : Request) (h : History) (_ : (Order.verify token).Asks r)
      (grounded : (Order.verify token).Grounded r h) : (Order.refresh token).Grounded r h := by
    cases r with
    | store call =>
      cases call with
      | deleteByHash k => trivial
      | _ => exact grounded
    | _ => exact grounded
  have only := (Order.verify token).only_program m
  have verified := remembering_keeping (remembering_weaken weaker only (wp_verify token)) only
  rw [refresh_run]
  refine wp_andThen verified (fun old h₁ ⟨_, more, grown, kind⟩ => ?_) (fun _ _ _ => failed)
  have unwritten : Unwritten h₁ := by
    rw [grown]
    exact unwritten_of_kind kind fun _ => id
  refine wp_andThen (remembering_keeping (wp_destroy token trivial)
    ((Order.destroy token).only_program m)) (fun _ h₂ ⟨ended, more, grown, kind⟩ => ?_)
    (fun _ _ _ => failed)
  have deleted := told_of_destroyed _ ended
  have unwritten : Unwritten h₂ := by
    rw [grown]
    exact unwritten.append (unwritten_of_kind kind fun _ => id)
  refine wp_andThen (remembering_keeping (wp_create _ _ _ unwritten)
    ((Order.create _ _ _).only_program m)) (fun created h₃ ⟨creates, more, grown, _⟩ => ?_)
    (fun _ _ _ => failed)
  refine wp_aside (only_log fun _ => trivial) fun _ more' _ => remembering_done.mpr ?_
  intro _ issued
  cases issued
  have longer : h₂ <+: h₃ := grown ▸ List.prefix_append _ _
  exact ⟨(creates created rfl).mono (List.prefix_append _ _),
    deleted.mono (longer.trans (List.prefix_append _ _))⟩

/-! ## Orders -/

/-- What follows a deletion of many sessions hands back how many there were. -/
theorem wp_counted {removed : Nat} {level : Level} {message : String}
    {fields : List (String × Event.Value)} :
    (remembering o.Grounded).wp
      ((if 0 < removed then m.invalidateAll else .done ()).bind fun _ =>
        (log level message fields).bind fun _ => .done (.ok removed))
      (fun (r : Except Session.Error Nat) h' => r = .ok removed ∧ h <+: h') h := by
  have clear : (if 0 < removed then m.invalidateAll else .done ()).Only Aside := by
    split
    · exact m.only_invalidateAll (fun _ => trivial) trivial
    · trivial
  refine wp_aside clear fun _ more _ => ?_
  refine wp_aside (only_log fun _ => trivial) fun _ more' _ => remembering_done.mpr ⟨rfl, ?_⟩
  exact (List.prefix_append _ _).trans (List.prefix_append _ _)

theorem wp_destroyOfUser (userId : String) :
    (remembering o.Grounded).wp (m.destroyOfUser userId).run
      (fun r (h' : History) => ∀ n, r = .ok n → h'.Told (.store (.deleteOfUser userId)) (.ok n))
      h := by
  rw [destroyOfUser_run]
  refine wp_andThen (wp_store trivial) (fun removed _ deleted => ?_)
    (fun _ _ _ => remembering_done.mpr fun _ failed => nomatch failed)
  obtain rfl := deleted
  refine wp_mono (fun r h' ⟨counted, grown⟩ n ok => ?_) wp_counted
  cases counted.symm.trans ok
  exact told_last.mono grown

theorem wp_purge :
    (remembering o.Grounded).wp m.purge.run
      (fun r (h' : History) => ∀ n, r = .ok n → h'.Told (.store .deleteExpired) (.ok n)) h := by
  rw [purge_run]
  refine wp_andThen (wp_store trivial) (fun removed _ deleted => ?_)
    (fun _ _ _ => remembering_done.mpr fun _ failed => nomatch failed)
  obtain rfl := deleted
  refine wp_mono (fun r h' ⟨counted, grown⟩ n ok => ?_) wp_counted
  cases counted.symm.trans ok
  exact told_last.mono grown

/-- Every call asks only for what is grounded, and keeps what is promised of its order. -/
theorem wp_program (o : Order) : (remembering o.Grounded).wp (o.program m) o.Keeps [] := by
  -- An order that neither fills the cache nor writes has nothing to be grounded.
  have free (grounded : ∀ r h, o.Asks r → o.Grounded r h) (keeps : ∀ r h, o.Keeps r h) :
      (remembering o.Grounded).wp (o.program m) o.Keeps [] :=
    wp_mono (fun r h _ => keeps r h)
      (remembering_of_only (fun r h _ => grounded r h) (o.only_program m))
  cases o with
  | create userId ipAddress userAgent =>
    refine wp_mono (fun r h creates => ?_) (wp_create _ _ _ fun _ none => nomatch none)
    cases r with
    | ok created => exact creates created rfl
    | error e => trivial
  | verify token => exact wp_verify token
  | destroy token =>
    refine wp_mono (fun r h ended => ?_) (wp_destroy token trivial)
    exact ended
  | destroyOfUser userId =>
    refine wp_mono (fun r h counted => ?_) (wp_destroyOfUser userId)
    cases r with
    | ok n => exact counted n rfl
    | error e => trivial
  | refresh token =>
    refine wp_mono (fun r h refreshes => ?_) (wp_refresh token)
    cases r with
    | ok created => exact refreshes created rfl
    | error e => trivial
  | purge =>
    refine wp_mono (fun r h counted => ?_) wp_purge
    cases r with
    | ok n => exact counted n rfl
    | error e => trivial
  | destroyById _ | list _ | get _ =>
    refine free (fun r h asks => ?_) (fun _ _ => trivial)
    cases r with
    | store call =>
      cases call with
      | create x => exact absurd asks id
      | _ => trivial
    | fill n k x => exact absurd asks id
    | _ => trivial

/-! ## Along a run -/

section Calls

variable {World Moment : Type} {v : Service Request Answer Order Order.Result World Moment}
  {s s' : Service.State Request Answer Order Order.Result World}
  {ts a b : List (Service.Transition Request Answer Order Order.Result World Moment)}
  {t : Service.Transition Request Answer Order Order.Result World Moment} {c : Nat}

/-- In every service that runs the programs of a manager, whatever the world is: what a call asks
is what its order asks, and is grounded in its history. -/
theorem grounded_of_asked {moment : Moment} {r : Request} {x : Answer r}
    (run : Service.Run v s (a ++ t :: b) s') (idle : s.Idle) (numbered : s.Numbered)
    (programs : ∀ o, v.program o = o.program m) (asked : t.event = .asked c moment r x) :
    ∃ o, (∃ u ∈ a, u.event = .begun c o) ∧ o.Asks r ∧ o.Grounded r (history c a) := by
  obtain ⟨o, u, hu, begun, grounded⟩ := allows_of_asked run idle numbered
    (fun o => by rw [programs]; exact wp_program o) asked
  refine ⟨o, ⟨u, hu, begun⟩, ?_, grounded⟩
  obtain ⟨d, e, rfl⟩ := List.append_of_mem hu
  rw [List.append_assoc, List.cons_append] at run
  exact request_of_begun run begun (by rw [programs]; exact o.only_program m) (by simp) asked

/-- The order of a call tells what it may ask, from its beginning on. -/
theorem asks_of_begun {u : Service.Transition Request Answer Order Order.Result World Moment}
    {moment : Moment} {r : Request} {x : Answer r} (run : Service.Run v s ts s') (idle : s.Idle)
    (numbered : s.Numbered) (programs : ∀ o, v.program o = o.program m) (hu : u ∈ ts)
    (begun : u.event = .begun c o) (ht : t ∈ ts) (asked : t.event = .asked c moment r x) :
    o.Asks r := by
  obtain ⟨a, b, split⟩ := List.append_of_mem ht
  have cut := run
  rw [split] at cut
  obtain ⟨o', ⟨w, hw, begun'⟩, asks, _⟩ := grounded_of_asked cut idle numbered programs asked
  obtain rfl := run.order_eq numbered hu (by simp [split, hw]) begun begun'
  exact asks

theorem keeps_of_returned {r : o.Result} (run : Service.Run v s ts s') (idle : s.Idle)
    (numbered : s.Numbered) (programs : ∀ o, v.program o = o.program m) (h : t ∈ ts)
    (returned : t.event = .returned c o r) : o.Keeps r (history c ts) :=
  vow_of_history run idle numbered (fun o => by rw [programs]; exact wp_program o) h returned

end Calls

end Manager
end SessionKit
