import SessionKit.Proofs.Creation
import SessionKit.Proofs.Reentry
import SessionKit.Proofs.Rotation

/-!
# The life of a session

Operations that go one after the other, over a storage that does not fail. The token of a session
is accepted until the session expires or is removed. It is found expired once at the most, since
that removes the session, and from then on it is not found. The clock may even go back: what has
been removed does not return with an earlier time.
-/

namespace SessionKit.Traffic

open Manager (Request Answer Action Order History)
open Fleet (wp_drawn)

variable {α : Type} {P : Moment → Prop} {w : World} {m : Manager} {k token : String}
  {x : Session} {created : Session.Created} {t : Nat → Moment} {p : Action α} {h : History}

/-! ## What a program is told -/

/-- What a program that goes by itself asks, with the answers. -/
def transcript : (Nat → Moment) → Action α → World → History
  | _, .done _, _ => []
  | t, .ask r next, w =>
    ⟨r, ((t 0).serve r w).1⟩ ::
      transcript (fun n => t (n + 1)) (next ((t 0).serve r w).1) ((t 0).serve r w).2

/-- The tokens that were drawn. -/
def tokens (h : History) : List String :=
  h.filterMap fun
    | ⟨.token _, .ok pair⟩ => some pair.token
    | _ => none

theorem mem_tokens {n : Nat} {pair : Token.Pair} (told : h.Told (.token n) (.ok pair)) :
    pair.token ∈ tokens h := List.mem_filterMap.mpr ⟨_, told, rfl⟩

theorem served_of_mem_transcript {r : Request} {a : Answer r}
    (told : (transcript t p w).Told r a) : ∃ moment w', a = (Moment.serve moment r w').1 := by
  induction p generalizing t w with
  | done b => cases told
  | ask q next ih =>
    rcases List.mem_cons.mp told with first | rest
    · cases first
      exact ⟨t 0, w, rfl⟩
    · exact ih _ rest

theorem eq_of_request_stores {r : Request} {a : Answer r} (stores : r.Stores x a) :
    r = .store (.create x) := by
  cases r with
  | store call =>
    cases call with
    | create y =>
      cases a with
      | ok _ => exact congrArg (fun y => Request.store (.create y)) stores
      | error _ => exact absurd stores id
    | _ => exact absurd stores id
  | _ => exact absurd stores id

/-- A session gets into the storage only if the program may put it there. -/
theorem mem_of_mem_alone {allows : Request → History → Prop} {post : α → History → Prop}
    (hp : (Discipline.remembering allows).wp p post h)
    (mem : x ∈ (alone t p w).2.storage.sessions) :
    x ∈ w.storage.sessions ∨
      ∃ h', h' <+: h ++ transcript t p w ∧ allows (.store (.create x)) h' := by
  induction p generalizing t w h with
  | done a => exact .inl mem
  | ask r next ih =>
    rw [Discipline.remembering_ask] at hp
    rcases ih _ (hp.2 _) mem with before | ⟨h', cut, allowed⟩
    · rcases mem_of_mem_serve before with before | stores
      · exact .inl before
      · have create := eq_of_request_stores stores
        exact .inr ⟨h, List.prefix_append _ _, create ▸ hp.1⟩
    · refine .inr ⟨h', ?_, allowed⟩
      rwa [List.append_assoc] at cut

/-! ## Turns -/

/-- An operation that goes by itself, and the moments of its requests. -/
structure Turn where
  order : Order
  moments : Nat → Moment

namespace Turn

variable (m : Manager) (u : Turn) (w : World)

def result : u.order.Result := (alone u.moments (u.order.program m) w).1

def after : World := (alone u.moments (u.order.program m) w).2

def told : History := transcript u.moments (u.order.program m) w

/-- No call to the storage fails. -/
def Sound : Prop := ∀ n, (u.moments n).fault = none

end Turn

/-- The world after some turns. -/
def World.after (m : Manager) (us : List Turn) (w : World) : World :=
  us.foldl (fun w u => u.after m w) w

/-- The tokens that are drawn in some turns. -/
def drawnIn (m : Manager) : List Turn → World → List String
  | [], _ => []
  | u :: us, w => tokens (u.told m w) ++ drawnIn m us (u.after m w)

/-- What a verification comes to, and what the clock read meanwhile. -/
abbrev Verification := Except Session.Error Session × List Timestamp

def verification (m : Manager) (token : String) (t : Nat → Moment) (w : World) : Verification :=
  ((alone t (m.verify token).run w).1, (transcript t (m.verify token).run w).clock)

/-- The verifications of a token in some turns. -/
def verifications (m : Manager) (token : String) : List Turn → World → List Verification
  | [], _ => []
  | u :: us, w =>
    let rest := verifications m token us (u.after m w)
    if u.order = .verify token then verification m token u.moments w :: rest else rest

/-- A session gets into the storage only under the digest of a token that was drawn. -/
theorem mem_of_mem_after {u : Turn} (undrawn : ∀ v ∈ tokens (u.told m w), Token.digest v ≠ k)
    (mem : x ∈ (u.after m w).storage.sessions) (hash : x.tokenHash = k) :
    x ∈ w.storage.sessions := by
  refine (mem_of_mem_alone (wp_drawn u.order) mem).resolve_right ?_
  rintro ⟨h, cut, n, pair, told, digest⟩
  obtain ⟨moment, w', served⟩ := served_of_mem_transcript (cut.subset told)
  refine undrawn pair.token (mem_tokens (cut.subset told)) ?_
  rw [← moment.digest_token served.symm, digest, hash]

/-- Nothing in the cache is stale. -/
abbrev Tidy (m : Manager) (w : World) : Prop := Settled m (fun _ => False) w

theorem Tidy.turn {u : Turn} (tidy : Tidy m w) (sound : u.Sound) : Tidy m (u.after m w) :=
  settled_program tidy u.order fun _ _ _ _ unseen => absurd (sound 0) unseen

theorem Tidy.turns {us : List Turn} (tidy : Tidy m w) (sound : ∀ u ∈ us, u.Sound) :
    Tidy m (w.after m us) := by
  induction us generalizing w with
  | nil => exact tidy
  | cons u us ih =>
    exact ih (tidy.turn (sound u (by simp))) fun v hv => sound v (by simp [hv])

/-! ## Issuance -/

/-- No other session is stored under the digest. -/
def Sole (k : String) (x : Session) (w : World) : Prop :=
  ∀ y ∈ w.storage.sessions, y.tokenHash = k → y = x

/-- A session is stored under the digest of its token, and no other one is. -/
structure Placed (created : Session.Created) (w : World) : Prop where
  nonempty : ¬ created.token.isEmpty
  stored : w.storage.byHash? (Token.digest created.token) = some created.session
  sole : Sole (Token.digest created.token) created.session w

theorem wp_anything : (solitude P).wp p (fun _ _ => True) w :=
  Discipline.wp_of_allows fun _ _ => trivial

/-- What a call that succeeds leaves in the storage. -/
def Places (r : Except Session.Error Session.Created) (w : World) : Prop :=
  ∀ created, r = .ok created → Placed created w

theorem places_error {e : Session.Error} : Places (.error e) w := fun _ failed => nomatch failed

theorem wp_places_error {e : Session.Error} : (solitude P).wp (.done (.error e)) Places w :=
  solitude_done.mpr places_error

theorem wp_create_places (userId ipAddress userAgent : String) :
    (solitude P).wp (m.create userId ipAddress userAgent).run Places w := by
  refine Discipline.wp_mono ?_ wp_creation
  rintro r w' creation created issued
  cases creation with
  | refused _ => cases issued
  | issued added =>
    cases issued
    refine ⟨added.nonempty, ?_, fun y mem hash => ?_⟩
    · rw [added.byHash?_eq, if_pos added.digest.symm]
    · -- Nothing was stored under the digest before.
      rw [added.storage] at mem
      rcases List.mem_append.mp mem with before | new
      · exact absurd ⟨y, before, hash.trans added.digest.symm⟩ added.free
      · exact List.mem_singleton.mp new

theorem wp_refresh_places (token : String) :
    (solitude P).wp (m.refresh token).run Places w := by
  rw [Manager.refresh_run]
  refine Discipline.wp_andThen wp_anything ?_ fun _ _ _ => wp_places_error
  intro old w₁ _
  refine Discipline.wp_andThen wp_anything ?_ fun _ _ _ => wp_places_error
  intro _ w₂ _
  refine Discipline.wp_andThen (wp_create_places _ _ _) ?_ fun _ _ _ => wp_places_error
  intro created w₃ places
  refine solitude_quiet.wp_log_bind (solitude_done.mpr ?_)
  rintro _ ⟨⟩
  exact places created rfl

/-- A session that is issued is the only one that is stored under the digest of its token. -/
theorem wp_program_placed (o : Order) :
    (solitude P).wp (o.program m)
      (fun r w' => ∀ created, o.issued? r = some created → Placed created w') w := by
  cases o with
  | create userId ipAddress userAgent =>
    refine Discipline.wp_mono (fun r w' places created issued => ?_) (wp_create_places _ _ _)
    cases r with
    | ok _ =>
      cases issued
      exact places _ rfl
    | error _ => cases issued
  | refresh token =>
    refine Discipline.wp_mono (fun r w' places created issued => ?_) (wp_refresh_places _)
    cases r with
    | ok _ =>
      cases issued
      exact places _ rfl
    | error _ => cases issued
  | _ => exact Discipline.wp_mono (fun _ _ _ _ issued => nomatch issued) wp_anything

/-! ## Verifications by the clock -/

/-- The discipline of a call that knows the world, and remembers what it read on the clock. -/
def timekeeping (P : Moment → Prop) : Discipline Request Answer (World × List Timestamp) where
  later := Eq
  allows _ _ := True
  learns r x g g' := ∃ t, P t ∧ t.serve r g.1 = (x, g'.1) ∧ g'.2 = g.2 ++ History.clock [⟨r, x⟩]
  later_refl _ := rfl
  later_trans := Eq.trans

variable {g : World × List Timestamp} {c : List Timestamp}

theorem timekeeping_done {a : α} {post : α → World × List Timestamp → Prop} :
    (timekeeping P).wp (.done a) post g ↔ post a g := by
  constructor
  · intro h
    exact h g rfl
  · rintro h _ rfl
    exact h

theorem timekeeping_ask {r : Request} {next : Answer r → Action α}
    {post : α → World × List Timestamp → Prop} :
    (timekeeping P).wp (.ask r next) post (w, c) ↔
      ∀ t, P t → (timekeeping P).wp (next (t.serve r w).1) post
        ((t.serve r w).2, c ++ History.clock [⟨r, (t.serve r w).1⟩]) := by
  constructor
  · intro h t ht
    exact (h _ rfl).2 _ _ ⟨t, ht, rfl, rfl⟩
  · rintro h _ rfl
    refine ⟨trivial, ?_⟩
    rintro _ ⟨w', c'⟩ ⟨t, ht, served, rfl⟩
    have next := h t ht
    rwa [served] at next

theorem timekeeping_quiet : (timekeeping P).Quiet where
  allows _ _ := trivial
  learns := by
    rintro _ _ ⟨w, c⟩ ⟨w', c'⟩ ⟨t, _, served, rfl⟩
    refine Prod.ext (congrArg Prod.snd served) ?_
    exact (List.append_nil c).symm

theorem post_of_timekeeping {post : α → World × List Timestamp → Prop}
    (hp : (timekeeping P).wp p post (w, c)) (ht : ∀ n, P (t n)) :
    post (alone t p w).1 ((alone t p w).2, c ++ (transcript t p w).clock) := by
  induction p generalizing t w c with
  | done a =>
    have done := timekeeping_done.mp hp
    rwa [← List.append_nil c] at done
  | ask r next ih =>
    have rest := ih _ (timekeeping_ask.mp hp (t 0) (ht 0)) fun n => ht (n + 1)
    rw [List.append_assoc, ← History.clock_append] at rest
    exact rest

/-- A program that does not read the clock. -/
theorem wp_unread {post : α → World → Prop} (hp : (solitude P).wp p post w)
    (only : p.Only (· ≠ .now)) :
    (timekeeping P).wp p (fun a g => post a g.1 ∧ g.2 = c) (w, c) := by
  induction p generalizing w with
  | done a => exact timekeeping_done.mpr ⟨solitude_done.mp hp, rfl⟩
  | ask r next ih =>
    refine timekeeping_ask.mpr fun t ht => ?_
    have unread : History.clock [⟨r, (t.serve r w).1⟩] = [] :=
      History.clock_eq_nil fun e he => by
        rw [List.mem_singleton.mp he]
        exact only.1
    rw [unread, List.append_nil]
    exact ih _ (solitude_ask.mp hp t ht) (only.2 _)

theorem unread_cacheFill {n : UInt64} : (m.cacheFill n k x).Only (· ≠ .now) :=
  m.only_cacheFill (fun _ => nofun) fun _ => nofun

/-- What a verification comes to whose session is stored under the digest, if the storage does not
fail. The clock is read once, and it decides. -/
inductive Encounter (k : String) (x : Session) :
    Except Session.Error Session → World × List Timestamp → Prop
  | active {w : World} {now : Timestamp} (early : now < x.expiresAt) :
    Encounter k x (.ok x) (w, [now])
  | expired {w : World} {now : Timestamp} (gone : ¬ w.Stored k) (late : x.expiresAt ≤ now) :
    Encounter k x (.error .expired) (w, [now])

section Sound

variable (sound : ∀ t, P t → t.fault = none)

include sound

theorem wp_removeExpired_of_sound :
    (solitude P).wp (Manager.removeExpired k) (fun e w' => e = .expired ∧ ¬ w'.Stored k) w := by
  rw [Manager.removeExpired_run]
  refine solitude_store (fun t _ ht fault => ?_) fun t _ => ?_
  · rw [sound t ht] at fault
    cases fault
  · have gone : ¬ (w.called t.now (.deleteByHash k)).Stored k :=
      Storage.Memory.not_holds_deleteByHash
    rcases w.storage.deleteByHash_cases t.now k with ok | ⟨missing, _⟩
    · rw [ok]
      exact solitude_done.mpr ⟨rfl, gone⟩
    · rw [missing]
      exact solitude_done.mpr ⟨rfl, gone⟩

/-- The session is removed. What comes after the removal only concerns the cache. -/
theorem wp_encounter_expired {now : Timestamp} {q : Action Unit} (late : x.expiresAt ≤ now)
    (only : q.Only fun r => r ≠ .now ∧ ∀ call, r ≠ .store call) :
    (timekeeping P).wp
      ((Manager.removeExpired k).bind fun fault => q.bind fun _ => .done (.error fault))
      (Encounter k x) (w, [now]) := by
  refine Discipline.wp_bind_of (wp_unread (wp_removeExpired_of_sound sound)
    (Manager.only_removeExpired nofun)) ?_
  rintro _ ⟨w', _⟩ ⟨⟨rfl, gone⟩, rfl⟩
  refine Discipline.wp_bind_of (wp_unread (wp_unstored (only.mono fun _ => And.right))
    (only.mono fun _ => And.left)) ?_
  rintro _ ⟨w'', _⟩ ⟨same, rfl⟩
  refine timekeeping_done.mpr (.expired ?_ late)
  rwa [World.Stored, same]

theorem wp_verifyCached_encounter :
    (timekeeping P).wp (m.verifyCached k x).run (Encounter k x) (w, []) := by
  rw [Manager.verifyCached_run]
  refine timekeeping_ask.mpr fun t _ => ?_
  show (timekeeping P).wp (ite (x.isExpiredAt t.now = true) _ _) _ (w, [t.now])
  split
  next late =>
    refine timekeeping_quiet.wp_log_bind ?_
    exact wp_encounter_expired sound (of_decide_eq_true late)
      (m.only_invalidate (fun _ => ⟨nofun, fun _ => nofun⟩) ⟨nofun, fun _ => nofun⟩)
  next good =>
    refine timekeeping_done.mpr (.active ?_)
    exact Timestamp.lt_of_not_le fun late => good (decide_eq_true late)

theorem wp_verifyStored_encounter (nonempty : ¬ token.isEmpty)
    (stored : w.storage.byHash? (Token.digest token) = some x) :
    (timekeeping P).wp (m.verifyStored token (Token.digest token)).run
      (Encounter (Token.digest token) x) (w, []) := by
  rw [Manager.verifyStored_run]
  refine Discipline.wp_bind_of (wp_unread wp_currentGeneration (m.only_currentGeneration nofun)) ?_
  rintro n ⟨w₁, _⟩ ⟨same, rfl⟩
  obtain rfl : w = w₁ := same.symm
  rw [Manager.storeFound_run]
  refine timekeeping_ask.mpr fun t ht => ?_
  have served : t.serve (.store (.byHash (Token.digest token))) w = (.ok x, w) := by
    rw [serve_store, Moment.store, sound t ht]
    exact Prod.ext (Storage.Memory.byHash_of_some t.now stored) rfl
  -- What is stored under the digest of a token always matches the token.
  have matching : (Token.verify token x.tokenHash).toOption = some true := by
    rw [(Storage.Memory.mem_of_byHash? stored).2, Token.verify_digest nonempty]
    rfl
  rw [served]
  show (timekeeping P).wp (ite (¬ _ = some true) _ _) _ (w, [])
  rw [if_neg (not_not_intro matching)]
  refine timekeeping_ask.mpr fun t _ => ?_
  show (timekeeping P).wp (ite (x.isExpiredAt t.now = true) _ _) _ (w, [t.now])
  split
  next late =>
    refine timekeeping_quiet.wp_log_bind ?_
    exact wp_encounter_expired (q := .done ()) sound (of_decide_eq_true late) trivial
  next good =>
    refine Discipline.wp_bind_of (wp_unread wp_anything unread_cacheFill) ?_
    rintro _ ⟨w', _⟩ ⟨_, rfl⟩
    refine timekeeping_done.mpr (.active ?_)
    exact Timestamp.lt_of_not_le fun late => good (decide_eq_true late)

theorem wp_verify_encounter (tidy : Tidy m w) (nonempty : ¬ token.isEmpty)
    (stored : w.storage.byHash? (Token.digest token) = some x) :
    (timekeeping P).wp (m.verify token).run (Encounter (Token.digest token) x)
      (w, []) := by
  rw [Manager.verify_run, if_neg nonempty]
  refine Discipline.wp_bind_of (wp_unread (wp_cacheGet tidy)
    (m.only_cacheGet (fun _ => nofun) nofun)) ?_
  rintro hit ⟨w', _⟩ ⟨⟨_, same, hits, _⟩, rfl⟩
  cases hit with
  | some y =>
    obtain rfl : y = x := Option.some.inj ((hits y rfl id).symm.trans stored)
    exact wp_verifyCached_encounter sound
  | none => exact wp_verifyStored_encounter sound nonempty (same ▸ stored)

end Sound

/-! ## From issuance on -/

/-- The session is handed out, and the clock says that it is good. -/
def Good (x : Session) (v : Verification) : Prop :=
  v.1 = .ok x ∧ ∃ now, v.2 = [now] ∧ now < x.expiresAt

/-- The session has expired, and the clock says so. -/
def Late (x : Session) (v : Verification) : Prop :=
  v.1 = .error .expired ∧ ∃ now, v.2 = [now] ∧ x.expiresAt ≤ now

/-- The session is not found. -/
def Lost (v : Verification) : Prop := v.1 = .error .notFound

/-- Some verifications hand out the session, then one at the most comes too late, and from then on
the session is lost. -/
def Life (x : Session) (vs : List Verification) : Prop :=
  ∃ good late lost, vs = good ++ late ++ lost ∧ (∀ v ∈ good, Good x v) ∧
    late.length ≤ 1 ∧ (∀ v ∈ late, Late x v) ∧ ∀ v ∈ lost, Lost v

namespace Life

variable {v : Verification} {vs : List Verification}

theorem lost (lost : ∀ v ∈ vs, Lost v) : Life x vs :=
  ⟨[], [], vs, rfl, by simp, by simp, by simp, lost⟩

theorem late (late : Late x v) (lost : ∀ v ∈ vs, Lost v) : Life x (v :: vs) :=
  ⟨[], [v], vs, rfl, by simp, by simp, by simpa, lost⟩

theorem good (good : Good x v) (life : Life x vs) : Life x (v :: vs) := by
  obtain ⟨goods, late, lost, rfl, rest⟩ := life
  exact ⟨v :: goods, late, lost, rfl, by simpa [good] using rest⟩

end Life

section Turns

variable {u : Turn} {us : List Turn}

/-- What is gone does not come back. -/
theorem lost_of_not_stored (tidy : Tidy m w) (sound : ∀ u ∈ us, u.Sound)
    (nonempty : ¬ token.isEmpty) (absent : ¬ w.Stored (Token.digest token))
    (undrawn : ∀ v ∈ drawnIn m us w, Token.digest v ≠ Token.digest token) :
    ∀ v ∈ verifications m token us w, Lost v := by
  induction us generalizing w with
  | nil => simp [verifications]
  | cons u us ih =>
    have still : ¬ (u.after m w).Stored (Token.digest token) := by
      rintro ⟨y, mem, hash⟩
      refine absent ⟨y, mem_of_mem_after (fun v drawn => undrawn v ?_) mem hash, hash⟩
      exact List.mem_append_left _ drawn
    have rest := ih (tidy.turn (sound u (by simp))) (fun v hv => sound v (by simp [hv])) still
      fun v drawn => undrawn v (List.mem_append_right _ drawn)
    intro v mem
    rw [verifications] at mem
    split at mem
    · rcases List.mem_cons.mp mem with rfl | mem
      · exact verify_of_not_stored tidy id nonempty absent (sound u (by simp))
      · exact rest v mem
    · exact rest v mem

/-- A verification hands out the session that is stored, or comes too late and removes it. -/
theorem good_or_late (tidy : Tidy m w) (sound : ∀ n, (t n).fault = none)
    (nonempty : ¬ token.isEmpty) (stored : w.storage.byHash? (Token.digest token) = some x) :
    Good x (verification m token t w) ∨
      Late x (verification m token t w) ∧
        ¬ (alone t (m.verify token).run w).2.Stored (Token.digest token) := by
  have encounter := post_of_timekeeping (P := fun t => t.fault = none)
    (wp_verify_encounter (fun _ => id) tidy nonempty stored) sound
  rw [List.nil_append] at encounter
  unfold verification
  generalize (alone t (m.verify token).run w).1 = r, (alone t (m.verify token).run w).2 = w',
    (transcript t (m.verify token).run w).clock = c at encounter ⊢
  cases encounter with
  | active early => exact .inl ⟨rfl, _, rfl, early⟩
  | expired gone late => exact .inr ⟨⟨rfl, _, rfl, late⟩, gone⟩

theorem life_of_stored (tidy : Tidy m w) (sound : ∀ u ∈ us, u.Sound) (nonempty : ¬ token.isEmpty)
    (stored : w.storage.byHash? (Token.digest token) = some x)
    (sole : Sole (Token.digest token) x w)
    (undrawn : ∀ v ∈ drawnIn m us w, Token.digest v ≠ Token.digest token) :
    Life x (verifications m token us w) := by
  induction us generalizing w with
  | nil => exact .lost (by simp [verifications])
  | cons u us ih =>
    have tidy' := tidy.turn (sound u (by simp))
    have sound' (v : Turn) (hv : v ∈ us) : v.Sound := sound v (by simp [hv])
    have undrawn' : ∀ v ∈ drawnIn m us (u.after m w), Token.digest v ≠ Token.digest token :=
      fun v drawn => undrawn v (List.mem_append_right _ drawn)
    have sole' : Sole (Token.digest token) x (u.after m w) := fun y mem hash =>
      sole y (mem_of_mem_after (fun v drawn => undrawn v (List.mem_append_left _ drawn)) mem hash)
        hash
    have lost (gone : ¬ (u.after m w).Stored (Token.digest token)) :=
      lost_of_not_stored tidy' sound' nonempty gone undrawn'
    -- The session is still there after the turn, or it is gone for good.
    have rest : Life x (verifications m token us (u.after m w)) := by
      cases found : (u.after m w).storage.byHash? (Token.digest token) with
      | none => exact .lost (lost (Storage.Memory.byHash?_eq_none.mp found))
      | some y =>
        obtain ⟨mem, hash⟩ := Storage.Memory.mem_of_byHash? found
        exact ih tidy' sound' (sole' y mem hash ▸ found) sole' undrawn'
    rw [verifications]
    split
    next order =>
      obtain ⟨o, t⟩ := u
      obtain rfl : o = .verify token := order
      rcases good_or_late tidy (sound _ List.mem_cons_self) nonempty stored with good | ⟨late, gone⟩
      · exact .good good rest
      · exact .late late (lost gone)
    next => exact rest

end Turns

/-- The verifications of a session that was issued go on as they may in the life of a session,
whatever else is done meanwhile, as long as its token is not drawn again. -/
theorem life_of_issued {m : Manager} {settings : Cache.Settings} {before after : List Turn}
    {u : Turn} {w : World} {created : Session.Created}
    (sound : ∀ v ∈ before ++ u :: after, v.Sound)
    (issued : u.order.issued? (u.result m ((fresh settings).world.after m before)) = some created)
    (issue : w = (fresh settings).world.after m (before ++ [u]))
    (spent : created.token ∉ drawnIn m after w)
    (distinct : ∀ v ∈ drawnIn m after w, Token.digest v = Token.digest created.token →
      v = created.token) :
    Life created.session (verifications m created.token after w) := by
  have blank : Tidy m (fresh settings).world := fun _ _ mem => absurd mem List.not_mem_nil
  have tidy : Tidy m w := issue ▸ blank.turns fun v hv => sound v (by simp at hv ⊢; tauto)
  have placed : Placed created w := by
    rw [issue, World.after, List.foldl_append]
    exact post_of_alone (P := fun _ => True) (wp_program_placed u.order) (fun _ => trivial) _ issued
  refine life_of_stored tidy (fun v hv => sound v (by simp [hv])) placed.nonempty placed.stored
    placed.sole fun v drawn same => ?_
  exact spent (distinct v drawn same ▸ drawn)

/-- At the epoch, when the session expires, and at the epoch again. -/
def sampleTurns : List Turn :=
  [⟨.verify sampleToken, fun _ => sampleMoment⟩,
    ⟨.verify sampleToken, fun _ =>
      { sampleMoment with now := sampleCreated.session.expiresAt }⟩,
    ⟨.verify sampleToken, fun _ => sampleMoment⟩]

theorem life_of_issued_sample :
    (verifications sampleManager sampleToken sampleTurns sampleWorld).map Prod.fst =
        [.ok sampleCreated.session, .error .expired, .error .notFound] ∧
      Life sampleCreated.session
        (verifications sampleManager sampleToken sampleTurns sampleWorld) := by
  have undrawn : drawnIn sampleManager sampleTurns sampleWorld = [] := by decide +kernel
  refine ⟨by decide +kernel, ?_⟩
  refine @life_of_issued sampleManager {} [] sampleTurns
    ⟨.create "u" "i" "a", fun _ => sampleMoment⟩ sampleWorld sampleCreated ?_ ?_ rfl ?_ ?_
  · intro v hv n
    simp only [sampleTurns, List.nil_append, List.mem_cons, List.not_mem_nil, or_false] at hv
    rcases hv with rfl | rfl | rfl | rfl <;> rfl
  · decide +kernel
  · rw [undrawn]
    exact List.not_mem_nil
  · rw [undrawn]
    exact fun v mem => absurd mem List.not_mem_nil

end SessionKit.Traffic
