import SessionKit.Proofs.Genuine
import SessionKit.Proofs.Issuance

/-!
# Survival

A session that nobody ends stays in the storage until it expires. Other calls delete under other
digests, by other identifiers and for other users, and what they take for expired has expired when
the clock does not go back. Nor does the cache ever show anything else under the digest. So the
token is accepted all the while, whatever else goes on.
-/

namespace SessionKit.Traffic

open Manager (Request Answer Order History)
open Discipline (history mem_history)

variable {m : Manager} {settings : Cache.Settings} {s s' : State} {ts a b rest : List Transition}
  {t u : Transition} {c d : Nat} {x : Session} {tokenHash : String} {moment moment' : Moment}

/-! ## Readings of the clock -/

theorem mem_readings {r : Request} {y : Answer r} (h : t ∈ ts)
    (asked : t.event = .asked c moment r y) : moment.now ∈ readings ts := by
  apply List.mem_filterMap.mpr
  exact ⟨t, h, by rw [asked]⟩

/-- A clock that does not go back reads no less in a later step. -/
theorem now_le_of_forward {r r' : Request} {y : Answer r} {y' : Answer r'}
    (forward : (readings (a ++ b)).Pairwise (· ≤ ·)) (ht : t ∈ a) (hu : u ∈ b)
    (asked : t.event = .asked c moment r y) (asked' : u.event = .asked d moment' r' y') :
    moment.now ≤ moment'.now := by
  unfold readings at forward
  rw [List.filterMap_append] at forward
  have across := (List.pairwise_append.mp forward).2.2
  apply across
  · exact mem_readings ht asked
  · exact mem_readings hu asked'

/-- What a call was told of the time is what the clock read. -/
theorem reading_of_told {now : Timestamp} (run : Service.Run (service m) s ts s')
    (told : History.Told (history c ts) .now now) :
    ∃ t ∈ ts, ∃ moment, t.event = .asked c moment .now now ∧ moment.now = now := by
  obtain ⟨t, ht, moment, asked⟩ := mem_history.mp told
  obtain ⟨_, answered⟩ := run.answer_eq ht asked
  exact ⟨t, ht, moment, asked, answered.symm⟩

/-- The moments at which the requests of a call were answered. -/
def momentsOf (c : Nat) (ts : List Transition) : List Moment :=
  ts.filterMap fun t =>
    match t.event with
    | .asked d moment _ _ => if d = c then some moment else none
    | _ => none

theorem mem_momentsOf {r : Request} {y : Answer r} (h : t ∈ ts)
    (asked : t.event = .asked c moment r y) : moment ∈ momentsOf c ts := by
  apply List.mem_filterMap.mpr
  exact ⟨t, h, by rw [asked]; exact if_pos rfl⟩

/-! ## What calls find -/

theorem mem_of_byHash_serve {w : World}
    (h : (moment.serve (.store (.byHash tokenHash)) w).1 = .ok x) :
    x ∈ w.storage.sessions ∧ x.tokenHash = tokenHash := by
  rw [serve_store] at h
  rcases store_cases (t := moment) (w := w) (.byHash tokenHash) with ⟨reason, failed⟩ | done
  · rw [failed] at h
    cases h
  · rw [done] at h
    exact Storage.Memory.mem_of_byHash_ok moment.now h

/-- Whom the storage vouches for was stored before. -/
theorem stores_of_vouched (run : Service.Run (service m) (fresh settings) ts s)
    (vouched : Vouched tokenHash x ts) : ∃ u ∈ ts, Stores x u.event := by
  obtain ⟨c, shown | taken⟩ := vouched
  · obtain ⟨t, ht, moment, asked⟩ := mem_history.mp shown
    obtain ⟨a, b, rfl⟩ := List.append_of_mem ht
    obtain ⟨before, step, _⟩ := run.mid
    rw [asked] at step
    have mem := (mem_of_byHash_serve step.answer_eq.1.symm).1
    obtain ⟨u, hu, stores⟩ := stores_of_mem before rfl mem
    exact ⟨u, List.mem_append_left _ hu, stores⟩
  · obtain ⟨t, ht, moment, asked⟩ := mem_history.mp taken
    refine ⟨t, ht, ?_⟩
    rw [asked]
    exact rfl

/-- What a call finds under a digest has this digest, and was stored before. -/
theorem stores_of_found (run : Service.Run (service m) (fresh settings) ts s)
    (found : History.Found (history c ts) tokenHash x) :
    x.tokenHash = tokenHash ∧ ∃ u ∈ ts, Stores x u.event := by
  rcases found with cached | stored
  · obtain ⟨t, ht, moment, asked⟩ := mem_history.mp cached
    obtain ⟨hash, vouched⟩ := genuine_of_lookUp (caches m) (fun _ => rfl) run
      (fresh_idle settings) (fresh_numbered settings) rfl ht asked
    exact ⟨hash, stores_of_vouched run vouched⟩
  · obtain ⟨t, ht, moment, asked⟩ := mem_history.mp stored
    obtain ⟨w, answered⟩ := run.answer_eq ht asked
    exact ⟨(mem_of_byHash_serve answered.symm).2, stores_of_vouched run ⟨c, .inl stored⟩⟩

/-! ## What the storage keeps -/

/-- The order is to end a session. -/
def Ends (x : Session) : Order → Prop
  | .destroy token | .refresh token => Token.digest token = x.tokenHash
  | .destroyById id => id = x.id
  | .destroyOfUser userId => userId = x.userId
  | _ => False

/-- No other session comes under the digest of a session, and no call is begun to end it. -/
structure Undisturbed (x : Session) (ts : List Transition) : Prop where
  unique : ∀ t ∈ ts, ∀ y, Stores y t.event → y.tokenHash = x.tokenHash → y = x
  spared : ∀ t ∈ ts, ∀ c o, t.event = .begun c o → ¬ Ends x o

/-- An order that is not to end a session does not delete it, if it has not found it expired. -/
theorem spares_of_asks {o : Order} {call : Storage.Call} {memory : Storage.Memory} {now : Timestamp}
    (asks : o.Asks (.store call)) (spared : ¬ Ends x o)
    (unique : ∀ y ∈ memory.sessions, y.tokenHash = x.tokenHash → y = x)
    (verified : ∀ token, o = .verify token → call ≠ .deleteByHash x.tokenHash)
    (early : call = .deleteExpired → now < x.expiresAt) : memory.Spares now x call := by
  cases call with
  | deleteByHash k =>
    rintro rfl
    cases o with
    | verify token => exact verified token rfl rfl
    | destroy token => exact spared asks.symm
    | refresh token => exact spared asks.symm
    | _ => exact asks
  | deleteById id =>
    -- What the identifier finds under the digest would be the session itself.
    intro y found hash
    have named : y.id = id := of_decide_eq_true (List.find?_some found :)
    obtain rfl := unique y (List.mem_of_find?_eq_some found) hash
    cases o with
    | destroyById id' => exact spared (asks.symm.trans named.symm)
    | _ => exact asks
  | deleteOfUser userId =>
    intro same
    cases o with
    | destroyOfUser userId' => exact spared (asks.symm.trans same.symm)
    | _ => exact asks
  | deleteExpired => exact Timestamp.not_le_of_lt (early rfl)
  | _ => trivial

/-- Before a session has expired, no call to the storage is one that deletes it. -/
theorem spares_of_asked {call : Storage.Call} {answer : Storage.Answer call}
    (run : Service.Run (service m) (fresh settings) (a ++ t :: b) s)
    (forward : (readings (a ++ t :: b)).Pairwise (· ≤ ·))
    (undisturbed : Undisturbed x (a ++ t :: b))
    (asked : t.event = .asked c moment (.store call) answer) (early : moment.now < x.expiresAt) :
    t.before.world.storage.Spares moment.now x call := by
  obtain ⟨before, _, _⟩ := run.mid
  obtain ⟨o, ⟨u, hu, begun⟩, asks, grounded⟩ :=
    Manager.grounded_of_asked run (fresh_idle settings) (fresh_numbered settings) (fun _ => rfl)
      asked
  have spared : ¬ Ends x o := undisturbed.spared u (List.mem_append_left _ hu) c o begun
  refine spares_of_asks asks spared ?_ ?_ fun _ => early
  · intro y mem hash
    obtain ⟨w, hw, stores⟩ := stores_of_mem before rfl mem
    exact undisturbed.unique w (List.mem_append_left _ hw) y stores hash
  · rintro token rfl rfl
    -- The call has read that the session it found there has expired, and that session is this one.
    obtain ⟨y, now, found, told, late⟩ := grounded
    obtain ⟨hash, w, hw, stores⟩ := stores_of_found before found
    obtain rfl := undisturbed.unique w (List.mem_append_left _ hw) y stores hash
    obtain ⟨w, hw, read, asked', rfl⟩ := reading_of_told before told
    have order := now_le_of_forward forward hw List.mem_cons_self asked' asked
    exact Timestamp.not_le_of_lt early (Timestamp.le_trans late order)

/-- A step leaves a session where it is. -/
theorem byHash?_step (run : Service.Run (service m) (fresh settings) (a ++ t :: b) s)
    (forward : (readings (a ++ t :: b)).Pairwise (· ≤ ·))
    (undisturbed : Undisturbed x (a ++ t :: b))
    (early : ∀ c moment r y, t.event = .asked c moment r y → moment.now < x.expiresAt)
    (kept : t.before.world.storage.byHash? tokenHash = some x) :
    t.after.world.storage.byHash? tokenHash = some x := by
  obtain ⟨before, event, after⟩ := t
  have step : Service.Step (service m) before event after := run.mid.2.1
  cases step with
  | begun o => exact kept
  | returned found => exact kept
  | @asked c moment o r k found =>
    have before_expiry := early c moment r _ rfl
    cases r with
    | store call =>
      have spares := spares_of_asked run forward undisturbed rfl before_expiry
      show ((moment.serve (.store call) before.world).2).storage.byHash? tokenHash = some x
      rw [serve_store]
      rcases store_cases (t := moment) (w := before.world) call with ⟨reason, failed⟩ | done
      · rw [failed]
        exact kept
      · rw [done]
        exact Storage.Memory.byHash?_call_of_spares kept spares
    | _ =>
      show ((moment.serve _ before.world).2).storage.byHash? tokenHash = some x
      rw [storage_serve (by simp)]
      exact kept

/-- A session stays in the storage from some step on until it expires. -/
theorem byHash?_along (run : Service.Run (service m) (fresh settings) (a ++ t :: (b ++ rest)) s)
    (forward : (readings (a ++ t :: (b ++ rest))).Pairwise (· ≤ ·))
    (undisturbed : Undisturbed x (a ++ t :: (b ++ rest)))
    (second : Service.Run (service m) t.after b s')
    (early : ∀ u ∈ b, ∀ c moment r y, u.event = .asked c moment r y → moment.now < x.expiresAt)
    (kept : t.after.world.storage.byHash? tokenHash = some x) :
    s'.world.storage.byHash? tokenHash = some x := by
  induction second generalizing rest with
  | start => exact kept
  | @snoc b p q e second step ih =>
    have parts : a ++ t :: (b ++ [⟨p, e, q⟩] ++ rest) = a ++ t :: (b ++ ⟨p, e, q⟩ :: rest) := by
      simp
    rw [parts] at run forward undisturbed
    have earlier := ih run forward undisturbed fun u hu => early u (by simp [hu])
    -- The last step is one of the run, too.
    have parts' : a ++ t :: (b ++ ⟨p, e, q⟩ :: rest) = (a ++ t :: b) ++ ⟨p, e, q⟩ :: rest := by
      simp
    rw [parts'] at run forward undisturbed
    exact byHash?_step run forward undisturbed (early ⟨p, e, q⟩ (by simp)) earlier

variable {created : Session.Created}

theorem byHash?_of_stores (step : Service.Step (service m) t.before t.event t.after)
    (stores : Stores x t.event) : t.after.world.storage.byHash? x.tokenHash = some x := by
  obtain ⟨c, moment, asked⟩ := eq_of_stores stores
  rw [asked] at step
  obtain ⟨answered, world⟩ := step.answer_eq
  rw [world]
  simp only [serve_store] at answered ⊢
  rcases store_cases (t := moment) (w := t.before.world) (.create x) with ⟨reason, failed⟩ | done
  · rw [failed] at answered
    cases answered
  · rw [done] at answered ⊢
    exact Storage.Memory.byHash?_create_of_ok answered.symm

/-! ## Verification -/

/-- A verification that finds nothing but a good session accepts its token. -/
theorem eq_ok_of_found {h : History} {token : String} {r : Except Session.Error Session}
    (keeps : (Order.verify token).Keeps r h) (nonempty : token ≠ "")
    (hash : x.tokenHash = Token.digest token)
    (found : ∀ y, h.Found (Token.digest token) y → y = x)
    (good : ∀ now, h.Told .now now → now < x.expiresAt)
    (answered : ∀ cause, ¬ h.Told (.store (.byHash (Token.digest token))) (.error cause)) :
    r = .ok x := by
  have nonempty' : ¬ token.isEmpty := by simpa using nonempty
  cases r with
  | ok y =>
    have accepts : h.Accepts token y := keeps
    have same : y = x := found y (accepts.found.imp_right And.left)
    rw [same]
  | error e =>
    have refuses : h.Refuses token := keeps
    exfalso
    cases refuses with
    | empty isEmpty => exact nonempty' isEmpty
    | unfound cause told => exact answered cause told
    | mismatched y told mismatch =>
      apply mismatch
      rw [found y (.inr told), hash, Token.verify_digest nonempty']
      rfl
    | expired expired =>
      obtain ⟨y, now, shown, read, late⟩ := expired
      rw [found y shown] at late
      exact Timestamp.not_le_of_lt (good now read) late

/-- A token is drawn, or presented to a call that would end its session. -/
def Handled (token : String) (ts : List Transition) : Prop :=
  (∃ e, Drew e token ts) ∨ .destroy token ∈ Service.orders ts ∨ .refresh token ∈ Service.orders ts

/-- No call is begun to end the session of a token. -/
def Spared (created : Session.Created) (ts : List Transition) : Prop :=
  ∀ o ∈ Service.orders ts, o ≠ .destroy created.token ∧ o ≠ .refresh created.token ∧
    o ≠ .destroyById created.session.id ∧ o ≠ .destroyOfUser created.session.userId

instance : Decidable (Spared created ts) :=
  inferInstanceAs (Decidable (∀ o ∈ Service.orders ts, _))

/-- The steps of a call come after whatever came before its beginning. -/
theorem split_of_begun {v w : Transition} {o : Order}
    (run : Service.Run (service m) (fresh settings) ts s) (split : ts = a ++ u :: b)
    (begun : u.event = .begun d o) (hv : v ∈ a) (hw : w ∈ ts) (own : w.event.call = d)
    (later : ∀ o', w.event ≠ .begun d o') : ∃ p q r, ts = p ++ v :: (q ++ w :: r) := by
  subst split
  have late := run.mem_of_begun (fresh_numbered settings) begun hw own later
  obtain ⟨p, q, rfl⟩ := List.append_of_mem hv
  obtain ⟨q', r, rfl⟩ := List.append_of_mem late
  exact ⟨p, q ++ u :: q', r, by simp⟩

/-- A session that was stored is found by every later step that comes before it expires. -/
theorem byHash?_before {w : Transition} {r : Request} {y : Answer r}
    (run : Service.Run (service m) (fresh settings) ts s)
    (forward : (readings ts).Pairwise (· ≤ ·)) (undisturbed : Undisturbed x ts)
    (split : ts = a ++ t :: (b ++ w :: rest)) (stores : Stores x t.event)
    (asked : w.event = .asked d moment r y) (early : moment.now < x.expiresAt) :
    w.before.world.storage.byHash? x.tokenHash = some x := by
  subst split
  obtain ⟨_, step, second⟩ := run.mid
  obtain ⟨middle, _, _⟩ := second.mid
  refine byHash?_along run forward undisturbed middle ?_ (byHash?_of_stores step stores)
  intro u hu c moment' r' y' asked'
  -- The clock reads no more in the steps between than in the last one.
  have parts : a ++ t :: (b ++ w :: rest) = (a ++ t :: b) ++ w :: rest := by simp
  rw [parts] at forward
  have order := now_le_of_forward forward (by simp [hu]) List.mem_cons_self asked' asked
  exact Timestamp.lt_of_le_of_lt order early

theorem undisturbed_of_spared (run : Service.Run (service m) (fresh settings) ts s)
    (issued : Issued c created ts) (sole : ∀ e, Drew e created.token ts → e = c)
    (distinct : ∀ u, Handled u ts → Token.digest u = Token.digest created.token →
      u = created.token)
    (spared : Spared created ts) (hash : created.session.tokenHash = Token.digest created.token) :
    Undisturbed created.session ts := by
  constructor
  · intro t ht y stores same
    exact eq_session_of_stores run issued sole (fun e u drew => distinct u (.inl ⟨e, drew⟩)) ht
      stores (same.trans hash)
  · intro t ht e o begun ends
    have mem := Service.mem_orders ht begun
    obtain ⟨notDestroy, notRefresh, notById, notOfUser⟩ := spared o mem
    cases o with
    | destroy token =>
      apply notDestroy
      rw [distinct token (.inr (.inl mem)) (ends.trans hash)]
    | refresh token =>
      apply notRefresh
      rw [distinct token (.inr (.inr mem)) (ends.trans hash)]
    | destroyById id => exact notById (congrArg Order.destroyById ends)
    | destroyOfUser userId => exact notOfUser (congrArg Order.destroyOfUser ends)
    | _ => exact ends

/-- A lookup that does not fail shows what is stored. -/
theorem eq_ok_of_byHash {y : Storage.Answer (.byHash tokenHash)}
    (step : Service.Step (service m) t.before t.event t.after)
    (asked : t.event = .asked c moment (.store (.byHash tokenHash)) y)
    (sound : moment.fault = none)
    (kept : t.before.world.storage.byHash? tokenHash = some x) : y = .ok x := by
  rw [asked] at step
  have answered := step.answer_eq.1
  simp only [serve_store, Moment.store, sound] at answered
  rw [answered, Storage.Memory.byHash_of_some moment.now kept]

/-- Nobody loses a session that nobody ends: whoever presents its token before it expires is let in,
with any cache or none, and whatever else is created, purged, evicted or ended meanwhile. -/
theorem verified_while_spared {m : Manager} {settings : Cache.Settings}
    {created : Session.Created} {ts : List Transition} {s : State} {c d : Nat} {o : Order}
    {r : o.Result} {r' : Except Session.Error Session}
    (run : Service.Run (service m) (fresh settings) ts s)
    (forward : (readings ts).Pairwise (· ≤ ·))
    (issued : o.issued? r = some created)
    (sole : ∀ e, Drew e created.token ts → e = c)
    (distinct : ∀ u, Handled u ts → Token.digest u = Token.digest created.token →
      u = created.token)
    (spared : Spared created ts)
    (order : [Service.Event.returned c o r, .begun d (.verify created.token),
      .returned d (.verify created.token) r'].Sublist (ts.map (·.event)))
    (good : ∀ moment ∈ momentsOf d ts,
      moment.fault = none ∧ moment.now < created.session.expiresAt) :
    r' = .ok created.session := by
  obtain ⟨a, w, b, whole, returned, order⟩ := Service.cons_sublist_events order
  obtain ⟨a', u, b', rfl, begun, order⟩ := Service.cons_sublist_events order
  obtain ⟨a'', v, b'', rfl, accepted, _⟩ := Service.cons_sublist_events order
  have split : ts = (a ++ w :: a') ++ u :: (a'' ++ v :: b'') := by
    rw [whole]
    simp
  have hw : w ∈ ts := by simp [whole]
  have hv : v ∈ ts := by simp [split]
  -- By the return that issues it the session has been stored under the digest of its token.
  have first : Service.Run (service m) (fresh settings) (a ++ [w]) w.after := by
    rw [whole] at run
    obtain ⟨before, step, _⟩ := run.mid
    exact before.snoc step
  obtain ⟨⟨t, ht, stores⟩, hash, nonempty⟩ :=
    stored_of_issues first (issues_of_returned first (by simp) returned issued)
  have earlier : t ∈ a ++ w :: a' := by
    rw [List.append_cons]
    exact List.mem_append_left _ ht
  have undisturbed := undisturbed_of_spared run ⟨w, hw, o, r, returned, issued⟩ sole distinct
    spared hash
  -- All that the verification is told is this session, and that it is good.
  have keeps := Manager.keeps_of_returned run (fresh_idle settings) (fresh_numbered settings)
    (fun _ => rfl) hv accepted
  refine eq_ok_of_found keeps nonempty hash ?_ ?_ ?_
  · intro y found
    obtain ⟨same, z, hz, stores'⟩ := stores_of_found run found
    exact undisturbed.unique z hz y stores' (same.trans hash.symm)
  · intro now told
    obtain ⟨z, hz, moment, asked, rfl⟩ := reading_of_told run told
    exact (good moment (mem_momentsOf hz asked)).2
  · intro cause told
    obtain ⟨z, hz, moment, asked⟩ := mem_history.mp told
    obtain ⟨sound, early⟩ := good moment (mem_momentsOf hz asked)
    obtain ⟨p, q, rest, cut⟩ := split_of_begun run split begun earlier hz (by rw [asked]; rfl)
      (fun o' same => by rw [asked] at same; cases same)
    have kept := byHash?_before run forward undisturbed cut stores asked early
    rw [hash] at kept
    rw [cut] at run
    obtain ⟨_, _, second⟩ := run.mid
    obtain ⟨_, step, _⟩ := second.mid
    exact nomatch eq_ok_of_byHash step asked sound kept

theorem verified_while_spared_sample :
    ∃ ts s, Service.Run (service sampleManager) (fresh {}) ts s ∧
      (readings ts).Pairwise (· ≤ ·) ∧ Spared sampleCreated ts ∧
      [Service.Event.returned 0 (.create "u" "i" "a") (.ok sampleCreated),
        .begun 3 (.verify sampleToken), .returned 3 (.verify sampleToken)
          (.ok sampleCreated.session)].Sublist (ts.map (·.event)) ∧
      (.ok sampleCreated.session : Except Session.Error Session) = .ok sampleCreated.session := by
  -- Another user is signed out meanwhile, and another token is about to be destroyed.
  have play : ((fresh {}).play? (service sampleManager)
      (wholeCall 0 (.create "u" "i" "a") 7 sampleMoment ++
        (wholeCall 1 (.destroyOfUser "v") 2 sampleMoment ++
          .start (.destroy "other") :: .proceed 2 sampleMoment ::
            wholeCall 3 (.verify sampleToken) 2 sampleMoment))).map
      (fun (p : List Transition × State) =>
        (draws p.1, Service.orders p.1, (Service.marks p.1).drop 1,
          decide ((readings p.1).Pairwise (· ≤ ·) ∧ Spared sampleCreated p.1 ∧
            ∀ moment ∈ momentsOf 3 p.1,
              moment.fault = none ∧ moment.now < sampleCreated.session.expiresAt))) =
      some ([(0, sampleToken)],
        [.create "u" "i" "a", .destroyOfUser "v", .destroy "other", .verify sampleToken],
        [(0, .inr ⟨.create "u" "i" "a", .ok sampleCreated⟩), (1, .inl (.destroyOfUser "v")),
          (1, .inr ⟨.destroyOfUser "v", .ok 0⟩), (2, .inl (.destroy "other")),
          (3, .inl (.verify sampleToken)),
          (3, .inr ⟨.verify sampleToken, .ok sampleCreated.session⟩)], true) := by
    decide +kernel
  have other : Token.digest "other" ≠ Token.digest sampleToken := by decide +kernel
  obtain ⟨⟨ts, s⟩, played, seen⟩ := Option.map_eq_some_iff.mp play
  simp only [Prod.mk.injEq] at seen
  obtain ⟨drawn, orders, marks, holds⟩ := seen
  obtain ⟨forward, spared, good⟩ := of_decide_eq_true holds
  have run := Service.Run.of_play? played
  have order : [Service.Event.returned 0 (.create "u" "i" "a") (.ok sampleCreated),
      .begun 3 (.verify sampleToken), .returned 3 (.verify sampleToken)
        (.ok sampleCreated.session)].Sublist (ts.map (·.event)) := by
    have all := ((List.drop_sublist 1 (Service.marks ts)).map Service.Mark.event).trans
      Service.marks_sublist
    rw [marks] at all
    refine .trans ?_ all
    exact .cons_cons _ (.cons _ (.cons _ (.cons _ (.refl _))))
  have drew {e : Nat} {u : String} (h : Drew e u ts) : e = 0 ∧ u = sampleToken := by
    have mem := mem_draws h
    rw [drawn] at mem
    simpa using mem
  have distinct (u : String) (h : Handled u ts) (same : Token.digest u = Token.digest sampleToken) :
      u = sampleToken := by
    rcases h with ⟨e, h⟩ | h | h
    · exact (drew h).2
    · rw [orders] at h
      have own : u = "other" := by simpa using h
      rw [own] at same
      exact absurd same other
    · rw [orders] at h
      simp at h
  refine ⟨ts, s, run, forward, spared, order, ?_⟩
  exact verified_while_spared (o := .create "u" "i" "a") run forward rfl (fun e h => (drew h).1)
    distinct spared order good

end SessionKit.Traffic
