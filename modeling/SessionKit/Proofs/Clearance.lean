import SessionKit.Proofs.Holders

/-!
# Deletions of many sessions

A deletion of all sessions of a user, or of all that have expired, takes those sessions out of the
storage and clears the cache if there were any. Whoever holds the token of another session does not
notice.
-/

namespace SessionKit.Traffic

variable {P : Moment → Prop} {w : World} {m : Manager} {t : Nat → Moment}
  {issued : List Session.Created} {picks : Session → Bool}

/-! ## Deletions by themselves -/

/-- What is left of a deletion once it is known how many sessions there were. -/
theorem wp_counted {n : Nat} {level : Level} {message : String}
    {fields : List (String × Event.Value)} :
    (solitude P).wp
      ((if 0 < n then m.invalidateAll else .done ()).bind fun _ =>
        (Manager.log level message fields).bind fun _ => .done (.ok n))
      (fun (r : Except Session.Error Nat) w' => r = .ok n ∧ w'.storage = w.storage) w := by
  have quiet : (if 0 < n then m.invalidateAll else .done ()).Only
      fun r => ∀ call, r ≠ .store call := by
    split
    · exact m.only_invalidateAll (fun _ _ => nofun) fun _ => nofun
    · trivial
  refine Discipline.wp_bind_of (wp_unstored quiet) fun _ w₁ same => ?_
  exact solitude_quiet.wp_log_bind (solitude_done.mpr ⟨rfl, same⟩)

/-- The sessions that are picked are counted and taken out of the storage. -/
structure Deletion (picks : Session → Bool) (w : World)
    (ended : Except Session.Error Nat × World) : Prop where
  counted : ended.1 = .ok (w.storage.sessions.countP picks)
  storage : ended.2.storage = w.storage.without picks

theorem deletion_of_destroyOfUser (userId : String) (sound : (t 0).fault = none) :
    Deletion (fun s => s.userId = userId) w (alone t (m.destroyOfUser userId).run w) := by
  rw [Manager.destroyOfUser_run, alone_store sound rfl]
  obtain ⟨counted, storage⟩ := post_of_alone (P := fun _ => True) wp_counted fun _ => trivial
  exact ⟨counted, storage⟩

theorem deletion_of_purge (sound : (t 0).fault = none) :
    Deletion (·.isExpiredAt (t 0).now) w (alone t m.purge.run w) := by
  rw [Manager.purge_run, alone_store sound rfl]
  obtain ⟨counted, storage⟩ := post_of_alone (P := fun _ => True) wp_counted fun _ => trivial
  exact ⟨counted, storage⟩

/-! ## Those who hold tokens -/

/-- At no time is a token verified in one world otherwise than in the other. -/
def Alike (m : Manager) (token : String) (w w' : World) : Prop :=
  ∀ (now : Timestamp) (v v' : Nat → Moment), VerifiedAt now m token v w →
    VerifiedAt now m token v' w' →
    (alone v (m.verify token).run w).1 = (alone v' (m.verify token).run w').1

theorem alike_of_byHash? {token : String} {w' : World} (tidy : Tidy m w) (tidy' : Tidy m w')
    (same : w'.storage.byHash? (Token.digest token) = w.storage.byHash? (Token.digest token)) :
    Alike m token w w' := by
  intro now v v' verified verified'
  rw [verify_of_verifiedAt tidy verified, verify_of_verifiedAt tidy' verified']
  exact Storage.Memory.verdict_congr same.symm now

/-- What a deletion comes to for those who hold the tokens of sessions that were issued. -/
structure Clearance (m : Manager) (issued : List Session.Created) (picks : Session → Bool)
    (w : World) (ended : Except Session.Error Nat × World) : Prop extends
    Deletion picks w ended where
  /-- The tokens of the sessions that are picked are not found, unless one is drawn again. -/
  gone : ∀ created ∈ issued, picks created.session → ∀ later : List Turn,
    (∀ u ∈ later, u.Sound) →
    (∀ token ∈ drawnIn m later ended.2, Token.digest token ≠ Token.digest created.token) →
    ∀ v : Nat → Moment, (∀ n, (v n).fault = none) →
      (alone v (m.verify created.token).run (ended.2.after m later)).1 = .error .notFound
  /-- The tokens of the others are verified as if there had been no deletion. -/
  kept : ∀ created ∈ issued, ¬ picks created.session → Alike m created.token w ended.2
  /-- And so is any text that is not taken for one of those tokens. -/
  others : ∀ token, (∀ created ∈ issued, picks created.session →
    Token.digest token ≠ Token.digest created.token) → Alike m token w ended.2

theorem clearance_of_deletion {ended : Except Session.Error Nat × World}
    (kempt : Kempt m issued w) (tidy' : Tidy m ended.2)
    (own : ∀ a ∈ issued, ∀ b ∈ issued, Token.digest a.token = Token.digest b.token → a = b)
    (deletion : Deletion picks w ended) : Clearance m issued picks w ended := by
  -- What is stored under the digest of a token was issued with it.
  have holder {token : String} {s : Session} (mem : s ∈ w.storage.sessions)
      (hash : s.tokenHash = Token.digest token) :
      ∃ created ∈ issued, created.session = s ∧
        Token.digest token = Token.digest created.token := by
    obtain ⟨created, mem', rfl⟩ := kempt.held s mem
    exact ⟨created, mem', rfl, hash.symm.trans (kempt.genuine created mem').1⟩
  have others (token : String) (free : ∀ created ∈ issued, picks created.session →
      Token.digest token ≠ Token.digest created.token) : Alike m token w ended.2 := by
    refine alike_of_byHash? kempt.tidy tidy' ?_
    rw [deletion.storage]
    refine Storage.Memory.byHash?_without_of_spared fun s mem hash picked => ?_
    obtain ⟨created, mem', rfl, same⟩ := holder mem hash
    exact free created mem' picked same
  refine { deletion with gone := ?_, kept := ?_, others }
  · intro created mem picked later sound undrawn v faultless
    refine verify_of_not_stored (tidy'.turns sound) id (kempt.genuine created mem).2 ?_ faultless
    rintro ⟨s, stored, hash⟩
    rcases mem_or_drawn_of_mem_after stored with before | ⟨token, drawn, digest⟩
    · rw [deletion.storage] at before
      obtain ⟨before, spared⟩ := Storage.Memory.mem_without.mp before
      obtain ⟨other, mem', rfl, same⟩ := holder before hash
      rw [own created mem other mem' same] at picked
      exact spared picked
    · exact undrawn token drawn (digest.trans hash)
  · intro created mem spared
    refine others created.token fun other mem' picked same => ?_
    rw [own created mem other mem' same] at spared
    exact spared picked

/-- A deletion of all sessions of a user, and one of all that have expired, hit the sessions that
they are to hit and no others, in every state to which operations lead that go one after the
other. -/
theorem clearance_of_turns {m : Manager} {settings : Cache.Settings} {before : List Turn}
    {w : World} {issued : List Session.Created} {t : Nat → Moment}
    (sound : ∀ u ∈ before, u.Sound) (reached : w = (fresh settings).world.after m before)
    (issuance : issued = issuedIn m before (fresh settings).world)
    (distinct : (issued.map (·.token)).Nodup)
    (digests : ∀ a ∈ issued, ∀ b ∈ issued, Token.digest a.token = Token.digest b.token →
      a.token = b.token)
    (answers : ∀ n, (t n).fault = none) :
    (∀ userId, Clearance m issued (fun s => s.userId = userId) w
      (alone t (m.destroyOfUser userId).run w)) ∧
    Clearance m issued (·.isExpiredAt (t 0).now) w (alone t m.purge.run w) := by
  have kempt : Kempt m issued w := by
    rw [reached, issuance]
    exact kempt_after_fresh settings sound
  have own : ∀ a ∈ issued, ∀ b ∈ issued,
      Token.digest a.token = Token.digest b.token → a = b := fun a ha b hb same =>
    List.inj_on_of_nodup_map distinct ha hb (digests a ha b hb same)
  constructor
  · intro userId
    have tidy' := settled_program (t := t) kempt.tidy (.destroyOfUser userId) fun _ => nofun
    exact clearance_of_deletion kempt tidy' own (deletion_of_destroyOfUser userId (answers 0))
  · have tidy' := settled_program (t := t) kempt.tidy .purge fun _ => nofun
    exact clearance_of_deletion kempt tidy' own (deletion_of_purge (answers 0))

/-- Two users are issued sessions, an hour apart. -/
def twoUsers : List Turn :=
  [⟨.create "u" "i" "a", fun _ => sampleMoment⟩, ⟨.create "v" "i" "a", fun _ => nextMoment⟩]

/-- When the first of their sessions expires. -/
def expiryMoment : Moment := { sampleMoment with now := sampleCreated.session.expiresAt }

theorem sound_twoUsers : ∀ u ∈ twoUsers, u.Sound := by
  intro u hu n
  simp only [twoUsers, List.mem_cons, List.not_mem_nil, or_false] at hu
  rcases hu with rfl | rfl <;> rfl

theorem clearance_of_turns_sample :
    ∃ w issued, w = (fresh {}).world.after sampleManager twoUsers ∧
      issued = issuedIn sampleManager twoUsers (fresh {}).world ∧
      issued.map (·.session.userId) = ["u", "v"] ∧
      w.storage.sessions.countP (fun s => s.userId = "u") = 1 ∧
      w.storage.sessions.countP (·.isExpiredAt expiryMoment.now) = 1 ∧
      Clearance sampleManager issued (fun s => s.userId = "u") w
        (alone (fun _ => expiryMoment) (sampleManager.destroyOfUser "u").run w) ∧
      Clearance sampleManager issued (·.isExpiredAt expiryMoment.now) w
        (alone (fun _ => expiryMoment) sampleManager.purge.run w) := by
  have tokens : (issuedIn sampleManager twoUsers (fresh {}).world).map (·.token) =
      [sampleToken, nextCreated.token] := by
    decide +kernel
  have distinct : ((issuedIn sampleManager twoUsers (fresh {}).world).map (·.token)).Nodup := by
    rw [tokens]
    decide +kernel
  have digests : ∀ a ∈ issuedIn sampleManager twoUsers (fresh {}).world,
      ∀ b ∈ issuedIn sampleManager twoUsers (fresh {}).world,
        Token.digest a.token = Token.digest b.token → a.token = b.token := by
    decide +kernel
  obtain ⟨ofUser, purged⟩ := clearance_of_turns (t := fun _ => expiryMoment) sound_twoUsers rfl rfl
    distinct digests fun _ => rfl
  exact ⟨_, _, rfl, rfl, by decide +kernel, by decide +kernel, by decide +kernel, ofUser "u",
    purged⟩

end SessionKit.Traffic
