import SessionKit.Proofs.Holders

/-!
# Listing and verifying

A listing shows what is stored of a user, while a verification may rely on the cache alone, and
each looks at the expiry in a place of its own. They agree nonetheless: a session is listed at some
time if and only if a verification of its token would hand it out at that time.
-/

namespace SessionKit

/-! ## Sessions in order -/

namespace Session

theorem newestFirst_perm (sessions : List Session) : (newestFirst sessions).Perm sessions :=
  List.mergeSort_perm _ _

theorem pairwise_newestFirst (sessions : List Session) :
    (newestFirst sessions).Pairwise fun s t => t.createdAt ≤ s.createdAt := by
  have transitive (a b c : Session) (first : decide (b.createdAt ≤ a.createdAt))
      (second : decide (c.createdAt ≤ b.createdAt)) : decide (c.createdAt ≤ a.createdAt) :=
    decide_eq_true (Timestamp.le_trans (of_decide_eq_true second) (of_decide_eq_true first))
  have total (a b : Session) :
      decide (b.createdAt ≤ a.createdAt) || decide (a.createdAt ≤ b.createdAt) := by
    simpa using Timestamp.le_total b.createdAt a.createdAt
  have sorted := List.pairwise_mergeSort transitive total sessions
  exact sorted.imp of_decide_eq_true

end Session

namespace Storage.Memory

variable {m : Memory} {s : Session} {userId : String} {now : Timestamp}

/-- The sessions of a user that have not expired at some time, the newest first. -/
def active (m : Memory) (userId : String) (now : Timestamp) : List Session :=
  Session.newestFirst ((Session.newestFirst (m.sessions.filter fun s => s.userId = userId)).filter
    fun s => !s.isExpiredAt now)

theorem mem_active :
    s ∈ m.active userId now ↔ s ∈ m.sessions ∧ s.userId = userId ∧ ¬ s.isExpiredAt now := by
  rw [active, (Session.newestFirst_perm _).mem_iff, List.mem_filter,
    (Session.newestFirst_perm _).mem_iff, List.mem_filter, and_assoc]
  simp

theorem nodup_active (keyed : m.Keyed) : (m.active userId now).Nodup := by
  have once : m.sessions.Nodup := List.Nodup.of_map _ keyed
  refine (Session.newestFirst_perm _).nodup_iff.mpr (List.Nodup.filter _ ?_)
  exact (Session.newestFirst_perm _).nodup_iff.mpr (once.filter _)

end Storage.Memory

namespace Traffic

variable {w : World} {m : Manager} {t : Nat → Moment} {userId : String}
  {issued : List Session.Created}

/-! ## Runs -/

theorem alone_list (sound : (t 1).fault = none) :
    alone t (m.list userId).run w = (.ok (w.storage.active userId (t 0).now), w) := by
  rw [Manager.list_run, alone]
  exact alone_store (t := fun n => t (n + 1)) sound rfl

/-! ## Those who hold tokens -/

/-- What a listing says of the sessions that were issued. -/
structure Listing (m : Manager) (issued : List Session.Created) (userId : String) (now : Timestamp)
    (w : World) (sessions : List Session) : Prop where
  once : sessions.Nodup
  ordered : sessions.Pairwise fun s t => t.createdAt ≤ s.createdAt
  held : ∀ s ∈ sessions, ∃ created ∈ issued, created.session = s
  /-- Listed is what a verification would hand out at the same time. -/
  verified : ∀ created ∈ issued, ∀ v : Nat → Moment, VerifiedAt now m created.token v w →
    (created.session ∈ sessions ↔
      (alone v (m.verify created.token).run w).1 = .ok created.session ∧
        created.session.userId = userId)

theorem listing_of_kempt {now : Timestamp} (kempt : Kempt m issued w) :
    Listing m issued userId now w (w.storage.active userId now) where
  once := Storage.Memory.nodup_active kempt.keyed
  ordered := Session.pairwise_newestFirst _
  held s listed := kempt.held s (Storage.Memory.mem_active.mp listed).1
  verified created mem v verified := by
    obtain ⟨digest, nonempty⟩ := kempt.genuine created mem
    rw [verify_of_verifiedAt kempt.tidy verified, Storage.Memory.verdict_eq_ok,
      Storage.Memory.mem_active]
    constructor
    · rintro ⟨stored, own, good⟩
      exact ⟨⟨nonempty, digest ▸ kempt.keyed.byHash?_of_mem stored, good⟩, own⟩
    · rintro ⟨⟨_, found, good⟩, own⟩
      exact ⟨(Storage.Memory.mem_of_byHash? found).1, own, good⟩

/-- A listing shows the sessions that a verification of their tokens would hand out at the same
time, in every state to which operations lead that go one after the other. -/
theorem listing_of_turns {m : Manager} {settings : Cache.Settings} {before : List Turn} {w : World}
    {issued : List Session.Created} {t : Nat → Moment} (sound : ∀ u ∈ before, u.Sound)
    (reached : w = (fresh settings).world.after m before)
    (issuance : issued = issuedIn m before (fresh settings).world)
    (answers : ∀ n, (t n).fault = none) (userId : String) :
    ∃ sessions, alone t (m.list userId).run w = (.ok sessions, w) ∧
      Listing m issued userId (t 0).now w sessions := by
  have kempt : Kempt m issued w := by
    rw [reached, issuance]
    exact kempt_after_fresh settings sound
  exact ⟨_, alone_list (answers 1), listing_of_kempt kempt⟩

/-- A user is issued two sessions, an hour apart. -/
def twoSessions : List Turn :=
  [⟨.create "u" "i" "a", fun _ => sampleMoment⟩, ⟨.create "u" "i" "a", fun _ => nextMoment⟩]

theorem listing_of_turns_sample :
    ∃ w issued, w = (fresh {}).world.after sampleManager twoSessions ∧
      issued = issuedIn sampleManager twoSessions (fresh {}).world ∧
      issued = [sampleCreated, nextCreated] ∧
      ∃ sessions, alone (fun _ => nextMoment) (sampleManager.list "u").run w = (.ok sessions, w) ∧
        Listing sampleManager issued "u" nextMoment.now w sessions ∧
        sampleCreated.session ∈ sessions ∧
        (alone (fun _ => nextMoment) (sampleManager.verify sampleToken).run w).1 =
          .ok sampleCreated.session := by
  have sound : ∀ u ∈ twoSessions, u.Sound := by
    intro u hu n
    simp only [twoSessions, List.mem_cons, List.not_mem_nil, or_false] at hu
    rcases hu with rfl | rfl <;> rfl
  have issued : issuedIn sampleManager twoSessions (fresh {}).world =
      [sampleCreated, nextCreated] := by
    decide +kernel
  have mem : sampleCreated ∈ issuedIn sampleManager twoSessions (fresh {}).world :=
    issued ▸ List.mem_cons_self
  obtain ⟨sessions, run, listing⟩ := @listing_of_turns sampleManager {} twoSessions _ _
    (fun _ => nextMoment) sound rfl rfl (fun _ => rfl) "u"
  have listed : sampleCreated.session ∈ sessions := by
    rw [Except.ok.inj (congrArg Prod.fst (run.symm.trans (alone_list rfl))),
      Storage.Memory.mem_active]
    decide +kernel
  have agrees := listing.verified sampleCreated mem _ (verifiedAt_const sampleToken rfl)
  exact ⟨_, _, rfl, rfl, issued, sessions, run, listing, listed, (agrees.mp listed).1⟩

end Traffic
end SessionKit
