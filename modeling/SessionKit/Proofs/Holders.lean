import SessionKit.Proofs.Succession

/-!
# Who holds the stored sessions

In a sequence of operations every session that is stored was issued by one of them, together with
the token under whose digest it is stored. So what happens to the sessions in the storage can be
told as what happens to those who hold their tokens.
-/

namespace SessionKit

/-! ## Storages with one session for each digest -/

namespace Storage.Memory

variable {m : Memory} {s : Session}

theorem Keyed.byHash?_of_mem (keyed : m.Keyed) (mem : s ∈ m.sessions) :
    m.byHash? s.tokenHash = some s := by
  cases found : m.byHash? s.tokenHash with
  | none => exact absurd ⟨s, mem, rfl⟩ (byHash?_eq_none.mp found)
  | some t => rw [keyed.eq_of_byHash? found mem rfl]

end Storage.Memory

namespace Traffic

variable {w : World} {m : Manager} {u : Turn} {us : List Turn} {s : Session}
  {created : Session.Created}

/-! ## What is issued -/

/-- The sessions that are issued in some turns, with their tokens. -/
def issuedIn (m : Manager) : List Turn → World → List Session.Created
  | [], _ => []
  | u :: us, w => (u.order.issued? (u.result m w)).toList ++ issuedIn m us (u.after m w)

theorem mem_issuedIn_cons : created ∈ issuedIn m (u :: us) w ↔
    u.order.issued? (u.result m w) = some created ∨ created ∈ issuedIn m us (u.after m w) := by
  rw [issuedIn, List.mem_append, Option.mem_toList]

theorem placed_of_issued (issued : u.order.issued? (u.result m w) = some created) :
    Placed created (u.after m w) :=
  post_of_alone (P := fun _ => True) (wp_program_placed u.order) (fun _ => trivial) _ issued

/-- Whoever is issued a session holds a token that is not empty, and the session has its digest. -/
theorem held_of_issued (issued : created ∈ issuedIn m us w) :
    created.session.tokenHash = Token.digest created.token ∧ ¬ created.token.isEmpty := by
  induction us generalizing w with
  | nil => exact absurd issued List.not_mem_nil
  | cons u us ih =>
    rcases mem_issuedIn_cons.mp issued with first | rest
    · have placed := placed_of_issued first
      exact ⟨(Storage.Memory.mem_of_byHash? placed.stored).2, placed.nonempty⟩
    · exact ih rest

/-! ## What is stored -/

/-- Whatever is stored after some turns was stored before or has been issued in them. -/
theorem mem_or_issued_of_mem_after (mem : s ∈ (w.after m us).storage.sessions) :
    s ∈ w.storage.sessions ∨ ∃ created ∈ issuedIn m us w, created.session = s := by
  induction us generalizing w with
  | nil => exact .inl mem
  | cons u us ih =>
    rcases ih mem with earlier | ⟨created, issued, same⟩
    · have delivers : Delivers (fun _ => True) m u.order w (u.result m w) (u.after m w) :=
        post_of_alone (wp_program_delivers u.order) fun _ => trivial
      refine (delivers s earlier).imp_right ?_
      rintro ⟨created, issued, same, _⟩
      exact ⟨created, mem_issuedIn_cons.mpr (.inl issued), same⟩
    · exact .inr ⟨created, mem_issuedIn_cons.mpr (.inr issued), same⟩

/-! ## States that are reached -/

/-- What is known of a world to which turns lead from an empty one. -/
structure Kempt (m : Manager) (issued : List Session.Created) (w : World) : Prop where
  tidy : Tidy m w
  keyed : w.storage.Keyed
  held : ∀ s ∈ w.storage.sessions, ∃ created ∈ issued, created.session = s
  genuine : ∀ created ∈ issued,
    created.session.tokenHash = Token.digest created.token ∧ ¬ created.token.isEmpty

theorem kempt_after_fresh (settings : Cache.Settings) (sound : ∀ u ∈ us, u.Sound) :
    Kempt m (issuedIn m us (fresh settings).world) ((fresh settings).world.after m us) where
  tidy :=
    Tidy.turns (w := (fresh settings).world) (fun _ _ mem => absurd mem List.not_mem_nil) sound
  keyed := keyed_after List.nodup_nil
  held _ mem := (mem_or_issued_of_mem_after mem).resolve_left List.not_mem_nil
  genuine _ := held_of_issued

end Traffic
end SessionKit
