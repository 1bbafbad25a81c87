import SessionKit.Proofs.Orders

/-!
# Rules for the programs of a manager

How a discipline goes through the pieces that the operations are made of, and which kinds of
requests the operations make.
-/

namespace SessionKit

open Manager (Request Answer Action)

/-! ## Disciplines -/

namespace Discipline

variable {Knowledge α β : Type} {D : Discipline Request Answer Knowledge} {g : Knowledge}

theorem wp_andThen {p : Action (Except Session.Error α)}
    {f : α → Action (Except Session.Error β)} {mid : Except Session.Error α → Knowledge → Prop}
    {post : Except Session.Error β → Knowledge → Prop} (h : D.wp p mid g)
    (ok : ∀ a g, mid (.ok a) g → D.wp (f a) post g)
    (error : ∀ e g, mid (.error e) g → D.wp (.done (.error e)) post g) :
    D.wp (Manager.andThen p f) post g := by
  refine wp_bind_of h fun x g hx => ?_
  cases x with
  | ok a => exact ok a g hx
  | error e => exact error e g hx

/-- Log lines may always be written, and nothing is learnt from them. -/
structure Quiet (D : Discipline Request Answer Knowledge) : Prop where
  allows : ∀ e g, D.allows (.log e) g
  learns : ∀ {e x g g'}, D.learns (.log e) x g g' → D.later g g'

theorem Quiet.wp_log (quiet : D.Quiet) {level : Level} {message : String}
    {fields : List (String × Event.Value)} {post : Unit → Knowledge → Prop}
    (h : ∀ g', D.later g g' → post () g') :
    D.wp (Manager.log level message fields) post g := by
  intro g₁ h₁
  refine ⟨quiet.allows _ _, fun x g₂ learnt g₃ h₃ => ?_⟩
  exact h g₃ (D.later_trans h₁ (D.later_trans (quiet.learns learnt) h₃))

/-- A log line in front of a program changes nothing. -/
theorem Quiet.wp_log_bind (quiet : D.Quiet) {level : Level} {message : String}
    {fields : List (String × Event.Value)} {p : Action α} {post : α → Knowledge → Prop}
    (h : D.wp p post g) :
    D.wp ((Manager.log level message fields).bind fun _ => p) post g :=
  wp_bind.mpr (quiet.wp_log fun _ later => wp_later h later)

end Discipline

/-! ## Kinds of requests -/

namespace Manager

open Program

variable {α β : Type} {P : Request → Prop} (m : Manager) {tokenHash token id userId : String}

theorem only_andThen {p : Action (Except Session.Error α)}
    {f : α → Action (Except Session.Error β)} (hp : p.Only P) (hf : ∀ a, (f a).Only P) :
    (andThen p f).Only P := by
  refine hp.bind fun x => ?_
  cases x with
  | ok a => exact hf a
  | error e => trivial

theorem only_store {operation : String} {call : Storage.Call} (h : P (.store call)) :
    (store operation call).run.Only P := by
  refine ⟨h, fun x => ?_⟩
  cases x <;> trivial

theorem only_storeFound {operation : String} {call : Storage.Call} (h : P (.store call)) :
    (storeFound operation call).run.Only P := by
  rw [storeFound_run]
  refine ⟨h, fun x => ?_⟩
  rcases x with (_ | _) | _ <;> trivial

theorem only_drawCredentials (tokens : ∀ n, P (.token n))
    (identifiers : ∀ a n, P (.identifier a n)) : m.drawCredentials.run.Only P := by
  rw [drawCredentials_run]
  refine ⟨tokens _, fun x => ?_⟩
  cases x with
  | error cause => trivial
  | ok pair =>
    refine ⟨identifiers _ _, fun y => ?_⟩
    cases y <;> trivial

theorem only_currentGeneration (generation : P .generation) : m.currentGeneration.Only P := by
  unfold currentGeneration
  split
  · exact ⟨generation, fun _ => trivial⟩
  · trivial

theorem only_removeExpired (delete : P (.store (.deleteByHash tokenHash))) :
    (removeExpired tokenHash).Only P := by
  rw [removeExpired_run]
  refine ⟨delete, fun x => ?_⟩
  rcases x with (_ | _) | _ <;> trivial

section Logs

variable (logs : ∀ e, P (.log e))

include logs

theorem only_log {level : Level} {message : String} {fields : List (String × Event.Value)} :
    (log level message fields).Only P := ⟨logs _, fun _ => trivial⟩

theorem only_cacheGet (lookUp : P (.lookUp tokenHash)) : (m.cacheGet tokenHash).Only P := by
  by_cases cached : m.cached
  · rw [cacheGet_cached m cached]
    refine ⟨lookUp, fun x => ?_⟩
    cases x with
    | ok hit => trivial
    | error e => exact (only_log logs).bind fun _ => trivial
  · rw [cacheGet, if_neg cached]
    trivial

theorem only_cacheFill {n : UInt64} {s : Session}
    (fill : m.cached = true → P (.fill n tokenHash s)) :
    (m.cacheFill n tokenHash s).Only P := by
  by_cases cached : m.cached
  · rw [cacheFill_cached m cached]
    refine ⟨fill cached, fun filled => ?_⟩
    cases filled with
    | done => trivial
    | outdated => exact only_log logs
    | failed e => exact only_log logs
  · rw [cacheFill, if_neg cached]
    trivial

theorem only_invalidate (drop : P (.invalidate tokenHash)) : (m.invalidate tokenHash).Only P := by
  by_cases cached : m.cached
  · rw [invalidate_cached m cached]
    refine ⟨drop, fun x => ?_⟩
    cases x with
    | ok _ => trivial
    | error e => exact only_log logs
  · rw [invalidate, if_neg cached]
    trivial

theorem only_invalidateAll (clear : P .invalidateAll) : m.invalidateAll.Only P := by
  by_cases cached : m.cached
  · rw [invalidateAll_cached m cached]
    refine ⟨clear, fun x => ?_⟩
    cases x with
    | ok _ => trivial
    | error e => exact only_log logs
  · rw [invalidateAll, if_neg cached]
    trivial

theorem only_create {ipAddress userAgent : String} (tokens : ∀ n, P (.token n))
    (identifiers : ∀ a n, P (.identifier a n)) (now : P .now) (generation : P .generation)
    (create : ∀ s, s.userId = userId → P (.store (.create s)))
    (fill : m.cached = true → ∀ n k s, P (.fill n k s)) :
    (m.create userId ipAddress userAgent).run.Only P := by
  rw [create_run]
  refine only_andThen (m.only_drawCredentials tokens identifiers) fun x => ⟨now, fun y => ?_⟩
  cases h : Timestamp.add? y m.settings.maxAge with
  | none =>
    rw [createAt_none m h]
    trivial
  | some expiresAt =>
    rw [createAt_some m h]
    refine (m.only_currentGeneration generation).bind fun n => ?_
    refine only_andThen (only_store (create _ rfl)) fun _ => ?_
    exact (m.only_cacheFill logs fun cached => fill cached _ _ _).bind fun _ =>
      (only_log logs).bind fun _ => trivial

theorem only_verifyCached {s : Session} (now : P .now)
    (delete : P (.store (.deleteByHash tokenHash))) (drop : P (.invalidate tokenHash)) :
    (m.verifyCached tokenHash s).run.Only P := by
  rw [verifyCached_run]
  refine ⟨now, fun (y : Timestamp) => ?_⟩
  show Only P (ite (s.isExpiredAt y = true) _ _)
  split
  · refine (only_log logs).bind fun _ => (only_removeExpired delete).bind fun _ => ?_
    exact (m.only_invalidate logs drop).bind fun _ => trivial
  · trivial

theorem only_verifyStored (generation : P .generation) (find : P (.store (.byHash tokenHash)))
    (now : P .now) (delete : P (.store (.deleteByHash tokenHash)))
    (fill : m.cached = true → ∀ n s, P (.fill n tokenHash s)) :
    (m.verifyStored token tokenHash).run.Only P := by
  rw [verifyStored_run]
  refine (m.only_currentGeneration generation).bind fun n => ?_
  refine only_andThen (only_storeFound find) fun s => ?_
  split
  · exact (only_log logs).bind fun _ => trivial
  · refine ⟨now, fun (y : Timestamp) => ?_⟩
    show Only P (ite (s.isExpiredAt y = true) _ _)
    split
    · exact (only_log logs).bind fun _ => (only_removeExpired delete).bind fun _ => trivial
    · exact (m.only_cacheFill logs fun cached => fill cached _ _).bind fun _ => trivial

theorem only_verify (lookUp : P (.lookUp (Token.digest token))) (generation : P .generation)
    (find : P (.store (.byHash (Token.digest token)))) (now : P .now)
    (delete : P (.store (.deleteByHash (Token.digest token))))
    (drop : P (.invalidate (Token.digest token)))
    (fill : m.cached = true → ∀ n s, P (.fill n (Token.digest token) s)) :
    (m.verify token).run.Only P := by
  rw [verify_run]
  split
  · trivial
  · refine (m.only_cacheGet logs lookUp).bind fun hit => ?_
    cases hit with
    | none => exact m.only_verifyStored logs generation find now delete fill
    | some s => exact m.only_verifyCached logs now delete drop

theorem only_destroy (delete : P (.store (.deleteByHash (Token.digest token))))
    (drop : P (.invalidate (Token.digest token))) : (m.destroy token).run.Only P := by
  rw [destroy_run]
  split
  · trivial
  · refine ⟨delete, fun deleted => (m.only_invalidate logs drop).bind fun _ => ?_⟩
    rcases deleted with (_ | _) | _
    · trivial
    · trivial
    · exact (only_log logs).bind fun _ => trivial

theorem only_destroyById (find : P (.store (.byId id))) (delete : P (.store (.deleteById id)))
    (drop : ∀ k, P (.invalidate k)) : (m.destroyById id).run.Only P := by
  rw [destroyById_run]
  refine ⟨find, fun found => ⟨delete, fun deleted => Only.bind ?_ fun _ => ?_⟩⟩
  · cases found with
    | ok s => exact m.only_invalidate logs (drop _)
    | error _ => trivial
  · rcases deleted with (_ | _) | _
    · exact (only_log logs).bind fun _ => trivial
    · trivial
    · exact (only_log logs).bind fun _ => trivial

/-- What follows a deletion of many sessions. -/
theorem only_invalidateAll_if {removed : Nat} {p : Action β} (clear : P .invalidateAll)
    (hp : p.Only P) :
    ((if 0 < removed then m.invalidateAll else .done ()).bind fun _ => p).Only P := by
  split
  · exact (m.only_invalidateAll logs clear).bind fun _ => hp
  · exact hp

theorem only_destroyOfUser (delete : P (.store (.deleteOfUser userId)))
    (clear : P .invalidateAll) : (m.destroyOfUser userId).run.Only P := by
  rw [destroyOfUser_run]
  refine only_andThen (only_store delete) fun removed => m.only_invalidateAll_if logs clear ?_
  exact (only_log logs).bind fun _ => trivial

theorem only_purge (delete : P (.store .deleteExpired)) (clear : P .invalidateAll) :
    m.purge.run.Only P := by
  rw [purge_run]
  refine only_andThen (only_store delete) fun removed => m.only_invalidateAll_if logs clear ?_
  exact (only_log logs).bind fun _ => trivial

end Logs

theorem only_list (now : P .now) (find : P (.store (.ofUser userId))) :
    (m.list userId).run.Only P := by
  rw [list_run]
  exact ⟨now, fun _ => only_andThen (only_store find) fun _ => trivial⟩

theorem only_get (find : P (.store (.byId id))) : (m.get id).run.Only P :=
  only_storeFound find

/-! ## What an order asks for -/

/-- The requests that an order may make, with their arguments as far as the order tells them. -/
def Order.Asks (o : Order) : Request → Prop
  | .log _ => True
  | .now => match o with
    | .create _ _ _ | .verify _ | .refresh _ | .list _ => True
    | _ => False
  | .token _ | .identifier _ _ | .store (.create _) => match o with
    | .create _ _ _ | .refresh _ => True
    | _ => False
  | .generation | .fill _ _ _ => match o with
    | .create _ _ _ | .verify _ | .refresh _ => True
    | _ => False
  | .lookUp k | .store (.byHash k) => match o with
    | .verify token | .refresh token => k = Token.digest token
    | _ => False
  | .store (.deleteByHash k) => match o with
    | .verify token | .destroy token | .refresh token => k = Token.digest token
    | _ => False
  | .invalidate k => match o with
    | .verify token | .destroy token | .refresh token => k = Token.digest token
    | .destroyById _ => True
    | _ => False
  | .store (.byId k) => match o with
    | .destroyById id | .get id => k = id
    | _ => False
  | .store (.deleteById k) => match o with
    | .destroyById id => k = id
    | _ => False
  | .store (.ofUser u) => match o with
    | .list userId => u = userId
    | _ => False
  | .store (.deleteOfUser u) => match o with
    | .destroyOfUser userId => u = userId
    | _ => False
  | .store .deleteExpired => o = .purge
  | .invalidateAll => match o with
    | .destroyOfUser _ | .purge => True
    | _ => False

theorem Order.only_program (o : Order) : (o.program m).Only o.Asks := by
  cases o with
  | create userId ipAddress userAgent =>
    exact m.only_create (fun _ => trivial) (fun _ => trivial) (fun _ _ => trivial) trivial trivial
      (fun _ _ => trivial) (fun _ _ _ _ => trivial)
  | verify token =>
    exact m.only_verify (fun _ => trivial) rfl trivial rfl trivial rfl rfl (fun _ _ _ => trivial)
  | destroy token => exact m.only_destroy (fun _ => trivial) rfl rfl
  | destroyById id => exact m.only_destroyById (fun _ => trivial) rfl rfl (fun _ => trivial)
  | destroyOfUser userId => exact m.only_destroyOfUser (fun _ => trivial) rfl trivial
  | refresh token =>
    show Only _ (m.refresh token).run
    rw [refresh_run]
    have logs : ∀ e, (Order.refresh token).Asks (.log e) := fun _ => trivial
    refine only_andThen (m.only_verify logs rfl trivial rfl trivial rfl rfl fun _ _ _ => trivial)
      fun old => ?_
    refine only_andThen (m.only_destroy logs rfl rfl) fun _ => ?_
    refine only_andThen (m.only_create logs (fun _ => trivial) (fun _ _ => trivial) trivial
      trivial (fun _ _ => trivial) fun _ _ _ _ => trivial) fun _ => ?_
    exact (only_log logs).bind fun _ => trivial
  | list userId => exact m.only_list trivial rfl
  | get id => exact m.only_get rfl
  | purge => exact m.only_purge (fun _ => trivial) rfl trivial

end Manager
end SessionKit
