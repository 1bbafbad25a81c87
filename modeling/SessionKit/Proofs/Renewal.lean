import SessionKit.Proofs.Tally

/-!
# Refreshes beside a sign-out

A refresh deletes the old session and stores the new one in separate steps. If the sessions of the
user are ended between the two, the new session is not among them. Whatever is left of the user's
sessions after a sign-out has escaped in this way, or was refreshed from one that has.
-/

namespace SessionKit

namespace Manager

open Discipline History

variable {m : Manager} {o : Order} {h : History} {token : String}

/-- Before a refresh offers its session to the storage, it has found the old one, which is of the
same user, and has deleted it. -/
def Order.Renews (o : Order) : Request → History → Prop
  | .store (.create x), h => ∀ token, o = .refresh token →
      (∃ old, h.Found (Token.digest token) old ∧ old.userId = x.userId) ∧
        h.Told (.store (.deleteByHash (Token.digest token))) (.ok ())
  | _, _ => True

theorem renews_of_ne {r : Request} (other : ∀ x, r ≠ .store (.create x)) : o.Renews r h := by
  cases r with
  | store call =>
    cases call with
    | create x => exact absurd rfl (other x)
    | _ => trivial
  | _ => trivial

theorem wp_renews_refresh (token : String) :
    (remembering (Order.refresh token).Renews).wp (m.refresh token).run (fun _ _ => True) [] := by
  -- What verifies or destroys stores nothing, so it may also be part of a refresh.
  have part {o' : Order} (none : ∀ x, ¬ o'.Asks (.store (.create x))) (r : Request) (h : History)
      (asks : o'.Asks r) (_ : o'.Grounded r h) : (Order.refresh token).Renews r h := by
    apply renews_of_ne
    intro x same
    rw [same] at asks
    exact none x asks
  have failed {e : Session.Error} {h : History} :
      (remembering (Order.refresh token).Renews).wp
        (.done (.error e : Except Session.Error Session.Created)) (fun _ _ => True) h :=
    remembering_done.mpr trivial
  have verified := remembering_weaken (part fun _ => id) ((Order.verify token).only_program m)
    (wp_verify token)
  have destroyed := fun h => remembering_keeping (remembering_weaken (part fun _ => id)
    ((Order.destroy token).only_program m) (wp_destroy (h := h) token trivial))
    ((Order.destroy token).only_program m)
  rw [refresh_run]
  refine wp_andThen verified ?_ fun _ _ _ => failed
  intro old h₁ accepts
  have found : Found h₁ (Token.digest token) old := accepts.found.imp_right And.left
  refine wp_andThen (destroyed h₁) ?_ fun _ _ _ => failed
  rintro _ h₂ ⟨ended, more, grown, _⟩
  have deleted := told_of_destroyed _ ended
  have longer : h₁ <+: h₂ := grown ▸ List.prefix_append _ _
  have created : (remembering (Order.refresh token).Renews).wp
      (m.create old.userId old.ipAddress old.userAgent).run (fun _ _ => True) h₂ := by
    apply remembering_of_only (P := fun r => ∀ x, r = .store (.create x) → x.userId = old.userId)
    · intro r h' longer' user
      by_cases creates : ∃ x, r = .store (.create x)
      · obtain ⟨x, rfl⟩ := creates
        intro token' same
        cases same
        have since := found.mono (longer.trans longer')
        exact ⟨⟨old, since, (user x rfl).symm⟩, deleted.mono longer'⟩
      · exact renews_of_ne fun x same => creates ⟨x, same⟩
    · refine m.only_create (fun _ _ => nofun) (fun _ _ => nofun) (fun _ _ _ => nofun)
        (fun _ => nofun) (fun _ => nofun) ?_ (fun _ _ _ _ _ => nofun)
      rintro x user _ same
      cases same
      exact user
  refine wp_andThen created ?_ fun _ _ _ => failed
  intro _ h₃ _
  apply remembering_of_only (P := fun r => ∀ x, r ≠ .store (.create x))
  · intro r h' _ other
    exact renews_of_ne other
  · exact (only_log fun _ _ => nofun).bind fun _ => trivial

theorem wp_renews (o : Order) : (remembering o.Renews).wp (o.program m) (fun _ _ => True) [] := by
  have free (other : ∀ token, o ≠ .refresh token) :
      (remembering o.Renews).wp (o.program m) (fun _ _ => True) [] := by
    apply remembering_of_only (P := o.Asks)
    · intro r h' _ _
      by_cases creates : ∃ x, r = .store (.create x)
      · obtain ⟨x, rfl⟩ := creates
        intro token same
        exact absurd same (other token)
      · exact renews_of_ne fun x same => creates ⟨x, same⟩
    · exact o.only_program m
  cases o with
  | refresh token => exact wp_renews_refresh token
  | _ => exact free fun _ => nofun

end Manager

namespace Traffic

open Manager (Request Answer Order History)
open Discipline (history mem_history)

variable {m : Manager} {settings : Cache.Settings} {s s' : State} {ts us a b : List Transition}
  {t u v w d : Transition} {c f : Nat} {x y : Session} {token tokenHash userId : String} {n : Nat}
  {moment moment' moment'' : Moment}

/-! ## Sessions that escape -/

/-- A session was stored by a refresh that had ended its old session before the user was signed out,
and stored the new one after that; or by a refresh of a session that has so escaped. -/
inductive Escaped (userId : String) (ts : List Transition) : Session → Prop
  | straddled {c f n : Nat} {token : String} {x : Session} {moment moment' moment'' : Moment}
    (order : [Service.Event.begun f (.refresh token),
      .asked f moment (.store (.deleteByHash (Token.digest token))) (.ok ()),
      .asked c moment' (.store (.deleteOfUser userId)) (.ok n),
      .asked f moment'' (.store (.create x)) (.ok ())].Sublist (ts.map (·.event))) :
    Escaped userId ts x
  | renewed {f : Nat} {token : String} {x y : Session} {moment moment' : Moment}
    (old : Escaped userId ts y) (hash : y.tokenHash = Token.digest token)
    (order : [Service.Event.begun f (.refresh token),
      .asked f moment (.store (.deleteByHash (Token.digest token))) (.ok ()),
      .asked f moment' (.store (.create x)) (.ok ())].Sublist (ts.map (·.event))) :
    Escaped userId ts x

theorem Escaped.mono (h : Escaped userId ts x) (sub : ts.Sublist us) : Escaped userId us x := by
  induction h with
  | straddled order => exact .straddled (order.trans (sub.map _))
  | renewed _ hash order ih => exact .renewed ih hash (order.trans (sub.map _))

/-! ## What a run stores -/

/-- A deletion that succeeds finds something to delete. -/
theorem stored_of_deleteByHash_ok (step : Service.Step (service m) t.before t.event t.after)
    (asked : t.event = .asked c moment (.store (.deleteByHash tokenHash)) (.ok ())) :
    t.before.world.Stored tokenHash := by
  rw [asked] at step
  have answered := step.answer_eq.1
  simp only [serve_store] at answered
  rcases store_cases (t := moment) (w := t.before.world) (.deleteByHash tokenHash) with
    ⟨reason, failed⟩ | done
  · rw [failed] at answered
    cases answered
  · by_contra absent
    rw [done] at answered
    simp only [Storage.Memory.call, Storage.Memory.deleteByHash,
      Storage.Memory.byHash?_eq_none.mpr absent] at answered
    cases answered

/-- There is one session at the most that is ever stored under the digest of a token. -/
theorem Distinct.eq_of_stores (distinct : Distinct token ts)
    (run : Service.Run (service m) (fresh settings) ts s) (ht : t ∈ ts) (stores : Stores x t.event)
    (hash : x.tokenHash = Token.digest token) (hw : w ∈ ts) (stores' : Stores y w.event)
    (hash' : y.tokenHash = Token.digest token) : x = y := by
  have few := countP_creations_le_one run distinct
  rw [List.countP_eq_length_filter] at few
  have member {z : Session} {v : Transition} (hv : v ∈ ts) (stores : Stores z v.event)
      (hash : z.tokenHash = Token.digest token) :
      z ∈ (creations ts).filter fun x => x.tokenHash = Token.digest token :=
    List.mem_filter.mpr ⟨mem_creations.mpr ⟨v, hv, stores⟩, decide_eq_true hash⟩
  have hx := member ht stores hash
  have hy := member hw stores' hash'
  generalize (creations ts).filter _ = found at few hx hy
  match found with
  | [] => cases hx
  | [z] => exact (List.mem_singleton.mp hx).trans (List.mem_singleton.mp hy).symm
  | _ :: _ :: _ => simp at few

/-! ## After a sign-out -/

/-- A call that stores a session while users are signed out and tokens are refreshed is a refresh.
It has found and deleted the session of its token. -/
theorem refreshes_of_stores (run : Service.Run (service m) s (a ++ t :: b) s') (idle : s.Idle)
    (numbered : s.Numbered)
    (only : ∀ o ∈ Service.orders (a ++ t :: b), o = .destroyOfUser userId ∨
      ∃ token, o = .refresh token)
    (asked : t.event = .asked f moment (.store (.create x)) (.ok ())) :
    ∃ token, (∃ v ∈ a, v.event = .begun f (.refresh token)) ∧
      (∃ old, History.Found (history f a) (Token.digest token) old ∧ old.userId = x.userId) ∧
      History.Told (history f a) (.store (.deleteByHash (Token.digest token))) (.ok ()) := by
  obtain ⟨o, v, hv, begun, renews⟩ := Discipline.allows_of_asked run idle numbered
    Manager.wp_renews asked
  have hv' : v ∈ a ++ t :: b := List.mem_append_left _ hv
  rcases only o (Service.mem_orders hv' begun) with rfl | ⟨token, rfl⟩
  · exact (Manager.asks_of_begun run idle numbered (fun _ => rfl) hv' begun (by simp) asked).elim
  · exact ⟨token, ⟨v, hv, begun⟩, renews token rfl⟩

/-- The steps of a call come after its beginning. -/
theorem begun_before {r : Request} {answer : Answer r} {o : Order} {v : Transition}
    (run : Service.Run (service m) s (a ++ t :: b) s') (idle : s.Idle) (numbered : s.Numbered)
    (asked : t.event = .asked f moment r answer) (hv : v ∈ a ++ t :: b)
    (begun : v.event = .begun f o) : ∃ v ∈ a, v.event = .begun f o := by
  obtain ⟨before, step, _⟩ := run.mid
  rw [asked] at step
  obtain ⟨o', k, flying⟩ := step.flight_of_asked
  obtain ⟨v', hv', begun'⟩ := before.begun_of_flight idle flying
  obtain rfl := run.order_eq numbered hv (List.mem_append_left _ hv') begun begun'
  exact ⟨v', hv', begun'⟩

/-- A sign-out leaves nothing of the user. -/
theorem userId_ne_of_swept (step : Service.Step (service m) w.before w.event w.after)
    (swept : w.event = .asked c moment (.store (.deleteOfUser userId)) (.ok n))
    (mem : x ∈ w.after.world.storage.sessions) : x.userId ≠ userId := by
  rw [swept] at step
  obtain ⟨answered, world⟩ := step.answer_eq
  rw [world] at mem
  exact userId_ne_of_deleteOfUser answered.symm mem

/-- What is deleted under the digest of a token is the one session that is ever stored there. -/
theorem mem_of_deletion (first : Service.Run (service m) (fresh settings) ts s)
    (second : Service.Run (service m) s (a ++ t :: b) s')
    (deleted : t.event = .asked f moment (.store (.deleteByHash (Token.digest token))) (.ok ()))
    (distinct : Distinct token (ts ++ (a ++ t :: b))) (hw : w ∈ ts ++ (a ++ t :: b))
    (stores : Stores x w.event) (hash : x.tokenHash = Token.digest token) :
    x ∈ t.before.world.storage.sessions := by
  obtain ⟨before, step, _⟩ := second.mid
  obtain ⟨y, mem, hash'⟩ := stored_of_deleteByHash_ok step deleted
  obtain ⟨u, hu, stores'⟩ := stores_of_mem (first.append before) rfl mem
  have hu : u ∈ ts ++ (a ++ t :: b) := by
    rw [← List.append_assoc]
    exact List.mem_append_left _ hu
  rw [distinct.eq_of_stores (first.append second) hw stores hash hu stores' hash']
  exact mem

/-- What a refresh stores for the user after the sign-out has escaped it, if this is so of what was
stored since. -/
theorem escaped_of_refresh (first : Service.Run (service m) (fresh settings) ts s) (idle : s.Idle)
    (second : Service.Run (service m) s (a ++ w :: (b ++ [t])) s')
    (swept : w.event = .asked c moment (.store (.deleteOfUser userId)) (.ok n))
    (asked : t.event = .asked f moment' (.store (.create x)) (.ok ())) (user : x.userId = userId)
    (hv : v ∈ a ++ w :: (b ++ [t])) (begun : v.event = .begun f (.refresh token))
    (distinct : Distinct token (ts ++ (a ++ w :: (b ++ [t]))))
    (hu : u ∈ ts ++ (a ++ w :: (b ++ [t]))) (stores : Stores y u.event)
    (hash : y.tokenHash = Token.digest token) (same : y.userId = x.userId)
    (hd : d ∈ a ++ w :: b)
    (deleted : d.event = .asked f moment'' (.store (.deleteByHash (Token.digest token))) (.ok ()))
    (earlier : ∀ u ∈ b, ∀ z, Stores z u.event → z.userId = userId →
      Escaped userId (a ++ w :: (b ++ [t])) z) :
    Escaped userId (a ++ w :: (b ++ [t])) x := by
  have numbered := first.numbered (fresh_numbered settings)
  have last : [t.event].Sublist ([t].map (·.event)) := List.Sublist.refl _
  rcases List.mem_append.mp hd with hd | hd
  · -- The old session was ended before the sign-out.
    obtain ⟨a, a', rfl⟩ := List.append_of_mem hd
    simp only [List.append_assoc, List.cons_append] at second hv ⊢
    obtain ⟨v, hv, begun⟩ := begun_before second idle numbered deleted hv begun
    obtain ⟨p, q, rfl⟩ := List.append_of_mem hv
    simp only [List.append_assoc, List.cons_append]
    have order : [v.event, d.event, w.event, t.event].Sublist
        ((p ++ v :: (q ++ d :: (a' ++ w :: (b ++ [t])))).map (·.event)) :=
      Service.sublist_cons_events (Service.sublist_cons_events (Service.sublist_cons_events
        (last.trans (by simp))))
    rw [begun, deleted, swept, asked] at order
    exact .straddled order
  · rcases List.mem_cons.mp hd with rfl | hd
    · cases swept.symm.trans deleted
    · -- It was ended after the sign-out, so it was stored after it, too.
      obtain ⟨_, start, rest⟩ := second.mid
      obtain ⟨b, b', rfl⟩ := List.append_of_mem hd
      have parts : a ++ w :: (b ++ d :: b' ++ [t]) = (a ++ w :: b) ++ d :: (b' ++ [t]) := by simp
      rw [List.append_assoc] at rest
      rw [parts] at second hv distinct hu earlier ⊢
      have mem := mem_of_deletion first second deleted distinct hu stores hash
      have escaped : Escaped userId (a ++ w :: b ++ d :: (b' ++ [t])) y := by
        obtain ⟨between, _, _⟩ := rest.mid
        rcases mem_or_stores_of_mem between mem with old | ⟨z, hz, stores⟩
        · exact absurd (same.trans user) (userId_ne_of_swept start swept old)
        · exact earlier z (List.mem_append_left _ hz) y stores (same.trans user)
      obtain ⟨v, hv, begun⟩ := begun_before second idle numbered deleted hv begun
      obtain ⟨p, q, split⟩ := List.append_of_mem hv
      have order : [v.event, d.event, t.event].Sublist
          ((p ++ v :: (q ++ d :: (b' ++ [t]))).map (·.event)) :=
        Service.sublist_cons_events (Service.sublist_cons_events (last.trans (by simp)))
      rw [begun, deleted, asked] at order
      rw [split, List.append_assoc, List.cons_append] at escaped ⊢
      exact .renewed escaped hash order

/-- What is stored of the user's after the sign-out has escaped it. -/
theorem escaped_of_stores (first : Service.Run (service m) (fresh settings) ts s) (idle : s.Idle)
    (second : Service.Run (service m) s (a ++ w :: b) s')
    (swept : w.event = .asked c moment (.store (.deleteOfUser userId)) (.ok n))
    (only : ∀ o ∈ Service.orders (a ++ w :: b), o = .destroyOfUser userId ∨
      ∃ token, o = .refresh token)
    (distinct : ∀ token, .refresh token ∈ Service.orders (a ++ w :: b) →
      Distinct token (ts ++ (a ++ w :: b))) :
    ∀ t ∈ b, ∀ x, Stores x t.event → x.userId = userId → Escaped userId (a ++ w :: b) x := by
  have numbered := first.numbered (fresh_numbered settings)
  induction b using List.reverseRecOn generalizing s' with
  | nil => simp
  | append_singleton b last ih =>
    have parts : a ++ w :: (b ++ [last]) = (a ++ w :: b) ++ [last] := by simp
    have shorter : (a ++ w :: b).Sublist (a ++ w :: (b ++ [last])) := by
      rw [parts]
      exact List.sublist_append_left _ _
    have orders : Service.orders (a ++ w :: b) ⊆ Service.orders (a ++ w :: (b ++ [last])) :=
      (shorter.filterMap _).subset
    have whole := second
    rw [parts] at whole
    obtain ⟨_, early, _⟩ := whole.split
    have earlier : ∀ t ∈ b, ∀ x, Stores x t.event → x.userId = userId →
        Escaped userId (a ++ w :: (b ++ [last])) x := by
      intro t ht x stores user
      refine Escaped.mono (ih early ?_ ?_ t ht x stores user) shorter
      · intro o mem
        exact only o (orders mem)
      · intro token mem
        apply (distinct token (orders mem)).mono
        exact List.append_subset.mpr ⟨List.subset_append_left _ _,
          List.subset_append_of_subset_right _ shorter.subset⟩
    intro t ht x stores user
    rcases List.mem_append.mp ht with ht | ht
    · exact earlier t ht x stores user
    · obtain rfl := List.mem_singleton.mp ht
      obtain ⟨f, moment', asked⟩ := eq_of_stores stores
      obtain ⟨token, ⟨v, hv, begun⟩, ⟨old, found, same⟩, told⟩ := refreshes_of_stores whole idle
        numbered (by rwa [← parts]) asked
      obtain ⟨d, hd, moment'', deleted⟩ := mem_history.mp told
      obtain ⟨hash, u, hu, stores⟩ := stores_of_found (first.append early)
        (found.imp (told_mono · (List.subset_append_right _ _))
          (told_mono · (List.subset_append_right _ _)))
      have hv := shorter.subset hv
      have hu : u ∈ ts ++ (a ++ w :: (b ++ [t])) := by
        rcases List.mem_append.mp hu with hu | hu
        · exact List.mem_append_left _ hu
        · exact List.mem_append_right _ (shorter.subset hu)
      exact escaped_of_refresh first idle second swept asked user hv begun
        (distinct token (Service.mem_orders hv begun)) hu stores hash same hd deleted earlier

end Traffic
end SessionKit
