import SessionKit.Proofs.Revocation

/-!
# Signing a user out

Ending all sessions of a user clears the cache only if the storage had any. If it had none, another
call has removed them, and until they are dropped from the cache as well they may still be served
from there.
-/

namespace SessionKit.Traffic

open Manager (Request Answer Order)

variable {m : Manager} {s s' : State} {ts us : List Transition} {t : Transition}

/-- A call has issued a session. -/
def Issued (c : Nat) (created : Session.Created) (ts : List Transition) : Prop :=
  ∃ t ∈ ts, ∃ o r, t.event = .returned c o r ∧ o.issued? r = some created

/-- The session of a token that nobody else draws is the one that was issued with it. -/
theorem eq_session_of_stores {created : Session.Created} {c : Nat} {x : Session}
    {settings : Cache.Settings} (run : Service.Run (service m) (fresh settings) ts s)
    (issued : Issued c created ts) (sole : ∀ e, Drew e created.token ts → e = c)
    (distinct : ∀ e u, Drew e u ts → Token.digest u = Token.digest created.token →
      u = created.token)
    (h : t ∈ ts) (stores : Stores x t.event) (hash : x.tokenHash = Token.digest created.token) :
    x = created.session := by
  obtain ⟨u, drew, digest⟩ := drew_of_stores run (fresh_idle settings) h stores
  have own : u = created.token := distinct _ u drew (digest.trans hash)
  obtain ⟨v, hv, o, r, returned, result⟩ := issued
  exact eq_of_issued run (fresh_idle settings) (fresh_numbered settings) hv returned result h
    (sole _ (own ▸ drew)) stores

theorem eq_session_of_issued {created : Session.Created} {c : Nat} {x : Session}
    {settings : Cache.Settings} (run : Service.Run (service m) (fresh settings) ts s)
    (issued : Issued c created ts) (sole : ∀ e, Drew e created.token ts → e = c)
    (distinct : ∀ e u, Drew e u ts → Token.digest u = Token.digest created.token →
      u = created.token)
    (mem : x ∈ s.world.storage.sessions) (hash : x.tokenHash = Token.digest created.token) :
    x = created.session := by
  obtain ⟨w, hw, stores⟩ := stores_of_mem run rfl mem
  exact eq_session_of_stores run issued sole distinct hw stores hash

/-- A token whose session was issued to a user is refused once all sessions of the user were ended,
if this ended some; or else as soon as anybody has dropped its digest from the cache after that. A
drop at some time before is as good, if the storage did not have the digest then. -/
theorem fails_after_sign_out {m : Manager} (cached : m.cached = true) {settings : Cache.Settings}
    {created : Session.Created} {ts us : List Transition} {s s' : State} {c d e : Nat} {o : Order}
    {n : Nat} {r : o.Result}
    (first : Service.Run (service m) (fresh settings) ts s)
    (second : Service.Run (service m) s us s') (brief : Brief (ts ++ us))
    (issued : Issued e created ts)
    (sole : ∀ e', Drew e' created.token (ts ++ us) → e' = e)
    (distinct : ∀ e' u, Drew e' u (ts ++ us) → Token.digest u = Token.digest created.token →
      u = created.token)
    (order : [Service.Event.begun c (.destroyOfUser created.session.userId),
      .returned c (.destroyOfUser created.session.userId) (.ok n),
      .begun d o, .returned d o r].Sublist (us.map (·.event)))
    (swept : 0 < n ∨ Swept (Token.digest created.token)
      [.begun c (.destroyOfUser created.session.userId),
        .returned c (.destroyOfUser created.session.userId) (.ok n)]
      [.begun d o, .returned d o r] us)
    (presents : Presents created.token o) : ∀ x, r ≠ .ok x := by
  have kept := tokenHash_ne_of_stores first second fun e' u drew digest => by
    obtain ⟨t, ht, o, x, returned, _⟩ := issued
    obtain rfl := sole e' (distinct e' u drew digest ▸ drew)
    exact ⟨t, ht, o, x, returned⟩
  -- All that is stored under the digest is the issued session, so none of it is left when the
  -- deletion of the user's sessions returns.
  have users : ∀ u, u = created.session.userId → ∀ t ∈ us, ∀ x ∈ t.after.world.storage.sessions,
      x.tokenHash = Token.digest created.token → x.userId = u := by
    rintro u rfl t ht x mem hash
    obtain ⟨a, b, rfl⟩ := List.append_of_mem ht
    obtain ⟨before, step, _⟩ := second.mid
    have run := first.append (before.snoc step)
    have earlier : ts ++ (a ++ [t]) ⊆ ts ++ (a ++ t :: b) := by
      intro v hv
      simp only [List.mem_append, List.mem_cons] at hv ⊢
      tauto
    rw [eq_session_of_issued run ?_ (fun e' drew => sole e' (drew.mono earlier))
      (fun e' u drew => distinct e' u (drew.mono earlier)) mem hash]
    obtain ⟨v, hv, issuing⟩ := issued
    exact ⟨v, List.mem_append_left _ hv, issuing⟩
  have moves := Progress.moves_run (· = created.session.userId) second kept users c
  rcases swept with some | swept
  · refine fails_of_progress first second brief kept moves (fun g => ?_) order presents
    exact Discipline.wp_mono (fun x g achieves same => (achieves n same).2 some)
      (Progress.wp_destroyOfUser cached rfl)
  · refine fails_of_swept first second brief kept moves (fun g => ?_) swept presents
    exact Discipline.wp_mono (fun x g achieves same => (achieves n same).1)
      (Progress.wp_destroyOfUser cached rfl)

theorem fails_after_sign_out_sample :
    ∃ ts us s s', Service.Run (service sampleManager) (fresh {}) ts s ∧
      Service.Run (service sampleManager) s us s' ∧
      [Service.Event.begun 1 (.destroyOfUser "u"), .returned 1 (.destroyOfUser "u") (.ok 1),
        .begun 2 (.verify sampleToken), .returned 2 (.verify sampleToken)
          (.error .notFound)].Sublist (us.map (·.event)) ∧
      ∀ x : Session, (.error .notFound : Except Session.Error Session) ≠ .ok x := by
  have play : ((fresh {}).play? (service sampleManager)
      (wholeCall 0 (.create "u" "i" "a") 7 sampleMoment)).bind (fun p =>
        (p.2.play? (service sampleManager)
          (wholeCall 1 (.destroyOfUser "u") 3 sampleMoment ++
            wholeCall 2 (.verify sampleToken) 3 sampleMoment)).map fun q =>
        (draws (p.1 ++ q.1), Service.marks p.1, Service.marks q.1)) =
      some ([(0, sampleToken)], [(0, .inl (.create "u" "i" "a")),
        (0, .inr ⟨.create "u" "i" "a", .ok sampleCreated⟩)], [(1, .inl (.destroyOfUser "u")),
        (1, .inr ⟨.destroyOfUser "u", .ok 1⟩), (2, .inl (.verify sampleToken)),
        (2, .inr ⟨.verify sampleToken, .error .notFound⟩)]) := by
    decide +kernel
  obtain ⟨⟨ts, s⟩, first, rest⟩ := Option.bind_eq_some_iff.mp play
  obtain ⟨⟨us, s'⟩, second, seen⟩ := Option.map_eq_some_iff.mp rest
  simp only [Prod.mk.injEq] at seen
  obtain ⟨drawn, ended, marks⟩ := seen
  have order : ((Service.marks us).map Service.Mark.event).Sublist (us.map (·.event)) :=
    Service.marks_sublist
  rw [marks] at order
  have issued : Issued 0 sampleCreated ts := by
    obtain ⟨t, ht, event⟩ := Service.mem_of_mem_marks
      (show (0, .inr ⟨.create "u" "i" "a", .ok sampleCreated⟩) ∈ Service.marks ts by simp [ended])
    exact ⟨t, ht, _, _, event, rfl⟩
  have drew {e : Nat} {u : String} (h : Drew e u (ts ++ us)) : e = 0 ∧ u = sampleToken := by
    have mem := mem_draws h
    rw [drawn] at mem
    simpa using mem
  refine ⟨ts, us, s, s', .of_play? first, .of_play? second, order, ?_⟩
  exact fails_after_sign_out rfl (.of_play? first) (.of_play? second)
    (.of_plays first second (by decide)) issued (fun e h => (drew h).1) (fun e u h _ => (drew h).2)
    order (.inl Nat.one_pos) rfl

/-- Where the sign-out removes nothing, the cache may still serve the session: its destruction has
deleted it from the storage, and has yet to drop it from the cache. -/
theorem verified_after_sign_out_of_none :
    ∃ ts us s s', Service.Run (service sampleManager) (fresh {}) ts s ∧
      Service.Run (service sampleManager) s us s' ∧ Issued 0 sampleCreated ts ∧
      (∀ e, Drew e sampleToken (ts ++ us) → e = 0) ∧
      (∀ e u, Drew e u (ts ++ us) → Token.digest u = Token.digest sampleToken →
        u = sampleToken) ∧
      [Service.Event.begun 2 (.destroyOfUser "u"), .returned 2 (.destroyOfUser "u") (.ok 0),
        .begun 3 (.verify sampleToken), .returned 3 (.verify sampleToken)
          (.ok sampleCreated.session)].Sublist (us.map (·.event)) := by
  have play : ((fresh {}).play? (service sampleManager)
      (wholeCall 0 (.create "u" "i" "a") 7 sampleMoment)).bind (fun p =>
        (p.2.play? (service sampleManager)
          (.start (.destroy sampleToken) :: .proceed 1 sampleMoment ::
            (wholeCall 2 (.destroyOfUser "u") 2 sampleMoment ++
              wholeCall 3 (.verify sampleToken) 2 sampleMoment))).map fun q =>
        (draws (p.1 ++ q.1), Service.marks p.1, Service.marks q.1)) =
      some ([(0, sampleToken)], [(0, .inl (.create "u" "i" "a")),
        (0, .inr ⟨.create "u" "i" "a", .ok sampleCreated⟩)], [(1, .inl (.destroy sampleToken)),
        (2, .inl (.destroyOfUser "u")), (2, .inr ⟨.destroyOfUser "u", .ok 0⟩),
        (3, .inl (.verify sampleToken)),
        (3, .inr ⟨.verify sampleToken, .ok sampleCreated.session⟩)]) := by
    decide +kernel
  obtain ⟨⟨ts, s⟩, first, rest⟩ := Option.bind_eq_some_iff.mp play
  obtain ⟨⟨us, s'⟩, second, seen⟩ := Option.map_eq_some_iff.mp rest
  simp only [Prod.mk.injEq] at seen
  obtain ⟨drawn, ended, marks⟩ := seen
  have order : ((Service.marks us).map Service.Mark.event).Sublist (us.map (·.event)) :=
    Service.marks_sublist
  rw [marks] at order
  have drew {e : Nat} {u : String} (h : Drew e u (ts ++ us)) : e = 0 ∧ u = sampleToken := by
    have mem := mem_draws h
    rw [drawn] at mem
    simpa using mem
  obtain ⟨t, ht, event⟩ := Service.mem_of_mem_marks
    (show (0, .inr ⟨.create "u" "i" "a", .ok sampleCreated⟩) ∈ Service.marks ts by simp [ended])
  exact ⟨ts, us, s, s', .of_play? first, .of_play? second, ⟨t, ht, _, _, event, rfl⟩,
    fun e h => (drew h).1, fun e u h _ => (drew h).2, (List.sublist_cons_self _ _).trans order⟩

end SessionKit.Traffic
