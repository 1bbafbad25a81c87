import SessionKit.Proofs.Genuine

/-!
# A storage that lies

The storage of a manager may be anything: it may say that it has a session that nobody created, deny
one that it was given, or fail. Nothing of that makes a verification accept a token with the session
of another one, or with one that has expired, because the manager compares what the storage shows
with the token before it goes into the cache, and the cache is the manager's own.
-/

namespace SessionKit.Distrust

open Manager (Request Answer Order History)
open Discipline (history mem_history)
open Traffic (World)

/-- A moment says besides what the storage answers. -/
structure Moment extends Traffic.Moment where
  answers : (call : Storage.Call) → Storage.Answer call

/-- The surroundings at some moment. The storage in memory is not asked. -/
def Moment.surroundings (t : Moment) : Manager.Surroundings (StateM World) :=
  { t.toMoment.surroundings with storage := fun call => pure (t.answers call) }

def Moment.serve (t : Moment) (r : Request) (w : World) : Answer r × World :=
  (t.surroundings.answer r).run w

theorem serve_store (t : Moment) (w : World) (call : Storage.Call) :
    t.serve (.store call) w = (t.answers call, w) := rfl

/-- All but the storage is as it was. -/
theorem serve_eq {t : Moment} {w : World} {r : Request} (h : ∀ call, r ≠ .store call) :
    t.serve r w = t.toMoment.serve r w := by
  cases r with
  | store call => exact absurd rfl (h call)
  | _ => rfl

abbrev State := Service.State Request Answer Order Order.Result World
abbrev Transition := Service.Transition Request Answer Order Order.Result World Moment

/-- A manager at work with a storage that may answer anything. -/
abbrev service (m : Manager) : Service Request Answer Order Order.Result World Moment where
  program := Order.program m
  serve := Moment.serve

theorem mem_entries_serve {t : Moment} {w : World} {r : Request} {e : String × Cache.Entry}
    (h : e ∈ (t.serve r w).2.cache.entries) :
    e ∈ w.cache.entries ∨ ∃ n, r = .fill n e.1 e.2.session := by
  cases r with
  | store call =>
    rw [serve_store] at h
    exact .inl h
  | _ =>
    rw [serve_eq (by simp)] at h
    exact Traffic.mem_entries_serve h

theorem caches (m : Manager) : Traffic.Caches (service m) fun w => w.cache.entries where
  filled _ _ _ _ := mem_entries_serve
  shown t k w x h := by
    have shown : (t.serve (.lookUp k) w).1 = .ok (some x) := h
    rw [serve_eq (by simp)] at shown
    exact Traffic.entry_of_lookUp shown

/-- Whoever is let in presents a token whose digest is that of the session, and the session was good
when the clock was read, whatever the storage says. -/
theorem sound_of_verified {m : Manager} {settings : Cache.Settings} {ts : List Transition}
    {s : State} {c : Nat} {token : String} {x : Session}
    (run : Service.Run (service m) (Traffic.fresh settings) ts s)
    (verified : ∃ t ∈ ts, t.event = .returned c (.verify token) (.ok x)) :
    token ≠ "" ∧ x.tokenHash = Token.digest token ∧
      ∃ now, History.clock (history c ts) = [now] ∧ now < x.expiresAt := by
  obtain ⟨t, ht, returned⟩ := verified
  have idle := Traffic.fresh_idle settings
  have numbered := Traffic.fresh_numbered settings
  have accepts : History.Accepts (history c ts) token x :=
    Manager.keeps_of_returned run idle numbered (fun _ => rfl) ht returned
  refine ⟨fun empty => accepts.nonempty (by simp [empty]), ?_, accepts.current⟩
  rcases accepts.found with cached | ⟨-, matched⟩
  · obtain ⟨u, hu, moment, asked⟩ := mem_history.mp cached
    exact (Traffic.genuine_of_lookUp (caches m) (fun _ => rfl) run idle numbered rfl hu asked).1
  · exact matched

/-- The storage shows a session that it was never given. -/
def sampleLie : Moment :=
  { Traffic.sampleMoment with
    answers := fun
      | .byHash _ => .ok Traffic.sampleCreated.session
      | _ => .error .notFound }

/-- The storage fails. -/
def sampleFailure : Moment :=
  { Traffic.sampleMoment with answers := fun _ => .error (.backend "down") }

theorem sound_of_verified_sample :
    ∃ ts s, Service.Run (service Traffic.sampleManager) (Traffic.fresh {}) ts s ∧
      Service.marks ts =
        [(0, .inl (.verify Traffic.sampleToken)),
          (0, .inr ⟨.verify Traffic.sampleToken, .ok Traffic.sampleCreated.session⟩),
          (1, .inl (.verify Traffic.sampleToken)),
          (1, .inr ⟨.verify Traffic.sampleToken, .ok Traffic.sampleCreated.session⟩)] ∧
      Traffic.sampleToken ≠ "" ∧
      Traffic.sampleCreated.session.tokenHash = Token.digest Traffic.sampleToken ∧
      ∃ now, History.clock (history 1 ts) = [now] ∧
        now < Traffic.sampleCreated.session.expiresAt := by
  have play : ((Traffic.fresh {}).play? (service Traffic.sampleManager)
      (.start (.verify Traffic.sampleToken) ::
        (List.replicate 5 (.proceed 0 sampleLie) ++ [.finish 0] ++
          .start (.verify Traffic.sampleToken) ::
            (List.replicate 2 (.proceed 1 sampleFailure) ++ [.finish 1])))).map
        (fun p => Service.marks p.1) =
      some [(0, .inl (.verify Traffic.sampleToken)),
        (0, .inr ⟨.verify Traffic.sampleToken, .ok Traffic.sampleCreated.session⟩),
        (1, .inl (.verify Traffic.sampleToken)),
        (1, .inr ⟨.verify Traffic.sampleToken, .ok Traffic.sampleCreated.session⟩)] := by
    decide +kernel
  obtain ⟨⟨ts, s⟩, played, marks⟩ := Option.map_eq_some_iff.mp play
  have run := Service.Run.of_play? played
  obtain ⟨t, ht, event⟩ := Service.mem_of_mem_marks
    (show (1, .inr ⟨.verify Traffic.sampleToken, .ok Traffic.sampleCreated.session⟩) ∈
      Service.marks ts by simp [show Service.marks ts = _ from marks])
  exact ⟨ts, s, run, marks, sound_of_verified run ⟨t, ht, event⟩⟩

end SessionKit.Distrust
