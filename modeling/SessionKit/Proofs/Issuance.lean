import SessionKit.Proofs.Conduct
import SessionKit.Proofs.SignOut

/-!
# Issuance

Whoever is issued a session holds a token that is not empty, and the session was put into the
storage under the digest of that token before it was handed out.
-/

namespace SessionKit.Traffic

open Manager (Request Answer Order History)
open Discipline (history mem_history)

variable {m : Manager} {settings : Cache.Settings} {s : State} {ts : List Transition}
  {t : Transition} {c : Nat} {moment : Moment} {created : Session.Created}

theorem Moment.token_ne_empty {n : Nat} {pair : Token.Pair} (h : moment.token n = .ok pair) :
    pair.token ≠ "" := by
  unfold Moment.token Token.drawPair Token.draw at h
  simp only [Program.bind_eq, Program.ask_bind, Program.run_ask] at h
  cases drawn : moment.bytes (Token.drawnBytes n) with
  | error e => simp [drawn, Except.map] at h
  | ok v =>
    simp [drawn, Except.map] at h
    rw [← h]
    apply Token.ofBytes_ne_empty
    intro none
    have length := congrArg List.length none
    have some := Token.drawnBytes_pos n
    simp at length
    omega

theorem issues_of_returned {o : Order} {r : o.Result}
    (run : Service.Run (service m) (fresh settings) ts s) (h : t ∈ ts)
    (returned : t.event = .returned c o r) (issued : o.issued? r = some created) :
    History.Issues (history c ts) created := by
  have keeps := Manager.keeps_of_returned run (fresh_idle settings) (fresh_numbered settings)
    (fun _ => rfl) h returned
  cases o with
  | create userId ipAddress userAgent =>
    cases r with
    | ok created' =>
      cases issued
      exact keeps
    | error e => cases issued
  | refresh token =>
    cases r with
    | ok created' =>
      cases issued
      exact keeps.1
    | error e => cases issued
  | _ => cases issued

/-- A session that was issued was stored before, under the digest of its token. -/
theorem stored_of_issues (run : Service.Run (service m) (fresh settings) ts s)
    (issues : History.Issues (history c ts) created) :
    (∃ t ∈ ts, Stores created.session t.event) ∧
      created.session.tokenHash = Token.digest created.token ∧ created.token ≠ "" := by
  obtain ⟨t, ht, moment, asked⟩ := mem_history.mp issues.stored
  obtain ⟨n, pair, told, token, digest⟩ := issues.drawn
  obtain ⟨u, hu, moment', drew⟩ := mem_history.mp told
  obtain ⟨_, answered⟩ := run.answer_eq hu drew
  refine ⟨⟨t, ht, ?_⟩, ?_, ?_⟩
  · rw [asked]
    exact rfl
  · rw [← token, ← digest]
    exact moment'.digest_token answered.symm
  · rw [← token]
    exact Moment.token_ne_empty answered.symm

theorem Issued.mono {us : List Transition} (issued : Issued c created ts) (sub : ts ⊆ us) :
    Issued c created us := by
  obtain ⟨t, ht, issuing⟩ := issued
  exact ⟨t, sub ht, issuing⟩

theorem tokenHash_of_issued (run : Service.Run (service m) (fresh settings) ts s)
    (issued : Issued c created ts) :
    created.session.tokenHash = Token.digest created.token := by
  obtain ⟨t, ht, o, r, returned, result⟩ := issued
  exact (stored_of_issues run (issues_of_returned run ht returned result)).2.1

end SessionKit.Traffic
