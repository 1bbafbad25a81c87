import SessionKit.Proofs.Drawing
import SessionKit.Proofs.Values

/-!
# Issued tokens

A token is drawn with one request and tells all the bytes that were given, since it is their only
written form. It is accepted with its own digest and with no other text, be it the beginning of the
digest or longer than it.
-/

namespace SessionKit

namespace Base64

/-- A letter without accents, a digit, a hyphen or an underscore. -/
def IsUrlSafe (c : Char) : Prop :=
  ('A' ≤ c ∧ c ≤ 'Z') ∨ ('a' ≤ c ∧ c ≤ 'z') ∨ ('0' ≤ c ∧ c ≤ '9') ∨ c = '-' ∨ c = '_'

instance (c : Char) : Decidable (IsUrlSafe c) := inferInstanceAs (Decidable (_ ∨ _))

theorem isUrlSafe_symbol {n : Nat} (h : n < 64) : IsUrlSafe (Alphabet.urlSafe.symbol n) := by
  revert n
  decide

end Base64

namespace Token

variable {σ : Type} {fill : (n : Nat) → σ → Except String (Vector UInt8 n) × σ} {n : Nat}
  {s t : σ} {v : Vector UInt8 (drawnBytes n)} {reason : String} {bs bs' : Bytes}

/-- The pair was made of these bytes, which the token alone tells. -/
structure Pair.MadeOf (p : Pair) (bs : Bytes) : Prop where
  nonempty : p.token ≠ ""
  urlSafe : ∀ c ∈ p.token.toList, Base64.IsUrlSafe c
  /-- Four thirds of the number of bytes, rounded up. -/
  length : p.token.length = (4 * bs.length + 2) / 3
  decodes : Base64.decodeText .urlSafe p.token = .ok bs
  digest : p.digest = Token.digest p.token
  /-- The digest is the one text that goes with the token. -/
  only (stored : String) : verify p.token stored = .ok true ↔ stored = p.digest

theorem madeOf_ofBytes (some : bs ≠ []) : (Pair.ofToken (ofBytes bs)).MadeOf bs where
  nonempty := ofBytes_ne_empty some
  urlSafe c mem := by
    rw [Pair.ofToken, ofBytes, Base64.encodeText, String.toList_ofList] at mem
    obtain ⟨n, small, rfl⟩ := Base64.exists_symbol_of_mem_encode mem
    exact Base64.isUrlSafe_symbol small
  length := by
    rw [Pair.ofToken, ofBytes, Base64.encodeText, String.length_ofList, Base64.length_encode]
  decodes := Base64.decodeText_eq_ok.mpr rfl
  digest := rfl
  only _ := verify_eq_ok_true (ofBytes_ne_empty some)

theorem Pair.MadeOf.eq_of_token_eq {p q : Pair} (made : p.MadeOf bs) (made' : q.MadeOf bs')
    (same : p.token = q.token) : bs = bs' := by
  have decodes := made.decodes
  rw [same, made'.decodes] at decodes
  exact (Except.ok.inj decodes).symm

theorem requests_draw (n : Nat) (s : σ) : (draw n).requests fill s = [drawnBytes n] := by
  rw [draw, Program.requests]
  cases (fill (drawnBytes n) s).1 with
  | ok v => rfl
  | error reason => rfl

/-- The digest takes no request of its own. -/
theorem requests_drawPair (n : Nat) (s : σ) : (drawPair n).requests fill s = [drawnBytes n] :=
  (Program.requests_bind_done (draw n) _ s).trans (requests_draw n s)

theorem run_drawPair_of_ok (filled : fill (drawnBytes n) s = (.ok v, t)) :
    (drawPair n).run fill s = (.ok (Pair.ofToken (ofBytes v.toList)), t) := by
  simp [drawPair, draw, filled, Except.map]

theorem run_drawPair_of_error (failed : fill (drawnBytes n) s = (.error reason, t)) :
    (drawPair n).run fill s = (.error (.random reason), t) := by
  simp [drawPair, draw, failed, Except.map]

/-- A digest is made of the hexadecimal digits of 32 bytes, in lower case. -/
structure IsDigest (text : String) (bs : Bytes) : Prop where
  length : text.length = 64
  lower : ∀ c ∈ text.toList, ('0' ≤ c ∧ c ≤ '9') ∨ ('a' ≤ c ∧ c ≤ 'f')
  reads : Bytes.ofHex? text = some bs

theorem isDigest_digest (token : String) :
    IsDigest (digest token) (Sha256.digest (Bytes.ofText token)) where
  length := by
    rw [digest, Bytes.toHex, String.length_ofList, Bytes.length_hexDigits, Sha256.length_digest]
  lower c mem := by
    rw [digest, Bytes.toHex, String.toList_ofList] at mem
    exact Bytes.bounds_of_mem_hexDigits mem
  reads := Bytes.ofHex?_toHex _

/-- Whoever draws a token gets one that is made of all the bytes that the source gives, 32 if no
number is asked for, or fails because the source does. Tokens of other bytes are other tokens, and
what is accepted with a token is its digest, byte for byte. -/
theorem issued_and_matched :
    (∀ (σ : Type) (fill : (n : Nat) → σ → Except String (Vector UInt8 n) × σ) (n : Nat) (s : σ),
      (drawnBytes n = if n = 0 then 32 else n) ∧
      (drawPair n).requests fill s = [drawnBytes n] ∧
      match fill (drawnBytes n) s with
      | (.ok v, t) => ∃ p, (drawPair n).run fill s = (.ok p, t) ∧ p.MadeOf v.toList
      | (.error reason, t) => (drawPair n).run fill s = (.error (.random reason), t)) ∧
    (∀ (p q : Pair) (bs bs' : Bytes), p.MadeOf bs → q.MadeOf bs' → bs ≠ bs' → p.token ≠ q.token) ∧
    (∀ token : String, IsDigest (digest token) (Sha256.digest (Bytes.ofText token))) ∧
    ∀ token stored : String,
      verify token stored =
        if token = "" ∨ stored = "" then .error .emptyInput
        else .ok (decide (Bytes.ofText stored = Bytes.ofText (digest token))) := by
  refine ⟨fun σ fill n s => ⟨rfl, requests_drawPair n s, ?_⟩,
    fun p q bs bs' made made' other same => other (made.eq_of_token_eq made' same),
    isDigest_digest, verify_eq⟩
  split
  next v t filled =>
    have some : v.toList ≠ [] := by
      rw [← List.length_pos_iff, Vector.length_toList]
      exact drawnBytes_pos n
    exact ⟨_, run_drawPair_of_ok filled, madeOf_ofBytes some⟩
  next failed => exact run_drawPair_of_error failed

/-- The token of 32 bytes is another one than the token of the first two of them, and a digest with
something behind it is not taken for the digest. -/
theorem issued_and_matched_sample :
    (∃ p q, ((drawPair 0).run Random.scripted.answer {}).1 = .ok p ∧
      ((drawPair 2).run Random.scripted.answer {}).1 = .ok q ∧
      p.token.length = 43 ∧ q.token.length = 3 ∧ p.token ≠ q.token ∧
      verify p.token p.digest = .ok true ∧ verify p.token (p.digest ++ "0") = .ok false) ∧
    verify "abc" "ba7816bf8f01cfea414140de5dae2223b00361a396177a9cb410ff61f20015ad" = .ok true := by
  obtain ⟨draws, distinct, -, matching⟩ := issued_and_matched
  obtain ⟨v, t, given⟩ : ∃ v t, Random.scripted.answer (drawnBytes 0) {} = (.ok v, t) :=
    ⟨_, _, rfl⟩
  obtain ⟨w, u, given'⟩ : ∃ w u, Random.scripted.answer (drawnBytes 2) {} = (.ok w, u) :=
    ⟨_, _, rfl⟩
  have first := (draws _ Random.scripted.answer 0 {}).2.2
  have second := (draws _ Random.scripted.answer 2 {}).2.2
  rw [given] at first
  rw [given'] at second
  obtain ⟨p, run, made⟩ := first
  obtain ⟨q, run', made'⟩ := second
  have length : v.toList.length = 32 := v.length_toList
  have length' : w.toList.length = 2 := w.length_toList
  have other : v.toList ≠ w.toList := by
    intro same
    rw [same, length'] at length
    cases length
  have longer : p.digest ++ "0" ≠ p.digest := by
    intro same
    simpa using congrArg String.length same
  refine ⟨⟨p, q, by rw [run], by rw [run'], ?_, ?_, distinct p q _ _ made made' other,
    (made.only _).mpr rfl, ?_⟩, ?_⟩
  · rw [made.length, length]
  · rw [made'.length, length']
  · rw [matching, if_neg (by simp [made.nonempty]), ← made.digest]
    simp [Bytes.ofText_inj, longer]
  · rw [matching]
    decide +kernel

end Token
end SessionKit
