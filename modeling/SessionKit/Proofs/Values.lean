import SessionKit.Proofs.Base64
import SessionKit.Time.Timestamp
import SessionKit.Token
import Mathlib.Data.List.Basic

/-!
# Tokens and times

What is used of tokens, of their digests, and of the order of points in time.
-/

namespace SessionKit

namespace Token

variable {token stored : String}

theorem digest_ne_empty (token : String) : digest token ≠ "" := by
  intro h
  have length := congrArg String.length h
  simp [digest, Bytes.toHex, Bytes.length_hexDigits] at length

theorem verify_eq (token stored : String) :
    verify token stored =
      if token = "" ∨ stored = "" then .error .emptyInput
      else .ok (decide (Bytes.ofText stored = Bytes.ofText (digest token))) := by
  have same : Bytes.equal (Bytes.ofText (digest token)) (Bytes.ofText stored) =
      decide (Bytes.ofText stored = Bytes.ofText (digest token)) := by
    rw [Bytes.equal_eq_beq, Bool.eq_iff_iff, beq_iff_eq, decide_eq_true_eq]
    exact eq_comm
  simp only [verify, same, Bool.or_eq_true, String.isEmpty_iff]

theorem verify_eq_ok_true (nonempty : token ≠ "") :
    verify token stored = .ok true ↔ stored = digest token := by
  rw [verify_eq]
  by_cases empty : stored = ""
  · subst empty
    simp [(digest_ne_empty token).symm]
  · simp [nonempty, empty, Bytes.ofText_inj]

theorem verify_digest (h : ¬ token.isEmpty) : verify token (digest token) = .ok true :=
  (verify_eq_ok_true fun empty => h (String.isEmpty_iff.mpr empty)).mpr rfl

/-- Only the digest of a token is accepted with it. -/
theorem eq_digest_of_verify (h : (verify token stored).toOption = some true) :
    stored = digest token := by
  rw [verify_eq] at h
  split at h
  · cases h
  · exact Bytes.ofText_inj.mp (of_decide_eq_true (Option.some.inj h))

theorem ofBytes_ne_empty {bs : Bytes} (h : bs ≠ []) : ofBytes bs ≠ "" := by
  intro empty
  have none : Base64.encode .urlSafe bs = [] := String.ofList_eq_empty_iff.mp empty
  have length := Base64.length_le_length_encode .urlSafe bs
  rw [none] at length
  exact h (List.length_eq_zero_iff.mp (Nat.le_zero.mp length))

theorem drawnBytes_pos (n : Nat) : 0 < drawnBytes n := by
  unfold drawnBytes
  split
  · decide
  · omega

end Token

namespace Timestamp

variable {s t u : Timestamp}

theorem le_iff : s ≤ t ↔ s.seconds < t.seconds ∨ (s.seconds = t.seconds ∧ s.nanos ≤ t.nanos) :=
  Iff.rfl

theorem lt_iff : s < t ↔ s.seconds < t.seconds ∨ (s.seconds = t.seconds ∧ s.nanos < t.nanos) :=
  Iff.rfl

theorem lt_of_not_le (h : ¬ s ≤ t) : t < s := by
  rw [le_iff] at h
  rw [lt_iff]
  omega

theorem not_le_of_lt (h : s < t) : ¬ t ≤ s := by
  rw [lt_iff] at h
  rw [le_iff]
  omega

theorem le_trans (h : s ≤ t) (h' : t ≤ u) : s ≤ u := by
  rw [le_iff] at h h' ⊢
  omega

theorem le_total (s t : Timestamp) : s ≤ t ∨ t ≤ s := by
  rw [le_iff, le_iff]
  omega

theorem lt_of_le_of_lt (h : s ≤ t) (h' : t < u) : s < u := by
  rw [le_iff] at h
  rw [lt_iff] at h' ⊢
  omega

theorem not_isLeap_iff : ¬ t.isLeap ↔ t.nanos < nanosPerSecond := by
  rw [isLeap, decide_eq_true_eq, Nat.not_le]

/-- Outside of leap seconds, times compare as the nanoseconds that have gone by. -/
theorem lt_iff_sinceEpoch (hs : ¬ s.isLeap) (ht : ¬ t.isLeap) :
    s < t ↔ s.sinceEpoch < t.sinceEpoch := by
  rw [not_isLeap_iff] at hs ht
  simp only [lt_iff, sinceEpoch, nanosPerSecond] at *
  omega

theorem make?_eq_some {seconds : Int} {nanos : Nat} :
    make? seconds nanos = some t ↔ t.seconds = seconds ∧ t.nanos = nanos := by
  unfold make?
  constructor
  · intro made
    split at made
    next =>
      split at made
      next =>
        obtain rfl := Option.some.inj made
        exact ⟨rfl, rfl⟩
      next => cases made
    next => cases made
  · rintro ⟨rfl, rfl⟩
    rw [dif_pos t.inRange, dif_pos t.nanos_lt]

theorem make?_self : make? t.seconds t.nanos = some t := make?_eq_some.mpr ⟨rfl, rfl⟩

theorem ofNanos?_eq_some {n : Int} (h : ofNanos? n = some t) : t.sinceEpoch = n ∧ ¬ t.isLeap := by
  obtain ⟨seconds, nanos⟩ := make?_eq_some.mp h
  rw [not_isLeap_iff]
  simp only [sinceEpoch, nanosPerSecond] at *
  omega

theorem add?_of_not_leap {d : Duration} (h : ¬ t.isLeap) :
    t.add? d = ofNanos? (t.sinceEpoch + d.nanoseconds) := if_pos (.inl h)

/-- The later of two times is the later one still after the same length of time. Not so for leap
seconds: one may lead back to where another second leads. -/
theorem add?_lt {d : Duration} {s' t' : Timestamp} (h : s < t) (hs : ¬ s.isLeap) (ht : ¬ t.isLeap)
    (later : s.add? d = some s') (later' : t.add? d = some t') : s' < t' := by
  rw [add?_of_not_leap hs] at later
  rw [add?_of_not_leap ht] at later'
  obtain ⟨same, hs'⟩ := ofNanos?_eq_some later
  obtain ⟨same', ht'⟩ := ofNanos?_eq_some later'
  rw [lt_iff_sinceEpoch hs' ht', same, same']
  have before := (lt_iff_sinceEpoch hs ht).mp h
  omega

end Timestamp
end SessionKit
