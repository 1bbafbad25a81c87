import SessionKit.Proofs.Json
import SessionKit.Proofs.Reloading
import SessionKit.Proofs.Timestamps
import SessionKit.Session.Record

/-!
# Sessions in JSON

Of a session JSON tells everything but the digest: sessions that differ in nothing else have the
same text, and what is decoded from it is the session without its digest. Leap seconds are left
aside, since their text may stand for other seconds.
-/

namespace SessionKit.Session

/-- The session as it is to those who are not told its digest. -/
def withoutDigest (s : Session) : Session := { s with tokenHash := "" }

/-- No time of the session is a leap second. -/
structure Regular (s : Session) : Prop where
  created : ¬ s.createdAt.isLeap
  updated : ¬ s.updatedAt.isLeap
  expires : ¬ s.expiresAt.isLeap

variable {s : Session}

/-! ## What is told -/

theorem toJson_withoutDigest (s : Session) : s.withoutDigest.toJson = s.toJson := rfl

theorem reads_toJson (s : Session) (depth : Nat) : Json.Reads (depth + 1) s.toJson :=
  Json.reads_object (by simp [Json.reads_string])

theorem sorted_toJson (s : Session) :
    s.toJson.sorted = .object
      [("created_at", .string s.createdAt.toText), ("expires_at", .string s.expiresAt.toText),
       ("id", .string s.id), ("ip_address", .string s.ipAddress),
       ("updated_at", .string s.updatedAt.toText), ("user_agent", .string s.userAgent),
       ("user_id", .string s.userId)] := by
  simp only [toJson, Json.sorted, Json.sortedMembers, Json.sortMembers, List.foldl_cons,
    List.foldl_nil, Json.insertMember, String.reduceEq, String.reduceLT, ↓reduceIte]

/-! ## What is understood -/

theorem timeDecoder_toText {t : Timestamp} (h : ¬ t.isLeap) (format : Decode.Format) :
    timeDecoder format (.string t.toText) = .ok t := by
  rw [timeDecoder, t.parse_toText h]
  rfl

/-- The members may come in the order in which they are written. -/
theorem ofJson_toJson (regular : s.Regular) : ofJson s.toJson = .ok s.withoutDigest := by
  obtain ⟨created, updated, expires⟩ := regular
  simp [ofJson, toJson, decoder, Decode.members, fields, timeDecoder_toText, created, updated,
    expires]
  rfl

/-- The members may come in the order of their names. -/
theorem ofJson_sorted_toJson (regular : s.Regular) :
    ofJson s.toJson.sorted = .ok s.withoutDigest := by
  obtain ⟨created, updated, expires⟩ := regular
  simp [sorted_toJson, ofJson, decoder, Decode.members, fields, timeDecoder_toText, created,
    updated, expires]
  rfl

/-- The digest does not show in JSON, neither in the value nor in its text, and both are decoded to
the session without it. -/
theorem told_but_for_digest :
    (∀ s t : Session, s.withoutDigest = t.withoutDigest →
      s.toJson = t.toJson ∧ s.toJson.compact = t.toJson.compact) ∧
    ∀ s : Session, s.Regular →
      ofJson s.toJson = .ok s.withoutDigest ∧
      ∃ j, Json.parse s.toJson.compact = some j ∧ ofJson j = .ok s.withoutDigest := by
  constructor
  · intro s t same
    have json : s.toJson = t.toJson := by
      rw [← s.toJson_withoutDigest, same, t.toJson_withoutDigest]
    exact ⟨json, congrArg Json.compact json⟩
  · intro s regular
    exact ⟨ofJson_toJson regular, _, Json.parse_compact (s.reads_toJson _),
      ofJson_sorted_toJson regular⟩

/-- A session whose strings have quotes, backslashes, control characters and characters beyond the
basic plane, and whose times are the first second, one before 1970 and the last nanosecond. -/
def eccentric (digest : String) : Session where
  id := "\"id\\\n\x01"
  userId := "🙂 \x7b\x7d"
  tokenHash := digest
  createdAt := (Timestamp.make? Timestamp.firstSecond 0).getD .epoch
  updatedAt := (Timestamp.make? (-1) 1000).getD .epoch
  expiresAt := (Timestamp.make? Timestamp.lastSecond 999999999).getD .epoch
  ipAddress := ""
  userAgent := "\t/\r"

theorem told_but_for_digest_eccentric :
    (eccentric "aa").toJson.compact = (eccentric "bb").toJson.compact ∧
      ∃ j, Json.parse (eccentric "aa").toJson.compact = some j ∧
        ofJson j = .ok (eccentric "") := by
  obtain ⟨hidden, told⟩ := told_but_for_digest
  have regular : (eccentric "aa").Regular :=
    ⟨by decide, by decide, by decide⟩
  exact ⟨(hidden (eccentric "aa") (eccentric "bb") rfl).2, (told _ regular).2⟩

end SessionKit.Session
