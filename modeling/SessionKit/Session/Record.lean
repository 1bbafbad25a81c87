import SessionKit.Decode
import SessionKit.Text.Quoted
import SessionKit.Time.Reader

/-!
# Sessions

A session holds the digest of the client's token, never the token itself. The digest is left out of
the JSON form.
-/

namespace SessionKit

structure Session where
  id : String
  userId : String
  /-- The digest of the token. -/
  tokenHash : String
  ipAddress : String
  userAgent : String
  createdAt : Timestamp
  updatedAt : Timestamp
  /-- When the session is good no longer. -/
  expiresAt : Timestamp
  deriving DecidableEq, Repr

namespace Session

/-- A session ends at its expiry, not after it. -/
def isExpiredAt (s : Session) (now : Timestamp) : Bool := s.expiresAt ≤ now

/-! ## JSON -/

def toJson (s : Session) : Json :=
  .object
    [("id", .string s.id), ("user_id", .string s.userId), ("ip_address", .string s.ipAddress),
     ("user_agent", .string s.userAgent), ("created_at", .string s.createdAt.toText),
     ("updated_at", .string s.updatedAt.toText), ("expires_at", .string s.expiresAt.toText)]

/-- What has been decoded of a session. -/
structure Draft where
  id : Option String := none
  userId : Option String := none
  tokenHash : String := ""
  ipAddress : Option String := none
  userAgent : Option String := none
  createdAt : Option Timestamp := none
  updatedAt : Option Timestamp := none
  expiresAt : Option Timestamp := none

def timeDecoder : Decode.Decoder Timestamp
  | _, .string s => (Timestamp.parse s).mapError fun e => .invalidText e.message
  | format, j => Decode.mismatch format j "an RFC 3339 formatted date and time string"

open Decode (field)

def fields : List (Decode.Field Draft) :=
  [field "id" Decode.text fun v s => { s with id := some v },
   field "user_id" Decode.text fun v s => { s with userId := some v },
   field "token_hash" Decode.text fun v s => { s with tokenHash := v },
   field "ip_address" Decode.text fun v s => { s with ipAddress := some v },
   field "user_agent" Decode.text fun v s => { s with userAgent := some v },
   field "created_at" timeDecoder fun v s => { s with createdAt := some v },
   field "updated_at" timeDecoder fun v s => { s with updatedAt := some v },
   field "expires_at" timeDecoder fun v s => { s with expiresAt := some v }]

def require {α : Type} (missing : String → DecodeError) (name : String) :
    Option α → Except DecodeError α
  | some v => .ok v
  | none => .error (missing name)

/-- Only the digest may be missing. -/
def Draft.finish (missing : String → DecodeError) (d : Draft) : Except DecodeError Session := do
  return {
    id := ← require missing "id" d.id
    userId := ← require missing "user_id" d.userId
    tokenHash := d.tokenHash
    ipAddress := ← require missing "ip_address" d.ipAddress
    userAgent := ← require missing "user_agent" d.userAgent
    createdAt := ← require missing "created_at" d.createdAt
    updatedAt := ← require missing "updated_at" d.updatedAt
    expiresAt := ← require missing "expires_at" d.expiresAt }

/-- An array ends before the place of a field. -/
def tooFewItems (name : String) : DecodeError :=
  .invalidLength ((fields.map (·.name)).idxOf name)
    s!"struct Session with {fields.length} elements"

def decoder : Decode.Decoder Session
  | format, .object ms => do
    (← Decode.members fields format ms {}).finish .missingField
  | format, .array js => do
    let (d, _, rest) ← Decode.items format fields js {}
    let s ← d.finish tooFewItems
    Decode.checkLength format js rest
    return s
  | format, j => Decode.mismatch format j "struct Session"

def ofJson (j : Json) : Except DecodeError Session := decoder .json j

/-! ## Descriptions -/

def describe (s : Session) : String :=
  s!"Session \x7b id: {Text.quoted s.id}, user_id: {Text.quoted s.userId}, " ++
    s!"token_hash: {Text.quoted s.tokenHash}, ip_address: {Text.quoted s.ipAddress}, " ++
    s!"user_agent: {Text.quoted s.userAgent}, created_at: {s.createdAt.toText}, " ++
    s!"updated_at: {s.updatedAt.toText}, expires_at: {s.expiresAt.toText} \x7d"

/-- A session that was just issued, with the token that only the client keeps. -/
structure Created where
  session : Session
  token : String
  deriving DecidableEq, Repr

/-- A description that does not give the token away. -/
def Created.redacted (c : Created) : String :=
  s!"CreatedSession \x7b session: {c.session.describe}, token: \"<redacted>\" \x7d"

end Session
end SessionKit
