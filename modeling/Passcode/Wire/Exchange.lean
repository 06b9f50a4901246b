import Passcode.Exchange
import Passcode.Json.Record

/-!
The JSON forms of what a session and its service hand each other.
-/

set_option autoImplicit false

namespace Passcode

open Json

instance : Wire SendRequest where
  toJson r := record (("phone", Wire.toJson r.phone) ::
    if r.channels.isEmpty then [] else [("preferredChannels", Wire.toJson r.channels)])
  ofJson? j := do
    let field ← slots? ["phone", "preferredChannels"] j
    let phone ← (field "phone").required?
    let channels ← (field "preferredChannels").orDefault? []
    return { phone, channels }

/-- The counters are no part of the written receipt. -/
instance : Wire SendReceipt where
  toJson r := record [
    ("channel", Wire.toJson r.channel),
    ("requestId", Wire.toJson r.requestId),
    ("ttlSeconds", Wire.toJson r.ttl),
    ("maskedPhone", Wire.toJson r.maskedPhone)]
  ofJson? j := do
    let field ← slots? ["channel", "requestId", "ttlSeconds", "maskedPhone"] j
    let channel ← (field "channel").required?
    let requestId ← (field "requestId").required?
    let ttl ← (field "ttlSeconds").required?
    let maskedPhone ← (field "maskedPhone").required?
    return { channel, requestId, ttl, maskedPhone }

instance : Wire VerifyRequest where
  toJson r := record [
    ("phone", Wire.toJson r.phone),
    ("code", Wire.toJson r.code),
    ("requestId", Wire.toJson r.requestId)]
  ofJson? j := do
    let field ← slots? ["phone", "code", "requestId"] j
    let phone ← (field "phone").required?
    let code ← (field "code").required?
    let requestId ← (field "requestId").required?
    return { phone, code, requestId }

instance : Wire Verdict where
  toJson v := record ([
    ("verified", Wire.toJson v.verified),
    ("message", Wire.toJson v.message)] ++
    optionalMember "remainingAttempts" v.attemptsLeft)
  ofJson? j := do
    let field ← slots? ["verified", "message", "remainingAttempts"] j
    let verified ← (field "verified").required?
    let message ← (field "message").orDefault? ""
    let attemptsLeft ← (field "remainingAttempts").orDefault? none
    return { verified, message, attemptsLeft }

instance : Wire Quota where
  toJson q := record [
    ("remaining_phone", Wire.toJson q.phone),
    ("remaining_ip", Wire.toJson q.ip)]
  ofJson? j := do
    let field ← slots? ["remaining_phone", "remaining_ip"] j
    let phone ← (field "remaining_phone").optional?
    let ip ← (field "remaining_ip").optional?
    return { phone, ip }

instance : Wire ErrorBody where
  toJson b := record [
    ("code", Wire.toJson b.code),
    ("message", Wire.toJson b.message)]
  ofJson? j := do
    let field ← slots? ["code", "message"] j
    let code ← (field "code").required?
    let message ← (field "message").orDefault? ""
    return { code, message }

instance {α : Type} [Wire α] : Wire (Envelope α) where
  toJson e := record ([
    ("code", Wire.toJson e.code),
    ("message", Wire.toJson e.message)] ++
    optionalMember "data" e.data)
  ofJson? j := do
    let field ← slots? ["code", "message", "data"] j
    let code ← (field "code").required?
    let message ← (field "message").orDefault? ""
    let data ← (field "data").optional?
    return { code, message, data }

end Passcode
