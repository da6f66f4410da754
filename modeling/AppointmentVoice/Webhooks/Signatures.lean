import AppointmentVoice.Formats.Digests

/-!
# Signatures of webhooks

`webhook_security`, `twilio_security` and `verify_inbound_webhook_signature`: an
HMAC over a timestamp and the body, with two forms of header, and the signature of
Twilio.  The headers come from outside and can be any text.
-/

set_option autoImplicit false

namespace AppointmentVoice.Signatures

/-! ## Errors -/

/-- `webhook` is a `WebhookSignatureError`, `value` a `ValueError` of `int` or `str`. -/
inductive SignatureError where
  | webhook (message : String)
  | unauthorized (message : String)
  | twilio (message : String)
  | value
  | type
  deriving DecidableEq, Repr

/-- HMAC-SHA256 by secret and message. -/
abbrev Hmac : Type := String → List UInt8 → Digest

/-! ## The signature header -/

/-- `str.lower()`, as far as it gives ASCII characters. -/
def lowered (text : List Char) : List Char :=
  text.flatMap fun char =>
    if char.toNat = 0x212A then ['k']
    else if char.toNat = 0x130 then ['i', Char.ofNat 0x307]
    else [char.toLower]

/-- `[a-f0-9]` in either case. -/
def hexChar (char : Char) : Bool := isHexDigit char || ('A' ≤ char && char ≤ 'F')

/-- What may follow the digits in `STRIPE_STYLE_SIGNATURE_PATTERN`. -/
def stripeVersion : List Char → Option (Option (List Char))
  | [] => some none
  | ',' :: v :: '1' :: '=' :: digest =>
      if (v = 'v' ∨ v = 'V') ∧ digest ≠ [] ∧ digest.all hexChar then some (some digest) else none
  | _ => none

/-- `STRIPE_STYLE_SIGNATURE_PATTERN.fullmatch`: its two groups. -/
def stripeMatch : List Char → Option (List Char × Option (List Char))
  | t :: '=' :: rest => do
      if (t = 't' ∨ t = 'T') ∧ rest.takeWhile Customers.isDecimal ≠ [] then
        return (rest.takeWhile Customers.isDecimal,
          ← stripeVersion (rest.dropWhile Customers.isDecimal))
      else none
  | _ => none

def parseWebhookSignatureHeader (signature : String) :
    Except SignatureError (Option Int × List Char) := do
  let normalizedSignature := strip signature.toList
  match stripeMatch normalizedSignature with
  | some (digits, parsedSignature) =>
      let some timestamp := pyInt (String.ofList digits) | throw .value
      let some digest := parsedSignature
        | throw (.webhook "Webhook signature version is required")
      return (some timestamp, lowered digest)
  | none => return (none, lowered normalizedSignature)

/-! ## Verification -/

def buildTimestampedSigningMessage (timestamp : Int) (payload : List UInt8) :
    Except SignatureError (List UInt8) :=
  match pyStr timestamp with
  | some text => .ok ((text ++ ".").toUTF8.data.toList ++ payload)
  | none => .error .value

/-- The time of the server is in microseconds. -/
def verifyTimestampedHmacSignature (hmac : Hmac) (payload : List UInt8) (signature : String)
    (timestamp : Option Int) (secret : String) (toleranceSeconds : Int) (now : Option Int)
    (time : Instant) : Except SignatureError Int := do
  if secret = "" then throw (.webhook "Webhook signature secret is not configured")
  let (headerTimestamp, parsedSignature) ← parseWebhookSignatureHeader signature
  let some effectiveTimestamp := timestamp.or headerTimestamp
    | throw (.webhook "Webhook timestamp is required")
  let currentTimestamp := now.getD (time / 1000000)
  if toleranceSeconds < |currentTimestamp - effectiveTimestamp| then
    throw (.webhook "Webhook timestamp is outside the replay window")
  let signingMessage ← buildTimestampedSigningMessage effectiveTimestamp payload
  let expectedSignature := hmac secret signingMessage
  match compareDigest expectedSignature.text parsedSignature with
  | none => throw .type
  | some false => throw (.webhook "Invalid webhook signature")
  | some true => return effectiveTimestamp

/-- `except WebhookSignatureError as exc: raise UnauthorizedError(str(exc))`. -/
def asUnauthorized : Except SignatureError Int → Except SignatureError Unit
  | .ok _ => .ok ()
  | .error (.webhook message) => .error (.unauthorized message)
  | .error error => .error error

/-- `int(timestamp.strip())` of a header that may be missing. -/
def parsedTimestamp : Option String → Except SignatureError (Option Int)
  | none => .ok none
  | some timestamp =>
      match pyInt (String.ofList (strip timestamp.toList)) with
      | some number => .ok (some number)
      | none => .error (.unauthorized "Webhook timestamp must be a Unix timestamp")

def verifyInboundWebhookSignature (hmac : Hmac) (payload : List UInt8) (signature : Option String)
    (timestamp : Option String) (secret : String) (toleranceSeconds : Int) (time : Instant) :
    Except SignatureError Unit := do
  let some signature := signature
    | throw (.unauthorized "Webhook signature header is required")
  let timestamp ← parsedTimestamp timestamp
  asUnauthorized (verifyTimestampedHmacSignature hmac payload signature timestamp secret
    toleranceSeconds none time)

/-! ## Twilio -/

/-- What `base64` writes. -/
structure Base64 where
  text : List Char
  ascii : isAscii text = true

/-- HMAC-SHA1 in `base64`, by token and message. -/
abbrev TwilioMac : Type := String → String → Base64

def verifyTwilioSignature (mac : TwilioMac) (url : String) (formData : List (String × String))
    (signature authToken : String) : Except SignatureError Unit := do
  if authToken = "" then return
  let sorted := formData.mergeSort fun first second => decide (first.1 ≤ second.1)
  let text := url ++ String.join (sorted.map fun field => field.1 ++ field.2)
  match compareDigest (mac authToken text).text signature.toList with
  | none => throw .type
  | some false => throw (.twilio "Invalid Twilio signature")
  | some true => return

end AppointmentVoice.Signatures
