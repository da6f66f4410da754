import AppointmentVoice.Formats.Digests

/-!
# Booking links

`booking_public_service`: a link names a booking and the time until which it is good, and
carries a signature over both.  The token comes back as a segment of an address, so that
it can be any text.
-/

set_option autoImplicit false

namespace AppointmentVoice.PublicLinks

/-! ## Settings and errors -/

/-- The secret of the application and HMAC-SHA256, by key and message. -/
structure LinkSettings where
  secretKey : String
  hmacSha256 : String → String → Digest

/-- The errors of the links: `ValueError`, `TypeError` and `NotFoundError`. -/
inductive LinkError where
  | value (message : String)
  | type
  | notFound (resource : String)
  deriving DecidableEq, Repr

/-- What `str` and `int` say of a number that is too long. -/
def tooManyDigits : String :=
  "Exceeds the limit (4300 digits) for integer string conversion; " ++
    "use sys.set_int_max_str_digits() to increase the limit"

/-- `f"{number}"`. -/
def written (number : Int) : Except LinkError String :=
  match pyStr number with
  | some text => .ok text
  | none => .error (.value tooManyDigits)

/-! ## Tokens -/

/-- `_signing_key`. -/
def signingKey (cfg : LinkSettings) : String := cfg.secretKey ++ ":booking_management"

/-- `_sign`. -/
def sign (cfg : LinkSettings) (bookingId expUnix : Int) : Except LinkError Digest := do
  let id ← written bookingId
  let exp ← written expUnix
  return cfg.hmacSha256 (signingKey cfg) (id ++ ":" ++ exp)

/-- When a link that is made at a time expires, in seconds. -/
def expiry (time : Instant) : Int := time / 1000000 + bookingTokenTtlSeconds

/-- `generate_booking_token`. -/
def generateBookingToken (cfg : LinkSettings) (time : Instant) (bookingId : Int) :
    Except LinkError String := do
  let expUnix := expiry time
  let sig ← sign cfg bookingId expUnix
  let id ← written bookingId
  let exp ← written expUnix
  return id ++ "." ++ exp ++ "." ++ String.ofList sig.text

/-- `text.split(separator, maxsplit)`. -/
def split (separator : Char) : Nat → List Char → List (List Char)
  | 0, text => [text]
  | more + 1, text =>
      match text.dropWhile (· ≠ separator) with
      | [] => [text]
      | _ :: rest => text.takeWhile (· ≠ separator) :: split separator more rest

/-- The two numbers and the signature of a token; `none` is a `ValueError`. -/
def parts (token : String) : Option (Int × Int × List Char) :=
  match split '.' 2 token.toList with
  | [rawId, rawExp, sig] => do
      let bookingId ← pyInt (String.ofList rawId)
      let expUnix ← pyInt (String.ofList rawExp)
      return (bookingId, expUnix, sig)
  | _ => none

/-- `verify_booking_token`. -/
def verifyBookingToken (cfg : LinkSettings) (time : Instant) (token : String) :
    Except LinkError Int := do
  let some (bookingId, expUnix, sig) := parts token
    | throw (.value "Invalid token format")
  let expected ← sign cfg bookingId expUnix
  let some equal := compareDigest expected.text sig | throw .type
  if !equal then throw (.value "Invalid token signature")
  if expUnix * 1000000 < time then throw (.value "Token has expired")
  return bookingId

/-- `get_booking_by_public_token`: only a `ValueError` becomes a `NotFoundError`. -/
def getBookingByPublicToken (cfg : LinkSettings) (db : Db) (time : Instant) (token : String) :
    Except LinkError Booking :=
  match verifyBookingToken cfg time token with
  | .error (.value _) => .error (.notFound "booking")
  | .error error => .error error
  | .ok bookingId =>
      match db.bookings.find? fun row => (row.id : Int) == bookingId with
      | none => .error (.notFound "booking")
      | some booking => .ok booking

end AppointmentVoice.PublicLinks
