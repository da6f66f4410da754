import AppointmentVoice.Services.PublicLinks

/-!
# Booking links are refused cleanly

A token that the application has made gives its booking back until it expires.  A token
from outside is refused by a `ValueError`, unless its two numbers can be read and its
signature is not ASCII: then `compare_digest` raises a `TypeError`, which nobody catches.

**The round trip.** What `generate_booking_token` writes, `verify_booking_token` reads back,
for every id, until the expiry and not after it (`RoundTrip`).

**Tokens from outside.** A token is verified or refused as it should be exactly if its
signature is not such a text (`answersCleanly_iff`); both parts are
`booking_links_answer_cleanly`.
-/

set_option autoImplicit false

namespace AppointmentVoice.PublicLinks

/-! ## Numbers and parts -/

theorem written_ok {number : Int} {text : String} (made : written number = .ok text) :
    pyStr number = some text ∧ text = toString number := by
  rw [written] at made
  cases found : pyStr number with
  | none => rw [found] at made; cases made
  | some short =>
      rw [found] at made
      obtain rfl := Except.ok.inj made
      exact ⟨rfl, (pyStr_eq_some.mp found).2.symm⟩

theorem written_of_some {number : Int} {text : String} (short : pyStr number = some text) :
    written number = .ok text := by
  rw [written, short]

theorem written_of_none {number : Int} (long : pyStr number = none) :
    written number = .error (.value tooManyDigits) := by
  rw [written, long]

/-- What is signed. -/
theorem sign_of_written {cfg : LinkSettings} {bookingId expUnix : Int} {id exp : String}
    (idText : written bookingId = .ok id) (expText : written expUnix = .ok exp) :
    sign cfg bookingId expUnix = .ok (cfg.hmacSha256 (signingKey cfg) (id ++ ":" ++ exp)) := by
  rw [sign, idText, expText]
  rfl

theorem split_append {separator : Char} {text : List Char} (apart : ∀ char ∈ text, char ≠ separator)
    (more : Nat) (rest : List Char) :
    split separator (more + 1) (text ++ separator :: rest) = text :: split separator more rest := by
  have within : ∀ char ∈ text, (decide (char ≠ separator)) = true :=
    fun char member => decide_eq_true (apart char member)
  rw [split, List.dropWhile_append_of_pos within, List.takeWhile_append_of_pos within]
  simp

/-- The parts of a token are what it was made of. -/
theorem parts_of_written {bookingId expUnix : Int} {id exp : String} (sig : List Char)
    (idText : written bookingId = .ok id) (expText : written expUnix = .ok exp) :
    parts (id ++ "." ++ exp ++ "." ++ String.ofList sig) = some (bookingId, expUnix, sig) := by
  obtain ⟨idRead, rfl⟩ := written_ok idText
  obtain ⟨expRead, rfl⟩ := written_ok expText
  have shape : (toString bookingId ++ "." ++ toString expUnix ++ "." ++ String.ofList sig).toList =
      (toString bookingId).toList ++ '.' :: ((toString expUnix).toList ++ '.' :: sig) := by
    simp [String.toList_append]
  have cut : split '.' 2 (toString bookingId ++ "." ++ toString expUnix ++ "." ++
      String.ofList sig).toList = [(toString bookingId).toList,
        (toString expUnix).toList, sig] := by
    rw [shape, split_append fun char => numeral_ne_dot, split_append fun char => numeral_ne_dot,
      split]
  rw [parts, cut]
  simp only [String.ofList_toList, pyInt_pyStr idRead, pyInt_pyStr expRead, Option.bind_eq_bind,
    Option.bind_some, Option.pure_def]

/-! ## Tokens of the application -/

/-- What making a token and verifying it later comes to. -/
def RoundTrip (cfg : LinkSettings) (issue : Instant) (bookingId : Int) : Prop :=
  (∃ token, generateBookingToken cfg issue bookingId = .ok token ∧
      ∀ later, verifyBookingToken cfg later token =
        if later ≤ expiry issue * 1000000 then .ok bookingId
        else .error (.value "Token has expired")) ∨
    generateBookingToken cfg issue bookingId = .error (.value tooManyDigits) ∧
      (pyStr bookingId = none ∨ pyStr (expiry issue) = none)

theorem ok_bind {α β : Type} (value : α) (next : α → Except LinkError β) :
    ((Except.ok value : Except LinkError α) >>= next) = next value := rfl

theorem verify_of_parts {cfg : LinkSettings} {time : Instant} {token : String}
    {bookingId expUnix : Int} {sig : List Char} {expected : Digest}
    (read : parts token = some (bookingId, expUnix, sig))
    (signed : sign cfg bookingId expUnix = .ok expected) :
    verifyBookingToken cfg time token =
      if isAscii sig then
        if expected.text = sig then
          if time ≤ expUnix * 1000000 then .ok bookingId
          else .error (.value "Token has expired")
        else .error (.value "Invalid token signature")
      else .error .type := by
  simp only [verifyBookingToken, read, signed, ok_bind, expected.compare]
  cases isAscii sig with
  | false => rfl
  | true =>
      rcases eq_or_ne expected.text sig with equal | other
      · rcases lt_or_ge (expUnix * 1000000) time with late | early
        · simp [equal, late, not_le.mpr late]
          rfl
        · simp [equal, early, not_lt.mpr early]
          rfl
      · simp [other]
        rfl

theorem roundTrip (cfg : LinkSettings) (issue : Instant) (bookingId : Int) :
    RoundTrip cfg issue bookingId := by
  cases idShort : pyStr bookingId with
  | none =>
      refine .inr ⟨?_, .inl idShort⟩
      rw [generateBookingToken, sign, written_of_none idShort]
      rfl
  | some id =>
      have idText := written_of_some idShort
      cases expShort : pyStr (expiry issue) with
      | none =>
          refine .inr ⟨?_, .inr expShort⟩
          simp only [generateBookingToken, sign, idText, written_of_none expShort, ok_bind]
          rfl
      | some exp =>
          have expText := written_of_some expShort
          have signed : sign cfg _ _ = _ := sign_of_written idText expText
          refine .inl ⟨id ++ "." ++ exp ++ "." ++ String.ofList
            (cfg.hmacSha256 (signingKey cfg) (id ++ ":" ++ exp)).text, ?_, fun later => ?_⟩
          · simp only [generateBookingToken, signed, idText, expText, ok_bind]
            rfl
          · rw [verify_of_parts (parts_of_written _ idText expText) signed,
              if_pos (isAscii_of_hex (Digest.hex _)), if_pos rfl]

/-! ## Tokens from outside -/

/-- The third part is the signature of the booking and of an expiry that has not passed. -/
def Genuine (cfg : LinkSettings) (time : Instant) (token : String) (bookingId : Int) : Prop :=
  ∃ expUnix signature, parts token = some (bookingId, expUnix, signature.text) ∧
    sign cfg bookingId expUnix = .ok signature ∧ time ≤ expUnix * 1000000

/-- A token is verified or refused as its callers expect. -/
def AnswersCleanly (cfg : LinkSettings) (db : Db) (time : Instant) (token : String) : Prop :=
  ((∃ bookingId, verifyBookingToken cfg time token = .ok bookingId ∧
      Genuine cfg time token bookingId) ∨
    ∃ message, verifyBookingToken cfg time token = .error (.value message)) ∧
  ∀ error, getBookingByPublicToken cfg db time token = .error error → error = .notFound "booking"

/-- Both numbers can be read, and the signature is not ASCII. -/
def strangeSignature (token : String) : Bool :=
  match parts token with
  | some (_, _, sig) => !isAscii sig
  | none => false

theorem verify_of_no_parts {cfg : LinkSettings} {time : Instant} {token : String}
    (unread : parts token = none) :
    verifyBookingToken cfg time token = .error (.value "Invalid token format") := by
  rw [verifyBookingToken, unread]
  rfl

/-- The numbers of a token can be signed. -/
theorem sign_of_parts (cfg : LinkSettings) {token : String} {bookingId expUnix : Int}
    {sig : List Char} (read : parts token = some (bookingId, expUnix, sig)) :
    ∃ signature, sign cfg bookingId expUnix = .ok signature := by
  rw [parts] at read
  split at read
  · obtain ⟨id, idRead, read⟩ := Option.bind_eq_some_iff.mp read
    obtain ⟨exp, expRead, read⟩ := Option.bind_eq_some_iff.mp read
    obtain ⟨rfl, rfl, -⟩ : id = bookingId ∧ exp = expUnix ∧ _ := by simpa using read
    exact ⟨_, sign_of_written (written_of_some (pyStr_of_pyInt idRead))
      (written_of_some (pyStr_of_pyInt expRead))⟩
  · cases read

/-- A refusal by a `ValueError` is a booking that is not found. -/
theorem get_of_value {cfg : LinkSettings} {db : Db} {time : Instant} {token message : String}
    (refused : verifyBookingToken cfg time token = .error (.value message)) :
    getBookingByPublicToken cfg db time token = .error (.notFound "booking") := by
  rw [getBookingByPublicToken, refused]

theorem get_of_ok {cfg : LinkSettings} {db : Db} {time : Instant} {token : String}
    {bookingId : Int} {error : LinkError}
    (verified : verifyBookingToken cfg time token = .ok bookingId)
    (failed : getBookingByPublicToken cfg db time token = .error error) :
    error = .notFound "booking" := by
  rw [getBookingByPublicToken, verified] at failed
  dsimp only at failed
  split at failed
  · exact (Except.error.inj failed).symm
  · cases failed

theorem answersCleanly_of_value {cfg : LinkSettings} {db : Db} {time : Instant}
    {token message : String}
    (refused : verifyBookingToken cfg time token = .error (.value message)) :
    AnswersCleanly cfg db time token := by
  refine ⟨.inr ⟨message, refused⟩, fun error failed => ?_⟩
  rw [get_of_value refused] at failed
  exact (Except.error.inj failed).symm

theorem answersCleanly_iff (cfg : LinkSettings) (db : Db) (time : Instant) (token : String) :
    AnswersCleanly cfg db time token ↔ strangeSignature token = false := by
  rw [strangeSignature]
  cases read : parts token with
  | none => exact iff_of_true (answersCleanly_of_value (verify_of_no_parts read)) rfl
  | some fields =>
      obtain ⟨bookingId, expUnix, sig⟩ := fields
      obtain ⟨signature, signed⟩ := sign_of_parts cfg read
      have verified : verifyBookingToken cfg time token = _ := verify_of_parts read signed
      rw [Bool.not_eq_false']
      constructor
      · rintro ⟨⟨_, accepted, -⟩ | ⟨message, refused⟩, -⟩
        all_goals
          by_contra strange
          rw [if_neg strange] at verified
        · cases verified.symm.trans accepted
        · cases verified.symm.trans refused
      · intro ascii
        rw [if_pos ascii] at verified
        split at verified
        · rename_i same
          split at verified
          · rename_i early
            refine ⟨.inl ⟨bookingId, verified, expUnix, signature, same ▸ read, signed, early⟩, ?_⟩
            exact fun error => get_of_ok verified
          · exact answersCleanly_of_value verified
        · exact answersCleanly_of_value verified

/-! ## Booking links -/

/-- A link of the application goes through until it expires and is refused afterwards; a
token from outside is verified or refused cleanly exactly if its signature is not a text
that `compare_digest` rejects. -/
theorem booking_links_answer_cleanly (cfg : LinkSettings) :
    (∀ issue bookingId, RoundTrip cfg issue bookingId) ∧
      ∀ db time token, AnswersCleanly cfg db time token ↔ strangeSignature token = false :=
  ⟨roundTrip cfg, answersCleanly_iff cfg⟩

/-- One digest for every message. -/
def sampleLinkSettings : LinkSettings := ⟨"secret", fun _ _ => ⟨['0', 'f'], by decide⟩⟩

/-- A signature with an accent is a `TypeError`. -/
theorem accented_signature_escapes :
    getBookingByPublicToken sampleLinkSettings .empty 0 "1.1.\u00e9" = .error .type ∧
      ¬ AnswersCleanly sampleLinkSettings .empty 0 "1.1.\u00e9" := by
  have escaped : verifyBookingToken sampleLinkSettings 0 "1.1.\u00e9" = .error .type := by
    decide +kernel
  have uncaught :
      getBookingByPublicToken sampleLinkSettings .empty 0 "1.1.\u00e9" = .error .type := by
    rw [getBookingByPublicToken, escaped]
  exact ⟨uncaught, fun clean => absurd (clean.2 _ uncaught) (by decide)⟩

/-- A link is good in the second in which it expires. -/
example : (generateBookingToken sampleLinkSettings 0 7).bind
    (verifyBookingToken sampleLinkSettings (expiry 0 * 1000000)) = .ok 7 := by decide +kernel

end AppointmentVoice.PublicLinks
