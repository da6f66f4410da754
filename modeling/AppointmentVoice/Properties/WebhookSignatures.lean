import AppointmentVoice.Webhooks.Signatures

/-!
# Webhook signatures

A webhook is accepted exactly if its digest is that of its timestamp and body, and the
timestamp is within the tolerance.  A request that is not accepted is unauthorized, apart
from two kinds: a `t=` field that is too long for `int`, and a digest that is not ASCII and
is reached by `compare_digest`.

**The result.** A header settles the request exactly outside these kinds (`settled_iff`,
`twilio_settled_iff`), which is `webhook_signatures_fail_cleanly`; `accented_digest_escapes` is
a digest of the second kind.
-/

set_option autoImplicit false

namespace AppointmentVoice.Signatures

/-! ## What a request presents -/

/-- The timestamp header, or else the field of the signature header. -/
def NamedTimestamp (signature : String) (timestamp : Option String) (ts : Int) : Prop :=
  match timestamp with
  | some text => pyInt (String.ofList (strip text.toList)) = some ts
  | none => ∃ digits digest, stripeMatch (strip signature.toList) = some (digits, some digest) ∧
      pyInt (String.ofList digits) = some ts

/-- The digest of the signature header. -/
def presentedDigest (signature : String) : Option (List Char) :=
  match stripeMatch (strip signature.toList) with
  | some (_, digest) => digest
  | none => some (strip signature.toList)

/-- The digest that belongs to a timestamp and a body. -/
def properDigest (hmac : Hmac) (secret : String) (ts : Int) (payload : List UInt8) : Digest :=
  hmac secret ((toString ts ++ ".").toUTF8.data.toList ++ payload)

def Valid (hmac : Hmac) (payload : List UInt8) (signature : String) (timestamp : Option String)
    (secret : String) (toleranceSeconds : Int) (time : Instant) : Prop :=
  ∃ ts digest, NamedTimestamp signature timestamp ts ∧
    |time / 1000000 - ts| ≤ toleranceSeconds ∧ presentedDigest signature = some digest ∧
    lowered digest = (properDigest hmac secret ts payload).text

/-- Accepted exactly if valid, and unauthorized otherwise. -/
def Settled (valid : Prop) (outcome : Except SignatureError Unit) : Prop :=
  (outcome = .ok () ↔ valid) ∧
    ∀ error, outcome = .error error → ∃ message, error = .unauthorized message

theorem Settled.accepted {valid : Prop} (holds : valid) : Settled valid (.ok ()) :=
  ⟨iff_of_true rfl holds, by rintro _ ⟨⟩⟩

theorem Settled.refused {valid : Prop} (message : String) (fails : ¬ valid) :
    Settled valid (.error (.unauthorized message)) :=
  ⟨iff_of_false (by rintro ⟨⟩) fails, fun _ same => ⟨message, (Except.error.inj same).symm⟩⟩

theorem not_settled_value {valid : Prop} : ¬ Settled valid (.error .value) := by
  rintro ⟨-, unauthorized⟩
  obtain ⟨message, same⟩ := unauthorized _ rfl
  cases same

theorem not_settled_type {valid : Prop} : ¬ Settled valid (.error .type) := by
  rintro ⟨-, unauthorized⟩
  obtain ⟨message, same⟩ := unauthorized _ rfl
  cases same

/-! ## The requests that break -/

/-- The `t=` field has more digits than `int` reads. -/
def longTimestamp (signature : String) : Bool :=
  match stripeMatch (strip signature.toList) with
  | some (digits, _) => (pyInt (String.ofList digits)).isNone
  | none => false

/-- The header is a bare digest and has a character outside of ASCII. -/
def strangeDigest (signature : String) : Bool :=
  match stripeMatch (strip signature.toList) with
  | some _ => false
  | none => !isAscii (lowered (strip signature.toList))

/-- The timestamp header can be read if there is one, and the signature header breaks the
parse or the comparison. -/
def Breaks (signature : String) (timestamp : Option String) (toleranceSeconds : Int)
    (time : Instant) : Prop :=
  ∃ given, parsedTimestamp timestamp = .ok given ∧
    (longTimestamp signature = true ∨
      strangeDigest signature = true ∧
        ∃ ts, given = some ts ∧ |time / 1000000 - ts| ≤ toleranceSeconds)

theorem ok_bind {α β : Type} (value : α) (next : α → Except SignatureError β) :
    ((Except.ok value : Except SignatureError α) >>= next) = next value := rfl

/-! ## The parse -/

theorem hexChar_ascii {char : Char} (hex : hexChar char = true) : char.toNat < 128 := by
  rw [hexChar, isHexDigit] at hex
  simp only [Bool.or_eq_true, Bool.and_eq_true, decide_eq_true_eq] at hex
  have below : ∀ bound : Char, char ≤ bound → char.toNat ≤ bound.toNat := fun bound le => le
  rcases hex with (⟨-, le⟩ | ⟨-, le⟩) | ⟨-, le⟩
  · exact (below '9' le).trans_lt (by decide)
  · exact (below 'f' le).trans_lt (by decide)
  · exact (below 'F' le).trans_lt (by decide)

theorem toLower_ascii {char : Char} (small : char.toNat < 128) : char.toLower.toNat < 128 := by
  have table : ∀ code < 128, (Char.ofNat code).toLower.toNat < 128 := by decide
  simpa only [Char.ofNat_toNat] using table char.toNat small

theorem lowered_ascii {digest : List Char} (hex : digest.all hexChar = true) :
    isAscii (lowered digest) = true := by
  rw [isAscii, List.all_eq_true]
  intro other member
  obtain ⟨char, inside, from_char⟩ := List.mem_flatMap.mp member
  have small := hexChar_ascii (List.all_eq_true.mp hex char inside)
  rw [if_neg (by omega), if_neg (by omega), List.mem_singleton] at from_char
  rw [from_char, decide_eq_true_eq]
  exact toLower_ascii small

theorem stripeVersion_hex {rest digest : List Char}
    (found : stripeVersion rest = some (some digest)) : digest.all hexChar = true := by
  rw [stripeVersion.eq_def] at found
  split at found
  · cases found
  · split at found
    · rename_i shape
      obtain rfl := Option.some.inj (Option.some.inj found)
      exact shape.2.2
    · cases found
  · cases found

theorem stripeMatch_hex {text digits digest : List Char}
    (found : stripeMatch text = some (digits, some digest)) : digest.all hexChar = true := by
  rw [stripeMatch.eq_def] at found
  split at found
  · split at found
    · obtain ⟨version, read, same⟩ := Option.bind_eq_some_iff.mp found
      obtain ⟨-, rfl⟩ := Prod.mk.inj (Option.some.inj same)
      exact stripeVersion_hex read
    · cases found
  · cases found

/-! ## Verification -/

section

variable {hmac : Hmac} {payload : List UInt8} {signature secret : String} {toleranceSeconds : Int}
  {time : Instant}

/-- What is left to check once the headers have been read. -/
theorem verify_of_timestamp {timestamp header : Option Int} {digest : List Char} {ts : Int}
    (configured : secret ≠ "")
    (parsed : parseWebhookSignatureHeader signature = .ok (header, digest))
    (effective : timestamp.or header = some ts) (short : pyStr ts = some (toString ts)) :
    verifyTimestampedHmacSignature hmac payload signature timestamp secret toleranceSeconds none
        time =
      if toleranceSeconds < |time / 1000000 - ts| then
        .error (.webhook "Webhook timestamp is outside the replay window")
      else if isAscii digest then
        if (properDigest hmac secret ts payload).text = digest then .ok ts
        else .error (.webhook "Invalid webhook signature")
      else .error .type := by
  have message : buildTimestampedSigningMessage ts payload =
      .ok ((toString ts ++ ".").toUTF8.data.toList ++ payload) := by
    rw [buildTimestampedSigningMessage, short]
  simp only [verifyTimestampedHmacSignature, if_neg configured, parsed, ok_bind, effective,
    message, Digest.compare, Option.getD_none]
  by_cases late : toleranceSeconds < |time / 1000000 - ts|
  · simp only [if_pos late]
    rfl
  · have proper : hmac secret ((toString ts ++ ".").toUTF8.data.toList ++ payload) =
        properDigest hmac secret ts payload := rfl
    simp only [if_neg late, proper]
    cases isAscii digest with
    | false => rfl
    | true =>
        rcases eq_or_ne (properDigest hmac secret ts payload).text digest with equal | other
        · simp only [if_pos, equal, beq_self_eq_true]
          rfl
        · simp only [if_pos, beq_eq_false_iff_ne.mpr other]
          rw [if_neg other]
          rfl

theorem verify_of_unparsed {timestamp : Option Int} {error : SignatureError}
    (configured : secret ≠ "") (failed : parseWebhookSignatureHeader signature = .error error) :
    verifyTimestampedHmacSignature hmac payload signature timestamp secret toleranceSeconds none
      time = .error error := by
  simp only [verifyTimestampedHmacSignature, if_neg configured, failed]
  rfl

theorem verify_of_no_timestamp {digest : List Char} (configured : secret ≠ "")
    (parsed : parseWebhookSignatureHeader signature = .ok (none, digest)) :
    verifyTimestampedHmacSignature hmac payload signature none secret toleranceSeconds none time =
      .error (.webhook "Webhook timestamp is required") := by
  simp only [verifyTimestampedHmacSignature, if_neg configured, parsed, ok_bind]
  rfl

/-- What the caller makes of a verification. -/
theorem inbound_of_parsed {timestamp : Option String} {given : Option Int}
    (parsed : parsedTimestamp timestamp = .ok given) :
    verifyInboundWebhookSignature hmac payload (some signature) timestamp secret toleranceSeconds
        time =
      asUnauthorized (verifyTimestampedHmacSignature hmac payload signature given secret
        toleranceSeconds none time) := by
  simp only [verifyInboundWebhookSignature, parsed, ok_bind]

/-! ## Each kind of signature header -/

theorem parse_bare (bare : stripeMatch (strip signature.toList) = none) :
    parseWebhookSignatureHeader signature = .ok (none, lowered (strip signature.toList)) := by
  simp only [parseWebhookSignatureHeader, bare]
  rfl

theorem parse_long {digits : List Char} {digest : Option (List Char)}
    (form : stripeMatch (strip signature.toList) = some (digits, digest))
    (long : pyInt (String.ofList digits) = none) :
    parseWebhookSignatureHeader signature = .error .value := by
  simp only [parseWebhookSignatureHeader, form, long]
  rfl

theorem parse_no_version {digits : List Char} {ts : Int}
    (form : stripeMatch (strip signature.toList) = some (digits, none))
    (read : pyInt (String.ofList digits) = some ts) :
    parseWebhookSignatureHeader signature =
      .error (.webhook "Webhook signature version is required") := by
  simp only [parseWebhookSignatureHeader, form, read]
  rfl

theorem parse_stripe {digits digest : List Char} {ts : Int}
    (form : stripeMatch (strip signature.toList) = some (digits, some digest))
    (read : pyInt (String.ofList digits) = some ts) :
    parseWebhookSignatureHeader signature = .ok (some ts, lowered digest) := by
  simp only [parseWebhookSignatureHeader, form, read]
  rfl

/-- A timestamp that is named can be written again. -/
theorem NamedTimestamp.short {timestamp : Option String} {ts : Int}
    (named : NamedTimestamp signature timestamp ts) : pyStr ts = some (toString ts) := by
  cases timestamp with
  | some text => exact pyStr_of_pyInt named
  | none =>
      obtain ⟨_, _, -, read⟩ := named
      exact pyStr_of_pyInt read

/-- A request that names its timestamp and presents its digest. -/
theorem settled_of_named {timestamp : Option String} {given header : Option Int} {ts : Int}
    {digest : List Char} (configured : secret ≠ "")
    (parsed : parsedTimestamp timestamp = .ok given)
    (headers : parseWebhookSignatureHeader signature = .ok (header, lowered digest))
    (effective : given.or header = some ts)
    (named : ∀ other, NamedTimestamp signature timestamp other ↔ other = ts)
    (presented : presentedDigest signature = some digest) :
    Settled (Valid hmac payload signature timestamp secret toleranceSeconds time)
        (verifyInboundWebhookSignature hmac payload (some signature) timestamp secret
          toleranceSeconds time) ↔
      ¬ (isAscii (lowered digest) = false ∧ |time / 1000000 - ts| ≤ toleranceSeconds) := by
  have short := ((named ts).mpr rfl).short
  have valid : Valid hmac payload signature timestamp secret toleranceSeconds time ↔
      |time / 1000000 - ts| ≤ toleranceSeconds ∧
        lowered digest = (properDigest hmac secret ts payload).text := by
    constructor
    · rintro ⟨other, shown, names, near, same, equal⟩
      obtain rfl := (named other).mp names
      obtain rfl := Option.some.inj (presented.symm.trans same)
      exact ⟨near, equal⟩
    · rintro ⟨near, equal⟩
      exact ⟨ts, digest, (named ts).mpr rfl, near, presented, equal⟩
  rw [inbound_of_parsed parsed, verify_of_timestamp configured headers effective short]
  by_cases late : toleranceSeconds < |time / 1000000 - ts|
  · rw [if_pos late]
    refine iff_of_true (.refused _ fun accepted => ?_) fun strange => ?_
    · exact absurd (valid.mp accepted).1 (not_le.mpr late)
    · exact absurd strange.2 (not_le.mpr late)
  · rw [if_neg late]
    cases ascii : isAscii (lowered digest) with
    | false => exact iff_of_false not_settled_type fun none => none ⟨rfl, not_lt.mp late⟩
    | true =>
        rw [if_pos rfl]
        refine iff_of_true ?_ fun strange => Bool.noConfusion strange.1
        by_cases equal : (properDigest hmac secret ts payload).text = lowered digest
        · rw [if_pos equal]
          exact .accepted (valid.mpr ⟨not_lt.mp late, equal.symm⟩)
        · rw [if_neg equal]
          exact .refused _ fun accepted => equal (valid.mp accepted).2.symm

theorem settled_of_unparsed {timestamp : Option String} {given : Option Int} {message : String}
    (configured : secret ≠ "") (parsed : parsedTimestamp timestamp = .ok given)
    (failed : parseWebhookSignatureHeader signature = .error (.webhook message))
    (absent : presentedDigest signature = none) :
    Settled (Valid hmac payload signature timestamp secret toleranceSeconds time)
      (verifyInboundWebhookSignature hmac payload (some signature) timestamp secret
        toleranceSeconds time) := by
  rw [inbound_of_parsed parsed, verify_of_unparsed configured failed]
  refine .refused _ ?_
  rintro ⟨_, digest, -, -, present, -⟩
  cases absent.symm.trans present

theorem parsedTimestamp_ok {timestamp : Option String} {given : Option Int}
    (parsed : parsedTimestamp timestamp = .ok given) :
    timestamp = none ∧ given = none ∨
      ∃ text ts, timestamp = some text ∧ given = some ts ∧
        pyInt (String.ofList (strip text.toList)) = some ts := by
  cases timestamp with
  | none => exact .inl ⟨rfl, (Except.ok.inj parsed).symm⟩
  | some text =>
      rw [parsedTimestamp] at parsed
      split at parsed
      · rename_i ts read
        exact .inr ⟨text, ts, rfl, (Except.ok.inj parsed).symm, read⟩
      · cases parsed

/-- A timestamp header takes precedence. -/
theorem named_of_header {text : String} {ts : Int}
    (read : pyInt (String.ofList (strip text.toList)) = some ts) (other : Int) :
    NamedTimestamp signature (some text) other ↔ other = ts :=
  ⟨fun named => Option.some.inj (named.symm.trans read), fun same => same ▸ read⟩

theorem named_of_field {digits digest : List Char} {ts : Int}
    (form : stripeMatch (strip signature.toList) = some (digits, some digest))
    (read : pyInt (String.ofList digits) = some ts) (other : Int) :
    NamedTimestamp signature none other ↔ other = ts := by
  constructor
  · rintro ⟨digits', digest', form', read'⟩
    obtain ⟨rfl, -⟩ := Prod.mk.inj (Option.some.inj (form.symm.trans form'))
    exact Option.some.inj (read'.symm.trans read)
  · rintro rfl
    exact ⟨digits, digest, form, read⟩

/-- A header of the form of Stripe, with a timestamp that `int` reads. -/
theorem settled_of_stripe {timestamp : Option String} {given : Option Int}
    {digits digest : List Char} {ts : Int} (configured : secret ≠ "")
    (parsed : parsedTimestamp timestamp = .ok given)
    (form : stripeMatch (strip signature.toList) = some (digits, some digest))
    (read : pyInt (String.ofList digits) = some ts) :
    Settled (Valid hmac payload signature timestamp secret toleranceSeconds time)
      (verifyInboundWebhookSignature hmac payload (some signature) timestamp secret
        toleranceSeconds time) := by
  have presented : presentedDigest signature = some digest := by
    rw [presentedDigest, form]
  have ascii := lowered_ascii (stripeMatch_hex form)
  rcases parsedTimestamp_ok parsed with ⟨rfl, rfl⟩ | ⟨text, other, rfl, rfl, header⟩
  · refine (settled_of_named configured parsed (parse_stripe form read) rfl
      (named_of_field form read) presented).mpr ?_
    rw [ascii]
    exact fun strange => Bool.noConfusion strange.1
  · refine (settled_of_named configured parsed (parse_stripe form read) rfl
      (named_of_header header) presented).mpr ?_
    rw [ascii]
    exact fun strange => Bool.noConfusion strange.1

/-- A bare digest needs a timestamp header. -/
theorem settled_of_bare {timestamp : Option String} {given : Option Int} (configured : secret ≠ "")
    (parsed : parsedTimestamp timestamp = .ok given)
    (bare : stripeMatch (strip signature.toList) = none) :
    Settled (Valid hmac payload signature timestamp secret toleranceSeconds time)
        (verifyInboundWebhookSignature hmac payload (some signature) timestamp secret
          toleranceSeconds time) ↔
      ¬ (isAscii (lowered (strip signature.toList)) = false ∧
        ∃ ts, given = some ts ∧ |time / 1000000 - ts| ≤ toleranceSeconds) := by
  have presented : presentedDigest signature = some (strip signature.toList) := by
    rw [presentedDigest, bare]
  rcases parsedTimestamp_ok parsed with ⟨rfl, rfl⟩ | ⟨text, ts, rfl, rfl, header⟩
  · refine iff_of_true ?_ ?_
    · rw [inbound_of_parsed parsed, verify_of_no_timestamp configured (parse_bare bare)]
      refine .refused _ ?_
      rintro ⟨_, _, ⟨_, _, form, -⟩, -⟩
      cases bare.symm.trans form
    · rintro ⟨-, _, ⟨⟩, -⟩
  · rw [settled_of_named configured parsed (parse_bare bare) rfl (named_of_header header) presented]
    refine not_congr (and_congr_right fun _ => ⟨fun near => ⟨ts, rfl, near⟩, ?_⟩)
    rintro ⟨_, ⟨⟩, near⟩
    exact near

theorem settled_iff (configured : secret ≠ "") (timestamp : Option String) :
    Settled (Valid hmac payload signature timestamp secret toleranceSeconds time)
        (verifyInboundWebhookSignature hmac payload (some signature) timestamp secret
          toleranceSeconds time) ↔
      ¬ Breaks signature timestamp toleranceSeconds time := by
  cases parsed : parsedTimestamp timestamp with
  | error error =>
      refine iff_of_true ?_ ?_
      · rw [parsedTimestamp.eq_def] at parsed
        split at parsed
        · cases parsed
        · rename_i text
          split at parsed
          · cases parsed
          · rename_i unread
            obtain rfl := Except.error.inj parsed
            simp only [verifyInboundWebhookSignature, parsedTimestamp, unread]
            refine .refused _ ?_
            rintro ⟨ts, _, named, -⟩
            cases unread.symm.trans named
      · rintro ⟨given, read, -⟩
        cases parsed.symm.trans read
  | ok given =>
      have breaks : Breaks signature timestamp toleranceSeconds time ↔
          longTimestamp signature = true ∨ strangeDigest signature = true ∧
            ∃ ts, given = some ts ∧ |time / 1000000 - ts| ≤ toleranceSeconds := by
        constructor
        · rintro ⟨other, read, breaks⟩
          obtain rfl := Except.ok.inj (parsed.symm.trans read)
          exact breaks
        · exact fun breaks => ⟨given, parsed, breaks⟩
      rw [breaks, longTimestamp, strangeDigest]
      cases form : stripeMatch (strip signature.toList) with
      | none => simpa using settled_of_bare configured parsed form
      | some groups =>
          obtain ⟨digits, version⟩ := groups
          cases read : pyInt (String.ofList digits) with
          | none =>
              rw [inbound_of_parsed parsed, verify_of_unparsed configured (parse_long form read)]
              exact iff_of_false not_settled_value fun clean => clean (.inl (by simp [read]))
          | some ts =>
              refine iff_of_true ?_ (by simp [read])
              cases version with
              | none =>
                  exact settled_of_unparsed configured parsed (parse_no_version form read)
                    (by rw [presentedDigest, form])
              | some digest => exact settled_of_stripe configured parsed form read

end

/-! ## Twilio -/

/-- Accepted, or refused as the caller expects. -/
def TwilioSettled (outcome : Except SignatureError Unit) : Prop :=
  outcome = .ok () ∨ ∃ message, outcome = .error (.twilio message)

theorem twilio_settled_iff (mac : TwilioMac) (url : String) (formData : List (String × String))
    (signature authToken : String) :
    TwilioSettled (verifyTwilioSignature mac url formData signature authToken) ↔
      authToken = "" ∨ isAscii signature.toList = true := by
  rw [verifyTwilioSignature]
  by_cases unchecked : authToken = ""
  · rw [if_pos unchecked]
    exact iff_of_true (.inl rfl) (.inl unchecked)
  · rw [if_neg unchecked, or_iff_right unchecked]
    dsimp only
    generalize mac authToken _ = expected
    rw [compareDigest, expected.ascii, Bool.true_and]
    cases isAscii signature.toList with
    | false =>
        refine iff_of_false ?_ Bool.false_ne_true
        rintro (accepted | ⟨message, refused⟩)
        · cases accepted
        · cases refused
    | true =>
        refine iff_of_true ?_ rfl
        rw [if_pos rfl]
        cases expected.text == signature.toList with
        | false => exact .inr ⟨_, rfl⟩
        | true => exact .inl rfl

/-! ## Webhook signatures -/

/-- A webhook is accepted exactly if it is valid and unauthorized otherwise, exactly if
neither its timestamp field nor its digest breaks the code; the signature of Twilio is
accepted or refused cleanly exactly if it is ASCII or not checked. -/
theorem webhook_signatures_fail_cleanly (hmac : Hmac) (mac : TwilioMac) (secret : String)
    (configured : secret ≠ "") :
    (∀ payload signature timestamp toleranceSeconds time,
      Settled (Valid hmac payload signature timestamp secret toleranceSeconds time)
          (verifyInboundWebhookSignature hmac payload (some signature) timestamp secret
            toleranceSeconds time) ↔
        ¬ Breaks signature timestamp toleranceSeconds time) ∧
      ∀ url formData signature authToken,
        TwilioSettled (verifyTwilioSignature mac url formData signature authToken) ↔
          authToken = "" ∨ isAscii signature.toList = true :=
  ⟨fun _ _ timestamp _ _ => settled_iff configured timestamp, twilio_settled_iff mac⟩

/-- Digests and codes that do not depend on the message. -/
def sampleHmac : Hmac := fun _ _ => ⟨['0', 'f'], rfl⟩

def sampleMac : TwilioMac := fun _ _ => ⟨['M', 'Q', '=', '='], by decide⟩

/-- A request that is accepted meets what is asked. -/
theorem upper_case_digest_is_accepted :
    Settled (Valid sampleHmac [] "t=100,v1=0F" none "secret" 300 100000000)
      (verifyInboundWebhookSignature sampleHmac [] (some "t=100,v1=0F") none "secret" 300
        100000000) := by
  refine ((webhook_signatures_fail_cleanly sampleHmac sampleMac "secret" (by decide)).1
    [] "t=100,v1=0F" none 300 100000000).mpr ?_
  rintro ⟨given, -, long | ⟨strange, -⟩⟩
  · exact absurd long (by decide +kernel)
  · exact absurd strange (by decide +kernel)

/-- A digest with an accent is a `TypeError`, from either sender. -/
theorem accented_digest_escapes :
    verifyInboundWebhookSignature sampleHmac [] (some "\u00e9") (some "100") "secret"
      300 100000000 =
        .error .type ∧
      ¬ Settled (Valid sampleHmac [] "\u00e9" (some "100") "secret" 300 100000000)
        (verifyInboundWebhookSignature sampleHmac [] (some "\u00e9") (some "100") "secret" 300
          100000000) ∧
      verifyTwilioSignature sampleMac "https://example.com" [] "\u00e9" "token" = .error .type := by
  have escaped : verifyInboundWebhookSignature sampleHmac [] (some "\u00e9") (some "100") "secret"
      300 100000000 = .error .type := by decide +kernel
  refine ⟨escaped, fun clean => ?_, by decide +kernel⟩
  rw [escaped] at clean
  exact not_settled_type clean

end AppointmentVoice.Signatures
