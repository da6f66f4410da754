import AppointmentVoice.Concurrency.Interleaving
import AppointmentVoice.Formats.Json
import AppointmentVoice.Services.Common
import AppointmentVoice.Webhooks.Store

/-!
# The inbound webhook

`inbound_webhook` and the functions that it calls, as programs over the statements of a
session.  The hash functions, the check of a signature at a time and the validation of a
body are parameters; a delivery that raises has no response of its own, and one whose
process dies between two statements leaves what it has committed, and its lock.
-/

set_option autoImplicit false

namespace AppointmentVoice.Webhooks

open Concurrency Formats.Json

/-! ## Settings, requests and responses -/

/-- The bytes of a request. -/
abbrev Body : Type := List UInt8

/-- What the payload of a webhook must have. -/
structure WebhookInboundRequest where
  provider : String
  eventId : String
  deriving DecidableEq, Repr

/-- The settings of the webhook routes, with the library functions that they use. -/
structure WebhookSettings where
  webhookMaxBodyBytes : Nat
  webhookIngressRateLimitLimit : Nat
  webhookIngressRateLimitWindowSeconds : Nat
  webhookProviderRateLimitLimit : Nat
  webhookProviderRateLimitWindowSeconds : Nat
  idempotencyTtlSeconds : Nat
  idempotencyProcessingLockTtlSeconds : Nat
  sha256 : String → String
  hashPayload : Body → String
  lower : String → String
  verifySignature : Body → Option String → Option String → Nat → Option String
  modelValidateJson : Body → Option WebhookInboundRequest

/-- The errors that leave the webhook route. -/
inductive WebhookError where
  | badRequest (detail : String)
  | unauthorized (detail : String)
  | conflict (detail : String)
  | payloadTooLarge (detail : String)
  | tooManyRequests (detail : String)
  | validation
  | responseValidation
  | jsonDecode
  | database
  deriving DecidableEq, Repr

/-- A request to `inbound_webhook`. -/
structure Delivery where
  idempotencyKey : Option String
  clientIp : String
  rawBody : Body
  signature : Option String
  timestamp : Option String
  deriving DecidableEq, Repr

/-- What a delivery is answered with. -/
structure Response where
  statusCode : Nat
  content : Value

/-- The programs of the webhook route. -/
abbrev WebhookM := Program WebhookSql WebhookError

/-! ## Statements as programs -/

/-- Send a SELECT. -/
def select (query : WebhookQuery) : WebhookM query.Row :=
  Program.issue (S := WebhookSql) (.select query)

/-- Send an INSERT; it is refused when the unique key is taken. -/
def insert (draft : Nat → WebhookWrite) : WebhookM (Option Nat) :=
  Program.issue (S := WebhookSql) (.insert draft)

/-- `db.commit()`. -/
def commit : WebhookM Unit := Program.issue (S := WebhookSql) .commit

/-- `db.rollback()`. -/
def rollback : WebhookM Unit := Program.issue (S := WebhookSql) .rollback

/-- Read the clock. -/
def now : WebhookM Nat := Program.issue (S := WebhookSql) .now

/-- `SET key NX EX ttl`; `false` if the key is there. -/
def setNx (key : String) (ttl : Nat) : WebhookM Bool :=
  Program.issue (S := WebhookSql) (.setNx key ttl)

/-- `DEL key`. -/
def delete (key : String) : WebhookM Unit := Program.issue (S := WebhookSql) (.delete key)

/-- `INCR key`. -/
def incr (key : String) : WebhookM Nat := Program.issue (S := WebhookSql) (.incr key)

/-- `EXPIRE key ttl`. -/
def expire (key : String) (ttl : Nat) : WebhookM Unit :=
  Program.issue (S := WebhookSql) (.expire key ttl)

/-- Raise unless there is a value. -/
def orRaise {α : Type} (error : WebhookError) : Option α → WebhookM α
  | some value => pure value
  | none => throw error

/-- `try … finally`. -/
def finallyDo {α : Type} (program : WebhookM α) (last : WebhookM Unit) : WebhookM α := do
  let value ← tryCatch program fun error => do
    last
    throw error
  last
  return value

/-! ## Idempotency -/

/-- `str.strip()`. -/
def strip (text : String) : String :=
  String.ofList ((text.toList.dropWhile isSpace).reverse.dropWhile isSpace).reverse

/-- `build_scope_key`: the scope, and the digest of scope and key. -/
def buildScopeKey (cfg : WebhookSettings) (scope idempotencyKey : String) : WebhookM String := do
  let normalizedKey := strip idempotencyKey
  if normalizedKey.isEmpty then throw (.badRequest "Idempotency-Key header is required")
  return scope ++ ":" ++ cfg.sha256 (scope ++ ":" ++ normalizedKey)

/-- The Redis key of the processing lock. -/
def idempotencyLockKey (scopeKey : String) : String := "idempotency:processing:" ++ scopeKey

/-- `try_acquire_idempotency_lock`. -/
def tryAcquireIdempotencyLock (cfg : WebhookSettings) (scopeKey : String) : WebhookM Bool :=
  setNx (idempotencyLockKey scopeKey) cfg.idempotencyProcessingLockTtlSeconds

/-- `release_idempotency_lock`: the lock goes, whoever holds it. -/
def releaseIdempotencyLock (scopeKey : String) : WebhookM Unit :=
  delete (idempotencyLockKey scopeKey)

/-- `get_cached_response`: the record of the key that has not expired by the clock. -/
def getCachedResponse (scopeKey : String) : WebhookM (Option IdempotencyRecord) := do
  select (.cachedRecord scopeKey (← now))

/-- `store_response`: an INSERT that is refused is rolled back, and the stored record is looked
up instead. -/
def storeResponse (cfg : WebhookSettings) (scopeKey : String) (statusCode : Nat)
    (responseBody : Value) : WebhookM IdempotencyRecord := do
  let expiresAt := (← now) + cfg.idempotencyTtlSeconds * second
  match ← insert fun id =>
      .insertRecord ⟨id, scopeKey, statusCode, dumps responseBody, expiresAt⟩ with
  | some id => do
      commit
      orRaise .database (← select (.recordByPrimaryKey id))
  | none => do
      rollback
      orRaise .database (← getCachedResponse scopeKey)

/-- `parse_cached_response_body`. -/
def parseCachedResponseBody (record : IdempotencyRecord) : WebhookM Value :=
  orRaise .jsonDecode (loads record.responseBody)

/-- `cached_json_response`. -/
def cachedJsonResponse (record : IdempotencyRecord) : WebhookM Response := do
  return ⟨record.statusCode, ← parseCachedResponseBody record⟩

/-- The cached record, and whether the lock has been acquired. -/
def beginIdempotentRequest (cfg : WebhookSettings) (scopeKey : String) :
    WebhookM (Option IdempotencyRecord × Bool) := do
  match ← getCachedResponse scopeKey with
  | some cachedRecord => return (some cachedRecord, false)
  | none =>
      if ← tryAcquireIdempotencyLock cfg scopeKey then return (none, true)
      match ← getCachedResponse scopeKey with
      | some cachedRecord => return (some cachedRecord, false)
      | none => throw (.conflict "Duplicate request is already in progress")

/-! ## Webhooks -/

/-- `enforce_rate_limit_counter`: the first request of a window starts its time. -/
def enforceRateLimitCounter (key : String) (limit windowSeconds : Nat) : WebhookM Unit := do
  let currentCount ← incr key
  if currentCount = 1 then expire key windowSeconds
  if limit < currentCount then throw (.tooManyRequests "Too many requests")

/-- `webhook_ingress_rate_limit`. -/
def webhookIngressRateLimit (cfg : WebhookSettings) (clientIp : String) : WebhookM Unit :=
  enforceRateLimitCounter ("rate_limit:webhook_ingress:" ++ clientIp)
    cfg.webhookIngressRateLimitLimit cfg.webhookIngressRateLimitWindowSeconds

/-- `enforce_webhook_provider_rate_limit`. -/
def enforceWebhookProviderRateLimit (cfg : WebhookSettings) (provider : String) :
    WebhookM Unit := do
  let normalizedProvider := cfg.lower (strip provider)
  if normalizedProvider.isEmpty then return ()
  enforceRateLimitCounter ("rate_limit:webhook_provider:" ++ normalizedProvider)
    cfg.webhookProviderRateLimitLimit cfg.webhookProviderRateLimitWindowSeconds

/-- The dependency that reads the header. -/
def getIdempotencyKey (idempotencyKey : Option String) : WebhookM String := do
  let normalizedKey := strip (idempotencyKey.getD "")
  if normalizedKey.isEmpty then throw (.badRequest "Idempotency-Key header is required")
  return normalizedKey

/-- `enforce_webhook_body_size`. -/
def enforceWebhookBodySize (cfg : WebhookSettings) (rawBody : Body) : WebhookM Unit :=
  if cfg.webhookMaxBodyBytes < rawBody.length then
    throw (.payloadTooLarge "Webhook payload too large")
  else pure ()

/-- `verify_inbound_webhook_signature`. -/
def verifyInboundWebhookSignature (cfg : WebhookSettings) (delivery : Delivery) :
    WebhookM Unit := do
  match cfg.verifySignature delivery.rawBody delivery.signature delivery.timestamp (← now) with
  | some detail => throw (.unauthorized detail)
  | none => return ()

/-- `persist_webhook_event`: an event that is there already is a conflict. -/
def persistWebhookEvent (cfg : WebhookSettings) (provider eventId : String) (payload : Body) :
    WebhookM WebhookEvent := do
  match ← insert fun id => .insertEvent ⟨id, provider, eventId, cfg.hashPayload payload⟩ with
  | some id => do
      commit
      orRaise .database (← select (.eventByPrimaryKey id))
  | none => do
      rollback
      throw (.conflict "Webhook event already processed")

/-- `response_body`, with its status. -/
def responseBody (status : String) (payload : WebhookInboundRequest) : Value :=
  .object [("status", .string status), ("provider", .string payload.provider),
    ("event_id", .string payload.eventId)]

/-- The text under a key of an object. -/
def textAt (members : List (String × Value)) (key : String) : Option String :=
  match members.lookup key with
  | some (.string text) => some text
  | _ => none

/-- `WebhookInboundResponse`, the model that a response of the route is read with. -/
def webhookInboundResponse : Value → Option Value
  | .object members => do
      let status ← textAt members "status"
      let provider ← textAt members "provider"
      let eventId ← textAt members "event_id"
      return responseBody status ⟨provider, eventId⟩
  | _ => none

/-- Whether the event is new; other errors are raised. -/
def persisted (cfg : WebhookSettings) (payload : WebhookInboundRequest) (rawBody : Body) :
    WebhookM Bool :=
  tryCatch
    (do
      let _ ← persistWebhookEvent cfg payload.provider payload.eventId rawBody
      return true)
    fun
      | .conflict _ => return false
      | error => throw error

/-- The part of `inbound_webhook` that its `try` guards. -/
def handleDelivery (cfg : WebhookSettings) (delivery : Delivery) (scopeKey : String) :
    WebhookM Response := do
  verifyInboundWebhookSignature cfg delivery
  let payload ← orRaise .validation (cfg.modelValidateJson delivery.rawBody)
  enforceWebhookProviderRateLimit cfg payload.provider
  if ← persisted cfg payload delivery.rawBody then
    -- What is returned is not a `JSONResponse`, so the status is that of the route.
    let storedRecord ← storeResponse cfg scopeKey 200 (responseBody "accepted" payload)
    let content ← parseCachedResponseBody storedRecord
    return ⟨200, ← orRaise .responseValidation (webhookInboundResponse content)⟩
  else
    let storedRecord ← storeResponse cfg scopeKey 409 (responseBody "duplicate" payload)
    cachedJsonResponse storedRecord

/-- `inbound_webhook`: a cached answer is given again; else the delivery is handled, and its
lock released in any case. -/
def inboundWebhook (cfg : WebhookSettings) (delivery : Delivery) : WebhookM Response := do
  let idempotencyKey ← getIdempotencyKey delivery.idempotencyKey
  webhookIngressRateLimit cfg delivery.clientIp
  enforceWebhookBodySize cfg delivery.rawBody
  let scopeKey ← buildScopeKey cfg "webhooks:inbound" idempotencyKey
  match ← beginIdempotentRequest cfg scopeKey with
  | (some cachedRecord, _) => cachedJsonResponse cachedRecord
  | (none, lockAcquired) =>
      finallyDo (handleDelivery cfg delivery scopeKey)
        (if lockAcquired then releaseIdempotencyLock scopeKey else pure ())

/-! ## Interleaved deliveries -/

/-- The surroundings let time pass, and remove the records that have expired. -/
inductive Elapses (before : WebhookWorld) : WebhookWorld → Prop where
  | waits (clock : Nat) (later : before.clock ≤ clock) : Elapses before { before with clock }
  | cleansUp : Elapses before { before with
      sessions := { before.sessions with db := before.db.cleanUp before.clock } }

/-- Any number of deliveries, each in a session of its own. -/
def webhookMachine (cfg : WebhookSettings) :
    Machine WebhookSql WebhookWorld Delivery WebhookError Response where
  perform := inboundWebhook cfg
  exec pid _ stmt world := execWebhook pid stmt world
  enter pid world := world.release pid
  leave pid world := world.release pid
  ambient before after := Elapses before after

/-- The deliveries that are under way. -/
abbrev WebhookConfig := Config WebhookSql WebhookWorld Delivery WebhookError Response

end AppointmentVoice.Webhooks
