import AppointmentVoice.Accounts.Users
import AppointmentVoice.Concurrency.Interleaving
import AppointmentVoice.Files.Store
import AppointmentVoice.Services.Common

/-!
# Uploads

The file routes and the worker that verifies presigned uploads, as programs over the
statements of a session.  The user of a request is the one that `get_current_user` has
loaded.  A verification is a job, which may run at any time and any number of times; a
client may use what upload URLs there are whenever he likes.
-/

set_option autoImplicit false

namespace AppointmentVoice.Files

open Concurrency
open Accounts (User Permission userHasPermission)

/-! ## Settings and errors -/

/-- The settings of the uploads. -/
structure FileSettings where
  uploadMaxSizeBytes : Nat
  uploadAllowedContentTypes : String
  uploadPresignedUrlExpireSeconds : Nat
  uploadMalwareScanEnabled : Bool
  uploadMalwareScannerUrl : String
  deriving DecidableEq, Repr

/-- The errors that leave the file service: those of the domain, storage, the scanner, Redis and
the database. -/
inductive FileError where
  | badRequest (message : String)
  | forbidden (message : String)
  | notFound (message : String)
  | conflict (message : String)
  | payloadTooLarge (message : String)
  | serviceUnavailable (message : String)
  | storage (outage : Outage)
  | scanner
  | redis
  | database
  deriving DecidableEq, Repr

/-- A `DomainError`, which the worker takes for a verdict on the file. -/
def FileError.isDomain : FileError → Bool
  | .storage _ => false
  | .scanner => false
  | .redis => false
  | .database => false
  | _ => true

/-- The programs of the file service. -/
abbrev FileM := Program FileSql FileError

/-! ## Statements as programs -/

/-- Send a SELECT. -/
def select (query : FileQuery) : FileM (Option UploadedFile) :=
  Program.issue (S := FileSql) (.select query)

/-- Send an INSERT; it is refused when the object key is taken. -/
def insert (draft : Nat → UploadedFile) : FileM (Option Nat) :=
  Program.issue (S := FileSql) (.insert draft)

/-- Set the row to verified, if it is still there. -/
def verify (id : Nat) : FileM Bool := Program.issue (S := FileSql) (.verify id)

/-- Delete the row, if it is still there. -/
def delete (id : Nat) (objectKey : String) : FileM Bool :=
  Program.issue (S := FileSql) (.delete id objectKey)

/-- `db.commit()`. -/
def commit : FileM Unit := Program.issue (S := FileSql) .commit

/-- A fresh UUID of the seventh version. -/
def uuid7 : FileM String := Program.issue (S := FileSql) .uuid7

/-- Ask whether the bucket can be reached. -/
def headBucket : FileM (Option Outage) := Program.issue (S := FileSql) .headBucket

/-- Sign a URL under which a client may put one object. -/
def presignPut (objectKey contentType : String) (expiresIn : Nat) :
    FileM (Except Outage PresignedUpload) :=
  Program.issue (S := FileSql) (.presignPut objectKey contentType expiresIn)

/-- Sign a URL under which a client may read the object of a file. -/
def presignGet (uploadedFile : UploadedFile) : FileM (Option Outage) :=
  Program.issue (S := FileSql) (.presignGet uploadedFile)

/-- Ask for the size and the content type of an object. -/
def headObject (objectKey : String) : FileM (Except Outage StoredObjectMetadata) :=
  Program.issue (S := FileSql) (.headObject objectKey)

/-- Read that many bytes of an object, at most. -/
def getObject (objectKey : String) (read : Nat) : FileM (Except Outage Body) :=
  Program.issue (S := FileSql) (.getObject objectKey read)

/-- Delete an object. -/
def deleteObject (objectKey : String) : FileM (Option Outage) :=
  Program.issue (S := FileSql) (.deleteObject objectKey)

/-- Have a scanner look at a body. -/
def scan (scanner : MalwareScanner) (body : Body) (filename : String) :
    FileM (Option MalwareScanResult) :=
  Program.issue (S := FileSql) (.scan scanner body filename)

/-- Push the job that verifies the upload; `false` if Redis refuses it. -/
def lpush (uploadedFileId : Nat) : FileM Bool :=
  Program.issue (S := FileSql) (.lpush uploadedFileId)

/-- A client puts an object under a signed URL; `false` if no URL in force fits. -/
def put (objectKey contentType : String) (body : Body) : FileM Bool :=
  Program.issue (S := FileSql) (.put objectKey contentType body)

/-- Raise unless there is a value. -/
def orRaise {α : Type} (error : FileError) : Option α → FileM α
  | some value => pure value
  | none => throw error

/-! ## Metadata -/

/-- `str.strip()`. -/
def strip (text : String) : String :=
  String.ofList ((text.toList.dropWhile isSpace).reverse.dropWhile isSpace).reverse

/-- `MAX_UPLOAD_FILENAME_LENGTH`. -/
def maxUploadFilenameLength : Nat := 255

/-- `validate_upload_filename`: the name without the blanks around it, if it is neither empty
nor too long and holds no separator. -/
def validateUploadFilename (filename : String) : FileM String := do
  let normalizedFilename := strip filename
  if normalizedFilename.isEmpty then throw (.badRequest "Filename is required")
  if maxUploadFilenameLength < normalizedFilename.length then
    throw (.badRequest "Filename is too long")
  if ["\u0000", "/", "\\", ".."].any (hasPart · normalizedFilename) then
    throw (.badRequest "Invalid filename")
  return normalizedFilename

/-- The characters on both sides of the slash in `CONTENT_TYPE_PATTERN`. -/
def contentTypeChar (char : Char) : Bool :=
  ('a' ≤ char && char ≤ 'z') || ('A' ≤ char && char ≤ 'Z') || ('0' ≤ char && char ≤ '9') ||
    "!#$&-^_.+".toList.contains char

/-- `CONTENT_TYPE_PATTERN.fullmatch`. -/
def contentTypePattern (text : String) : Bool :=
  let chars := text.toList
  match chars.dropWhile contentTypeChar with
  | '/' :: subtype =>
      !(chars.takeWhile contentTypeChar).isEmpty && !subtype.isEmpty &&
        subtype.all contentTypeChar
  | _ => false

/-- `validate_content_type_format`: the type in lower case, if it has the form of one. -/
def validateContentTypeFormat (contentType : String) : FileM String := do
  let normalizedContentType := lower (strip contentType)
  if contentTypePattern normalizedContentType then return normalizedContentType
  else throw (.badRequest "Invalid content type format")

/-- `str.split(",")`. -/
def splitAtCommas : List Char → List (List Char)
  | [] => [[]]
  | char :: rest =>
      match splitAtCommas rest with
      | [] => [[char]]
      | part :: parts => if char = ',' then [] :: part :: parts else (char :: part) :: parts

/-- The content types of the setting, between its commas. -/
def allowedContentTypes (cfg : FileSettings) : List String :=
  let values := (splitAtCommas cfg.uploadAllowedContentTypes.toList).map String.ofList
  (values.filter fun value => !(strip value).isEmpty).map fun value => lower (strip value)

/-- `validate_declared_content_type`: one of the allowed types. -/
def validateDeclaredContentType (cfg : FileSettings) (contentType : String) : FileM String := do
  let normalizedContentType ← validateContentTypeFormat contentType
  if (allowedContentTypes cfg).contains normalizedContentType then return normalizedContentType
  else throw (.badRequest "Unsupported file type")

/-- `validate_file_size`. -/
def validateFileSize (cfg : FileSettings) (sizeBytes : Nat) : FileM Unit :=
  if cfg.uploadMaxSizeBytes < sizeBytes then throw (.payloadTooLarge "File too large") else pure ()

/-! ## Content -/

/-- `CONTENT_SIGNATURES`. -/
def contentSignatures : List (String × List Body) :=
  [("application/pdf", [[0x25, 0x50, 0x44, 0x46]]),
    ("image/png", [[0x89, 0x50, 0x4E, 0x47, 0x0D, 0x0A, 0x1A, 0x0A]]),
    ("image/jpeg", [[0xFF, 0xD8, 0xFF]])]

/-- `sniff_content_type`: the first type of which the body begins with a signature. -/
def sniffContentType (body : Body) : Option String :=
  (contentSignatures.find? fun entry => entry.2.any (·.isPrefixOf body)).map (·.1)

/-- `validate_content_sniff`: the body must begin as its declared type does. -/
def validateContentSniff (declaredContentType : String) (body : Body) : FileM Unit :=
  if sniffContentType body ≠ some declaredContentType then
    throw (.badRequest "File content does not match declared content type")
  else pure ()

/-- `get_malware_scanner`: the scanner that the settings ask for. -/
def getMalwareScanner (cfg : FileSettings) : MalwareScanner :=
  if !cfg.uploadMalwareScanEnabled then .disabled
  else if (strip cfg.uploadMalwareScannerUrl).isEmpty then .infectedFilename
  else .http

/-- `run_malware_scan`; a scanner that does not answer raises. -/
def runMalwareScan (cfg : FileSettings) (body : Body) (filename : String) :
    FileM MalwareScanResult := do
  orRaise .scanner (← scan (getMalwareScanner cfg) body filename)

/-- `ensure_malware_scan_is_clean`. -/
def ensureMalwareScanIsClean (scanResult : MalwareScanResult) : FileM Unit :=
  if scanResult.clean then pure () else throw (.badRequest "File failed malware scanning")

/-! ## The bucket -/

/-- `content_type.split(";", maxsplit=1)[0].strip().lower()`. -/
def bareContentType (contentType : String) : String :=
  lower (strip (String.ofList (contentType.toList.takeWhile (· != ';'))))

/-- `get_object_metadata`: the size and the bare content type of an object. -/
def getObjectMetadata (objectKey : String) : FileM StoredObjectMetadata := do
  match ← headObject objectKey with
  | .error .clientError => throw (.badRequest "Uploaded object was not found in storage")
  | .error outage => throw (.storage outage)
  | .ok response =>
      let contentType :=
        if response.contentType.isEmpty then "application/octet-stream" else response.contentType
      return ⟨response.sizeBytes, bareContentType contentType⟩

/-- `download_object_body`: one byte more than allowed is asked for, to see a body that is too
long. -/
def downloadObjectBody (objectKey : String) (maxBytes : Nat) : FileM Body := do
  match ← getObject objectKey (maxBytes + 1) with
  | .error .clientError => throw (.badRequest "Uploaded object could not be verified")
  | .error outage => throw (.storage outage)
  | .ok body =>
      if maxBytes < body.length then throw (.payloadTooLarge "File too large") else return body

/-- `verify_bucket_access`. -/
def verifyBucketAccess : FileM Unit := do
  match ← headBucket with
  | some _ => throw (.serviceUnavailable "Object storage bucket is not reachable")
  | none => return ()

/-- The size and the type of the object are those that were declared. -/
def assertStoredMetadataMatches (metadata : StoredObjectMetadata) (declaredContentType : String)
    (declaredSizeBytes : Nat) : FileM Unit := do
  if metadata.sizeBytes ≠ declaredSizeBytes then
    throw (.badRequest "Uploaded object size does not match declared size")
  if metadata.contentType ≠ declaredContentType then
    throw (.badRequest "Uploaded object content type does not match declared content type")

/-- `verify_stored_object_metadata`: the HEAD alone, as the request makes it. -/
def verifyStoredObjectMetadata (objectKey declaredContentType : String)
    (declaredSizeBytes : Nat) : FileM StoredObjectMetadata := do
  let metadata ← getObjectMetadata objectKey
  assertStoredMetadataMatches metadata declaredContentType declaredSizeBytes
  return metadata

/-- `verify_stored_object_content`: HEAD, body, signature and scan, as the worker makes them. -/
def verifyStoredObjectContent (cfg : FileSettings) (objectKey declaredContentType : String)
    (declaredSizeBytes : Nat) (filename : String) : FileM Unit := do
  let metadata ← getObjectMetadata objectKey
  assertStoredMetadataMatches metadata declaredContentType declaredSizeBytes
  let body ← downloadObjectBody objectKey metadata.sizeBytes
  if body.length ≠ metadata.sizeBytes then
    throw (.badRequest "Uploaded object size could not be verified")
  validateContentSniff declaredContentType body
  ensureMalwareScanIsClean (← runMalwareScan cfg body filename)

/-! ## Uploads and downloads -/

/-- `build_tenant_object_key_prefix`. -/
def buildTenantObjectKeyPrefix (tenantId : Nat) : String := "tenants/" ++ toString tenantId

/-- What the object keys of an owner begin with. -/
def ownerPrefix (tenantId ownerId : Nat) : String :=
  buildTenantObjectKeyPrefix tenantId ++ "/uploads/" ++ toString ownerId ++ "/"

/-- `build_object_key`; a file name has no slashes any more. -/
def buildObjectKey (tenantId ownerId : Nat) (filename : String) : FileM String := do
  let safeFilename := filename.map fun char => if char = '/' ∨ char = '\\' then '_' else char
  return ownerPrefix tenantId ownerId ++ (← uuid7) ++ "-" ++ safeFilename

/-- `ensure_object_key_belongs_to_owner`. -/
def ensureObjectKeyBelongsToOwner (objectKey : String) (owner : User) : FileM Unit :=
  if (ownerPrefix owner.tenantId owner.id).toList.isPrefixOf objectKey.toList then pure ()
  else throw (.badRequest "Invalid object key for current user")

/-- The object key and the upload URL. -/
def createPresignedUpload (cfg : FileSettings) (owner : User) (filename contentType : String) :
    FileM (String × PresignedUpload) := do
  let safeFilename ← validateUploadFilename filename
  let normalizedContentType ← validateDeclaredContentType cfg contentType
  verifyBucketAccess
  let objectKey ← buildObjectKey owner.tenantId owner.id safeFilename
  match ← presignPut objectKey normalizedContentType cfg.uploadPresignedUrlExpireSeconds with
  | .ok presignedUrl => return (objectKey, presignedUrl)
  | .error outage => throw (.storage outage)

/-- `enqueue_verify_presigned_upload_job`; a push that Redis refuses raises. -/
def enqueueVerifyPresignedUploadJob (uploadedFileId : Nat) : FileM Unit := do
  if ← lpush uploadedFileId then return () else throw .redis

/-- `complete_presigned_upload`: the row is committed as pending, and then the job that verifies
it is pushed. -/
def completePresignedUpload (cfg : FileSettings) (owner : User)
    (objectKey filename contentType : String) (sizeBytes : Nat) : FileM UploadedFile := do
  let safeFilename ← validateUploadFilename filename
  let normalizedContentType ← validateDeclaredContentType cfg contentType
  validateFileSize cfg sizeBytes
  ensureObjectKeyBelongsToOwner objectKey owner
  let _ ← verifyStoredObjectMetadata objectKey normalizedContentType sizeBytes
  let id ← orRaise .database (← insert fun id => {
    id
    tenantId := owner.tenantId
    ownerId := owner.id
    objectKey
    filename := safeFilename
    contentType := normalizedContentType
    sizeBytes
    verificationStatus := .pending })
  commit
  let uploadedFile ← orRaise .database (← select (.file id))
  enqueueVerifyPresignedUploadJob uploadedFile.id
  return uploadedFile

/-- Whether the stored object passes; a verdict against it removes the object and the row. -/
def passes (cfg : FileSettings) (uploadedFile : UploadedFile) : FileM Bool :=
  tryCatch
    (do
      verifyStoredObjectContent cfg uploadedFile.objectKey uploadedFile.contentType
        uploadedFile.sizeBytes uploadedFile.filename
      return true)
    fun error => do
      if error.isDomain then
        -- An exception of the clean-up is logged, and swallowed.
        let _ ← deleteObject uploadedFile.objectKey
        let _ ← delete uploadedFile.id uploadedFile.objectKey
        commit
        return false
      else throw error

/-- `verify_presigned_upload_in_worker`. -/
def verifyPresignedUploadInWorker (cfg : FileSettings) (uploadedFileId : Nat) : FileM Unit := do
  match ← select (.file uploadedFileId) with
  | none => return ()
  | some uploadedFile =>
      if uploadedFile.verificationStatus ≠ .pending then return ()
      if ← passes cfg uploadedFile then
        if ← verify uploadedFile.id then commit else throw .database

/-- `can_access_uploaded_file`. -/
def canAccessUploadedFile (currentUser : User) (uploadedFile : UploadedFile) : Bool :=
  currentUser.tenantId == uploadedFile.tenantId &&
    (userHasPermission currentUser .filesDownload ||
      (uploadedFile.ownerId == currentUser.id && userHasPermission currentUser .filesDownloadSelf))

/-- `can_delete_uploaded_file`. -/
def canDeleteUploadedFile (currentUser : User) (uploadedFile : UploadedFile) : Bool :=
  currentUser.tenantId == uploadedFile.tenantId &&
    (userHasPermission currentUser .filesDelete ||
      (uploadedFile.ownerId == currentUser.id && userHasPermission currentUser .filesDeleteSelf))

/-- `ensure_upload_is_downloadable`: only a verified file is handed out. -/
def ensureUploadIsDownloadable (uploadedFile : UploadedFile) : FileM Unit := do
  if uploadedFile.verificationStatus = .pending then
    throw (.conflict "File verification is still in progress")
  if uploadedFile.verificationStatus ≠ .verified then throw (.notFound "File not found")

/-- `get_presigned_download_url`; the URL is for the key of the file. -/
def getPresignedDownloadUrl (uploadedFile : UploadedFile) (currentUser : User) : FileM String := do
  if !canAccessUploadedFile currentUser uploadedFile then
    throw (.forbidden "Insufficient permissions")
  ensureUploadIsDownloadable uploadedFile
  match ← presignGet uploadedFile with
  | none => return uploadedFile.objectKey
  | some _ => throw (.serviceUnavailable "Object storage download URL generation failed")

/-- `delete_uploaded_file`: first the object, and then the row. -/
def deleteUploadedFile (uploadedFile : UploadedFile) (currentUser : User) : FileM Unit := do
  if !canDeleteUploadedFile currentUser uploadedFile then
    throw (.forbidden "Insufficient permissions")
  match ← deleteObject uploadedFile.objectKey with
  | some _ => throw (.serviceUnavailable "Object storage delete failed")
  | none => do
      let _ ← delete uploadedFile.id uploadedFile.objectKey
      commit

/-! ## Routes -/

/-- `require_permission` of one permission. -/
def requirePermission (currentUser : User) (permission : Permission) : FileM Unit :=
  if userHasPermission currentUser permission then pure ()
  else throw (.forbidden "Insufficient permissions")

/-- `require_non_demo_user`. -/
def requireNonDemoUser (currentUser : User) : FileM Unit :=
  if currentUser.isDemoUser then
    throw (.forbidden "This action is not available in the public demo.")
  else pure ()

/-- The requests, the job of the worker, and what a client does with an upload URL. -/
inductive FileCall where
  | createPresignedUpload (currentUser : User) (filename contentType : String)
  | completePresignedUpload (currentUser : User) (objectKey filename contentType : String)
      (sizeBytes : Nat)
  | getDownloadUrl (currentUser : User) (fileId : Nat)
  | deleteFile (currentUser : User) (fileId : Nat)
  | verifyPresignedUpload (uploadedFileId : Nat)
  | clientPut (objectKey contentType : String) (body : Body)
  deriving DecidableEq, Repr

/-- What they return. -/
inductive FileReply where
  | presigned (objectKey : String) (presignedUrl : PresignedUpload)
  | uploaded (uploadedFile : UploadedFile)
  | download (objectKey : String)
  | done
  | stored (taken : Bool)
  deriving DecidableEq, Repr

/-- The program of a call. -/
def performFile (cfg : FileSettings) : FileCall → FileM FileReply
  | .createPresignedUpload currentUser filename contentType => do
      requireNonDemoUser currentUser
      requirePermission currentUser .filesUpload
      let (objectKey, presignedUrl) ← createPresignedUpload cfg currentUser filename contentType
      return .presigned objectKey presignedUrl
  | .completePresignedUpload currentUser objectKey filename contentType sizeBytes => do
      requireNonDemoUser currentUser
      requirePermission currentUser .filesUpload
      return .uploaded
        (← completePresignedUpload cfg currentUser objectKey filename contentType sizeBytes)
  | .getDownloadUrl currentUser fileId => do
      let uploadedFile ← orRaise (.notFound "File not found")
        (← select (.fileOfTenant fileId currentUser.tenantId))
      return .download (← getPresignedDownloadUrl uploadedFile currentUser)
  | .deleteFile currentUser fileId => do
      requireNonDemoUser currentUser
      let uploadedFile ← orRaise (.notFound "File not found")
        (← select (.fileOfTenant fileId currentUser.tenantId))
      deleteUploadedFile uploadedFile currentUser
      return .done
  | .verifyPresignedUpload uploadedFileId => do
      verifyPresignedUploadInWorker cfg uploadedFileId
      return .done
  | .clientPut objectKey contentType body => do
      return .stored (← put objectKey contentType body)

/-- The surroundings let time pass. -/
inductive Elapses (before : FileWorld) : FileWorld → Prop where
  | waits (clock : Nat) (later : before.clock ≤ clock) : Elapses before { before with clock }

/-- Any number of requests, verifications and uses of upload URLs. -/
def fileMachine (cfg : FileSettings) : Machine FileSql FileWorld FileCall FileError FileReply where
  perform := performFile cfg
  exec pid _ stmt world := execFile pid stmt world
  enter pid world := world.release pid
  leave pid world := world.release pid
  ambient before after := Elapses before after

/-- Table and bucket with the calls that are under way. -/
abbrev FileConfig := Config FileSql FileWorld FileCall FileError FileReply

end AppointmentVoice.Files
