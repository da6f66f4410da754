import AppointmentVoice.Concurrency.ReadCommitted

/-!
# Uploaded files and the object store

The table of the uploaded files under `READ COMMITTED`, the bucket with its objects, and
the capabilities that presigned upload URLs are: whoever has one may put any bytes under
its key, as often as he likes, until it expires.  What the bucket, the scanner and Redis
answer is up to the surroundings.

Two ledgers are kept that the program does not see: what has been scanned, and which
downloads have been signed over which object.
-/

set_option autoImplicit false

namespace AppointmentVoice.Files

open Concurrency

/-! ## Rows -/

/-- The column is a plain string, so it can hold a status that nothing knows. -/
inductive UploadVerificationStatus where
  | pending
  | verified
  | unknown (raw : String)
  deriving DecidableEq, Repr

/-- A row of `uploaded_files`. -/
structure UploadedFile where
  id : Nat
  tenantId : Nat
  ownerId : Nat
  objectKey : String
  filename : String
  contentType : String
  sizeBytes : Nat
  verificationStatus : UploadVerificationStatus
  deriving DecidableEq, Repr

/-- The table of the uploaded files. -/
structure FileDb where
  uploadedFiles : List UploadedFile
  deriving DecidableEq, Repr

/-- The changes of the table that a transaction holds until its commit; a deletion remembers
whose object it was. -/
inductive FileWrite where
  | insert (row : UploadedFile)
  | verify (id : Nat)
  | delete (id : Nat) (objectKey : String)
  deriving DecidableEq, Repr

/-- The status that a verification records. -/
def UploadedFile.asVerified (row : UploadedFile) : UploadedFile :=
  { row with verificationStatus := .verified }

namespace FileDb

/-- The table after one change. -/
def apply (db : FileDb) : FileWrite → FileDb
  | .insert row => ⟨db.uploadedFiles ++ [row]⟩
  | .verify id => ⟨db.uploadedFiles.map fun row => if row.id = id then row.asVerified else row⟩
  | .delete id _ => ⟨db.uploadedFiles.filter (·.id != id)⟩

/-- The unique index on `object_key`. -/
def refuses (db : FileDb) (row : UploadedFile) : Bool :=
  db.uploadedFiles.any (·.objectKey == row.objectKey)

/-- Whether there is a row with the key. -/
def has (db : FileDb) (id : Nat) : Bool := db.uploadedFiles.any (·.id == id)

end FileDb

/-- Two writes to one row, or two rows that the unique index keeps apart. -/
def FileWrite.waitsFor : FileWrite → FileWrite → Bool
  | .insert row, .insert other => row.objectKey == other.objectKey
  | .insert row, .delete _ objectKey => row.objectKey == objectKey
  | .verify id, .verify other => id == other
  | .verify id, .delete other _ => id == other
  | .delete id _, .verify other => id == other
  | .delete id _, .delete other _ => id == other
  | _, _ => false

instance : Storage FileDb FileWrite where
  apply := FileDb.apply
  waitsFor := FileWrite.waitsFor

/-! ## Objects -/

/-- The bytes of an object. -/
abbrev Body : Type := List UInt8

/-- An object in the bucket. -/
structure StoredObject where
  body : Body
  contentType : String
  deriving DecidableEq, Repr

/-- What a HEAD of an object answers. -/
structure StoredObjectMetadata where
  sizeBytes : Nat
  contentType : String
  deriving DecidableEq, Repr

/-- What a presigned upload URL allows. -/
structure PresignedUpload where
  objectKey : String
  contentType : String
  expiresAt : Nat
  deriving DecidableEq, Repr

/-- The ways in which a call to the bucket fails. -/
inductive Outage where
  | clientError
  | botoCoreError
  deriving DecidableEq, Repr

/-! ## Scanners -/

/-- What a scanner says of a body. -/
structure MalwareScanResult where
  clean : Bool
  detail : String
  deriving DecidableEq, Repr

/-- `get_malware_scanner` chooses one of these. -/
inductive MalwareScanner where
  | disabled
  | infectedFilename
  | http
  deriving DecidableEq, Repr

/-- What comes back from the scanner's URL; a payload that is not an object breaks the call. -/
inductive ScannerReply where
  | unavailable
  | answered (status : Nat) (clean : Bool)
  | broken
  deriving DecidableEq, Repr

/-- `str.lower()`, as far as it gives ASCII characters. -/
def lower (text : String) : String :=
  String.ofList <| text.toList.flatMap fun char =>
    if char.toNat = 0x212A then ['k']
    else if char.toNat = 0x130 then ['i', Char.ofNat 0x307]
    else [char.toLower]

/-- `part in text`. -/
def hasPart (part text : String) : Bool := decide (part.toList <:+: text.toList)

/-- The scanner without a server: it refuses a name with `.infected.` in it. -/
def InfectedFilenameMalwareScanner.scan (filename : String) : MalwareScanResult :=
  if hasPart ".infected." (lower filename) then ⟨false, "infected_filename_detected"⟩
  else ⟨true, "malware_scan_passed"⟩

/-- `none` when the exception leaves the scanner. -/
def HttpMalwareScanner.scan : ScannerReply → Option MalwareScanResult
  | .unavailable => some ⟨false, "malware_scanner_unavailable"⟩
  | .answered status clean =>
      if status ≠ 200 then some ⟨false, "malware_scanner_status_" ++ toString status⟩
      else if clean then some ⟨true, "malware_scan_passed"⟩
      else some ⟨false, "malware_detected"⟩
  | .broken => none

/-- What the configured scanner says; the one behind a URL may not answer. -/
def MalwareScanner.scan (reply : ScannerReply) (filename : String) :
    MalwareScanner → Option MalwareScanResult
  | .disabled => some ⟨true, "malware_scan_disabled"⟩
  | .infectedFilename => some (InfectedFilenameMalwareScanner.scan filename)
  | .http => HttpMalwareScanner.scan reply

/-! ## Statements -/

/-- The SELECTs of the file service. -/
inductive FileQuery where
  | file (id : Nat)
  | fileOfTenant (id tenantId : Nat)
  deriving DecidableEq, Repr

/-- The row that a SELECT finds. -/
def FileQuery.eval (db : FileDb) : FileQuery → Option UploadedFile
  | .file id => db.uploadedFiles.find? (·.id == id)
  | .fileOfTenant id tenantId =>
      db.uploadedFiles.find? fun row => row.id == id && row.tenantId == tenantId

/-- Reading and writing rows, the calls to the bucket, to the scanner and to Redis, and a
client's use of a presigned upload URL.  A download is signed for a file, and the URL names
its key. -/
inductive FileStmt where
  | select (query : FileQuery)
  | insert (draft : Nat → UploadedFile)
  | verify (id : Nat)
  | delete (id : Nat) (objectKey : String)
  | commit
  | uuid7
  | headBucket
  | presignPut (objectKey contentType : String) (expiresIn : Nat)
  | presignGet (uploadedFile : UploadedFile)
  | headObject (objectKey : String)
  | getObject (objectKey : String) (read : Nat)
  | deleteObject (objectKey : String)
  | scan (scanner : MalwareScanner) (body : Body) (filename : String)
  | lpush (uploadedFileId : Nat)
  | put (objectKey contentType : String) (body : Body)

/-- `insert` is refused by the index, `verify` and `delete` answer whether there was a row,
and `put` whether the bucket has taken the bytes. -/
def FileStmt.Answer : FileStmt → Type
  | .select _ => Option UploadedFile
  | .insert _ => Option Nat
  | .verify _ => Bool
  | .delete _ _ => Bool
  | .commit => Unit
  | .uuid7 => String
  | .headBucket => Option Outage
  | .presignPut _ _ _ => Except Outage PresignedUpload
  | .presignGet _ => Option Outage
  | .headObject _ => Except Outage StoredObjectMetadata
  | .getObject _ _ => Except Outage Body
  | .deleteObject _ => Option Outage
  | .scan _ _ _ => Option MalwareScanResult
  | .lpush _ => Bool
  | .put _ _ _ => Bool

/-- The statements, requests to storage and scanner calls, with their answers. -/
abbrev FileSql : Signature := ⟨FileStmt, FileStmt.Answer⟩

/-! ## The world -/

/-- What the surroundings answer to each call: an outage of the bucket, the reply of the
scanner, whether Redis takes the push, and the next identifier. -/
structure Surroundings where
  outage : Nat → Option Outage
  scannerReply : Nat → ScannerReply
  redisTakes : Nat → Bool
  uuidHex : Nat → String

/-- A scan that found the bytes clean. -/
structure CleanScan where
  body : Body
  filename : String
  deriving DecidableEq, Repr

/-- A download URL, with the object under its key when it was signed. -/
structure Download where
  uploadedFile : UploadedFile
  stored : Option StoredObject
  deriving DecidableEq, Repr

/-- What the requests and workers share: the table with what each session has pending, the
objects of the bucket, the upload URLs that have been signed, and the record of the scans that
came out clean. -/
structure FileWorld where
  sessions : Sessions FileDb FileWrite
  nextId : Nat
  clock : Nat
  objects : String → Option StoredObject
  uploads : List PresignedUpload
  calls : Nat
  surroundings : Surroundings
  cleanScans : List CleanScan
  downloads : List Download

namespace FileWorld

/-- The committed table. -/
abbrev db (world : FileWorld) : FileDb := world.sessions.db

/-- A session ends, and what it has not committed is gone. -/
def release (world : FileWorld) (pid : Pid) : FileWorld :=
  { world with sessions := world.sessions.release pid }

/-- A call to something outside. -/
def called (world : FileWorld) : FileWorld := { world with calls := world.calls + 1 }

/-- Whether the next request to storage fails, and how. -/
def outage (world : FileWorld) : Option Outage := world.surroundings.outage world.calls

/-- The holder of an upload URL may put bytes of this type under the key. -/
def allowsPut (world : FileWorld) (objectKey contentType : String) : Bool :=
  world.uploads.any fun upload =>
    upload.objectKey == objectKey && upload.contentType == contentType &&
      world.clock ≤ upload.expiresAt

/-- `HEAD` of an object; an object that is not there is a client error. -/
def head (world : FileWorld) (objectKey : String) : Except Outage StoredObjectMetadata :=
  match world.outage, world.objects objectKey with
  | some outage, _ => .error outage
  | none, none => .error .clientError
  | none, some stored => .ok ⟨stored.body.length, stored.contentType⟩

/-- `GET` of an object, of which the first bytes are read. -/
def get (world : FileWorld) (objectKey : String) (read : Nat) : Except Outage Body :=
  match world.outage, world.objects objectKey with
  | some outage, _ => .error outage
  | none, none => .error .clientError
  | none, some stored => .ok (stored.body.take read)

/-- The statement has to wait for another session. -/
def blocks (world : FileWorld) (pid : Pid) : FileStmt → Bool
  | .insert draft => world.sessions.mustWait pid (.insert (draft world.nextId))
  | .verify id => world.sessions.mustWait pid (.verify id)
  | .delete id objectKey => world.sessions.mustWait pid (.delete id objectKey)
  | _ => false

/-- An insert takes a number even where the index refuses it. -/
def inserts (world : FileWorld) (pid : Pid) (row : UploadedFile) : Option Nat × FileWorld :=
  let advanced := { world with nextId := world.nextId + 1 }
  if (world.sessions.view pid).refuses row then (none, advanced)
  else (some world.nextId, { advanced with sessions := world.sessions.add pid (.insert row) })

/-- A verification or a deletion of a row that is there. -/
def updates (world : FileWorld) (pid : Pid) (write : FileWrite) (id : Nat) : Bool × FileWorld :=
  if (world.sessions.view pid).has id then
    (true, { world with sessions := world.sessions.add pid write })
  else (false, world)

/-- The bytes are scanned, and a clean scan is written down. -/
def scans (world : FileWorld) (scanner : MalwareScanner) (body : Body) (filename : String) :
    Option MalwareScanResult × FileWorld :=
  let result := scanner.scan (world.surroundings.scannerReply world.calls) filename
  (result, { world.called with
    cleanScans :=
      if result.any (·.clean) then world.cleanScans ++ [⟨body, filename⟩] else world.cleanScans })

/-- An upload URL, unless signing fails. -/
def presignsPut (world : FileWorld) (objectKey contentType : String) (expiresIn : Nat) :
    Except Outage PresignedUpload × FileWorld :=
  match world.outage with
  | some outage => (.error outage, world.called)
  | none =>
      let upload : PresignedUpload := ⟨objectKey, contentType, world.clock + expiresIn⟩
      (.ok upload, { world.called with uploads := world.uploads ++ [upload] })

/-- A download URL, unless signing fails. -/
def presignsGet (world : FileWorld) (uploadedFile : UploadedFile) : Option Outage × FileWorld :=
  match world.outage with
  | some outage => (some outage, world.called)
  | none =>
      (none, { world.called with
        downloads := world.downloads ++ [⟨uploadedFile, world.objects uploadedFile.objectKey⟩] })

/-- The object is gone, unless the call fails. -/
def deletesObject (world : FileWorld) (objectKey : String) : Option Outage × FileWorld :=
  match world.outage with
  | some outage => (some outage, world.called)
  | none =>
      (none, { world.called with objects := Function.update world.objects objectKey none })

/-- The bucket takes what comes with an upload URL that is good. -/
def puts (world : FileWorld) (objectKey contentType : String) (body : Body) : Bool × FileWorld :=
  if world.allowsPut objectKey contentType then
    (true, { world with
      objects := Function.update world.objects objectKey (some ⟨body, contentType⟩) })
  else (false, world)

end FileWorld

/-- The effect of a statement that does not have to wait. -/
def effectOf (pid : Pid) : (stmt : FileStmt) → FileWorld → stmt.Answer × FileWorld
  | .select query, world => (query.eval (world.sessions.view pid), world)
  | .insert draft, world => world.inserts pid (draft world.nextId)
  | .verify id, world => world.updates pid (.verify id) id
  | .delete id objectKey, world => world.updates pid (.delete id objectKey) id
  | .commit, world => ((), { world with sessions := world.sessions.committed pid })
  | .uuid7, world => (world.surroundings.uuidHex world.calls, world.called)
  | .headBucket, world => (world.outage, world.called)
  | .presignPut objectKey contentType expiresIn, world =>
      world.presignsPut objectKey contentType expiresIn
  | .presignGet uploadedFile, world => world.presignsGet uploadedFile
  | .headObject objectKey, world => (world.head objectKey, world.called)
  | .getObject objectKey read, world => (world.get objectKey read, world.called)
  | .deleteObject objectKey, world => world.deletesObject objectKey
  | .scan scanner body filename, world => world.scans scanner body filename
  | .lpush _, world => (world.surroundings.redisTakes world.calls, world.called)
  | .put objectKey contentType body, world => world.puts objectKey contentType body

/-- The effect of a statement of a session; `none` while it has to wait. -/
def execFile (pid : Pid) (stmt : FileStmt) (world : FileWorld) :
    Option (stmt.Answer × FileWorld) :=
  if world.blocks pid stmt then none else some (effectOf pid stmt world)

/-- What is executed has its effect. -/
theorem execFile_some {pid : Pid} {stmt : FileStmt} {world : FileWorld}
    {result : stmt.Answer × FileWorld} (executed : execFile pid stmt world = some result) :
    effectOf pid stmt world = result := by
  unfold execFile at executed
  split at executed
  · cases executed
  · exact Option.some.inj executed

end AppointmentVoice.Files
