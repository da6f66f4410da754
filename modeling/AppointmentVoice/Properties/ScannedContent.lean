import AppointmentVoice.Concurrency.Paths
import AppointmentVoice.Files.Services

/-!
# Only scanned content is served

A verification reads the object, checks the bytes and the scan, and then records its
verdict; the holder of the upload URL may put other bytes under the key before, in between
and afterwards, until the URL expires.  Served are scanned bytes as long as nobody uses an
upload URL under a key that a verified file has, or that a request is about to serve or a
verification has read, except with bytes that are there already or that have passed.

**The invariant.** A commit publishes only clean files (`Sound.committed`), and statements and
harmless uploads keep that (`Sound.issue`, `Sound.puts`), so that every step does
(`Sound.step`).

**The result.** `served_content_has_passed`; bytes that are swapped after the scan are served
(`swapped_content_is_served`).
-/

set_option autoImplicit false

namespace AppointmentVoice.Files

open Concurrency Program

/-! ## Content that has passed -/

/-- The bytes passed `validate_content_sniff` and the malware scan, for this file. -/
def Passed (world : FileWorld) (file : UploadedFile) (body : Body) : Prop :=
  sniffContentType body = some file.contentType ∧ ⟨body, file.filename⟩ ∈ world.cleanScans

/-- What is stored under the key of the file has passed. -/
def Clean (world : FileWorld) (file : UploadedFile) : Prop :=
  ∀ stored, world.objects file.objectKey = some stored → Passed world file stored.body

/-- Two rows of one upload: they differ at most in the status. -/
def UploadedFile.Agrees (row file : UploadedFile) : Prop := row.asVerified = file.asVerified

/-! ## What a request has found out -/

/-- The file that a request has loaded, the bytes that it has read, whether they have
passed, and whether that is recorded in its session and not yet committed. -/
structure Progress where
  file : Option UploadedFile := none
  body : Option Body := none
  passed : Bool := false
  recorded : Bool := false
  deriving DecidableEq, Repr

namespace Progress

def learn (progress : Progress) : Event FileSql → Progress
  | ⟨.select _, some file⟩ => { file := some file }
  | ⟨.getObject _ read, .ok body⟩ =>
      if body.length < read then { file := progress.file, body := some body } else progress
  | ⟨.scan _ _ _, some result⟩ => { progress with passed := result.clean }
  | ⟨.verify _, _⟩ => { progress with recorded := true }
  | ⟨.commit, _⟩ => { progress with recorded := false }
  | _ => progress

/-- The statements that a request sends: new rows are pending, what is read and scanned is
the file that has been loaded, recorded is a verdict that has been reached, and a download
is signed for a verified file. -/
def must (call : FileCall) (progress : Progress) : FileStmt → Prop
  | .select _ => progress.recorded = false
  | .insert draft => ∀ id, (draft id).id = id ∧ (draft id).verificationStatus = .pending
  | .verify id => progress.passed = true ∧ ∃ file, progress.file = some file ∧ file.id = id
  | .presignGet uploadedFile => progress.file = some uploadedFile ∧
      uploadedFile.verificationStatus = .verified
  | .getObject objectKey _ => progress.recorded = false ∧
      ∃ file, progress.file = some file ∧ file.objectKey = objectKey
  | .scan _ body filename => progress.recorded = false ∧
      ∃ file, progress.file = some file ∧ file.filename = filename ∧
        progress.body = some body ∧ sniffContentType body = some file.contentType
  | .put objectKey contentType body => call = .clientPut objectKey contentType body
  | _ => True

end Progress

def fileMonitor (call : FileCall) : Monitor FileSql Progress where
  may _ _ := True
  must := Progress.must call
  learn := Progress.learn

def fileWatch : Watch FileSql FileCall FileError FileReply Progress where
  monitor := fileMonitor
  initial _ := {}
  post _ _ _ := True

/-- What the process with this name has found out. -/
def FileConfig.progress (config : FileConfig) : Pid → Progress := config.stages fileWatch {}

/-! ## The programs of the calls -/

section Programs

variable {call : FileCall} {α β : Type} {cfg : FileSettings}

/-- Statements that a request may send at any time, and that teach it nothing. -/
def FileStmt.Plain : FileStmt → Prop
  | .select _ => False
  | .insert _ => False
  | .verify _ => False
  | .presignGet _ => False
  | .getObject _ _ => False
  | .scan _ _ _ => False
  | .put _ _ _ => False
  | _ => True

/-- A program of plain statements stays where it is. -/
theorem along_plain {program : FileM α} {progress : Progress}
    (only : program.Only FileStmt.Plain) (clear : progress.recorded = false) :
    (fileMonitor call).Along (fun _ later => progress = later) program progress := by
  refine Monitor.Along.of_only rfl (fun later stmt same plain => ?_) only
  subst same
  cases stmt with
  | commit =>
      obtain ⟨file, body, passed, recorded⟩ := progress
      subst clear
      exact ⟨trivial, fun _ => rfl⟩
  | select query => exact plain.elim
  | insert draft => exact plain.elim
  | verify id => exact plain.elim
  | presignGet uploadedFile => exact plain.elim
  | getObject objectKey read => exact plain.elim
  | scan scanner body filename => exact plain.elim
  | put objectKey contentType body => exact plain.elim
  | _ => exact ⟨trivial, fun _ => rfl⟩

/-- A first part of plain statements. -/
theorem along_plain_bind {program : FileM α} {next : α → FileM β} {progress : Progress}
    {post : Except FileError β → Progress → Prop} (only : program.Only FileStmt.Plain)
    (clear : progress.recorded = false) (raises : ∀ error, post (.error error) progress)
    (rest : ∀ value, (fileMonitor call).Along post (next value) progress) :
    (fileMonitor call).Along post (program >>= next) progress := by
  refine .bind ((along_plain only clear).mono fun result later same => ?_)
  subst same
  cases result with
  | ok value => exact rest value
  | error error => exact raises error

theorem plain_guard {condition : Prop} [Decidable condition] {error : FileError} {program : FileM α}
    (only : program.Only FileStmt.Plain) :
    (if condition then (do let _ ← (throw error : FileM PUnit); program) else program).Only
      FileStmt.Plain := by
  split
  · exact .raise error
  · exact only

theorem plain_validateUploadFilename (filename : String) :
    (validateUploadFilename filename).Only FileStmt.Plain :=
  plain_guard (plain_guard (plain_guard (.ret _)))

theorem plain_validateDeclaredContentType (contentType : String) :
    (validateDeclaredContentType cfg contentType).Only FileStmt.Plain := by
  refine .bind ?_ fun normalized => ?_
  · unfold validateContentTypeFormat
    dsimp only
    split
    · exact .ret _
    · exact .raise _
  · split
    · exact .ret _
    · exact .raise _

theorem plain_getObjectMetadata (objectKey : String) :
    (getObjectMetadata objectKey).Only FileStmt.Plain := by
  refine .call trivial fun answer => ?_
  match (answer : Except Outage StoredObjectMetadata) with
  | .error .clientError => exact .raise _
  | .error .botoCoreError => exact .raise _
  | .ok response => exact .ret _

theorem plain_assertStoredMetadataMatches (metadata : StoredObjectMetadata) (contentType : String)
    (sizeBytes : Nat) :
    (assertStoredMetadataMatches metadata contentType sizeBytes).Only FileStmt.Plain := by
  refine plain_guard ?_
  split
  · exact .raise _
  · exact .ret _

theorem plain_requirePermission (user : Accounts.User) (permission : Accounts.Permission) :
    (requirePermission user permission).Only FileStmt.Plain := by
  unfold requirePermission
  split
  · exact .ret _
  · exact .raise _

theorem plain_requireNonDemoUser (user : Accounts.User) :
    (requireNonDemoUser user).Only FileStmt.Plain := by
  unfold requireNonDemoUser
  split
  · exact .raise _
  · exact .ret _

/-- An upload URL is asked for without a look at the files. -/
theorem plain_createPresignedUpload (owner : Accounts.User) (filename contentType : String) :
    (createPresignedUpload cfg owner filename contentType).Only FileStmt.Plain := by
  refine .bind (plain_validateUploadFilename filename) fun safeFilename => ?_
  refine .bind (plain_validateDeclaredContentType contentType) fun normalized => ?_
  refine .bind (.call trivial fun answer => ?_) fun _ => ?_
  · cases (answer : Option Outage) with
    | none => exact .ret _
    | some outage => exact .raise _
  refine .bind (.call trivial fun _ => .ret _) fun objectKey => ?_
  refine .call trivial fun answer => ?_
  cases (answer : Except Outage PresignedUpload) with
  | ok presignedUrl => exact .ret _
  | error outage => exact .raise _

theorem along_orRaise {error : FileError} {value : Option α} {next : α → FileM β}
    {progress : Progress} {post : Except FileError β → Progress → Prop}
    (raises : post (.error error) progress)
    (rest : ∀ found, value = some found → (fileMonitor call).Along post (next found) progress) :
    (fileMonitor call).Along post (orRaise error value >>= next) progress := by
  cases value with
  | none => exact .raise raises
  | some found => exact rest found rfl

/-- A completion inserts a pending row. -/
theorem along_completePresignedUpload (owner : Accounts.User)
    (objectKey filename contentType : String) (sizeBytes : Nat) :
    (fileMonitor call).Along (fun _ _ => True)
      (completePresignedUpload cfg owner objectKey filename contentType sizeBytes) {} := by
  refine along_plain_bind (plain_validateUploadFilename filename) rfl (fun _ =>
    trivial) fun safe => ?_
  refine along_plain_bind (plain_validateDeclaredContentType contentType) rfl (fun _ => trivial)
    fun normalized => ?_
  have sized : (validateFileSize cfg sizeBytes).Only FileStmt.Plain := by
    unfold validateFileSize
    split
    · exact .raise _
    · exact .ret _
  refine along_plain_bind sized rfl (fun _ => trivial) fun _ => ?_
  have owned : (ensureObjectKeyBelongsToOwner objectKey owner).Only FileStmt.Plain := by
    unfold ensureObjectKeyBelongsToOwner
    split
    · exact .ret _
    · exact .raise _
  refine along_plain_bind owned rfl (fun _ => trivial) fun _ => ?_
  have stored : (verifyStoredObjectMetadata objectKey normalized sizeBytes).Only FileStmt.Plain :=
    .bind (plain_getObjectMetadata objectKey) fun metadata =>
      .bind (plain_assertStoredMetadataMatches ..) fun _ => .ret _
  refine along_plain_bind stored rfl (fun _ => trivial) fun _ => ?_
  refine .issue (fun id => ⟨rfl, rfl⟩) fun inserted _ => ?_
  refine along_orRaise trivial fun id _ => ?_
  refine .issue trivial fun _ _ => .issue rfl fun found _ => ?_
  refine along_orRaise trivial fun uploadedFile _ => ?_
  refine .bind (.issue trivial fun answer _ => ?_)
  cases (answer : Bool) with
  | true => exact .ret (.ret trivial)
  | false => exact .raise trivial

/-- What a request that has loaded a file knows about its body when the checks are over. -/
def Checked (file : UploadedFile) (result : Except FileError Unit) (progress : Progress) : Prop :=
  progress.file = some file ∧ ∀ done, result = .ok done → progress.passed = true

/-- **The checks of a stored object** read and scan the file that is loaded, and return only
after its bytes have passed. -/
theorem along_verifyStoredObjectContent (file : UploadedFile) :
    (fileMonitor call).Along (Checked file)
      (verifyStoredObjectContent cfg file.objectKey file.contentType file.sizeBytes file.filename)
      { file := some file } := by
  refine along_plain_bind (plain_getObjectMetadata file.objectKey) rfl (fun _ => ⟨rfl, nofun⟩)
    fun metadata => ?_
  refine along_plain_bind (plain_assertStoredMetadataMatches ..) rfl (fun _ =>
    ⟨rfl, nofun⟩) fun _ => ?_
  unfold downloadObjectBody
  rw [bind_assoc]
  refine .issue ⟨rfl, file, rfl, rfl⟩ fun answer _ => ?_
  match (answer : Except Outage Body) with
  | .error .clientError => exact .raise ⟨rfl, nofun⟩
  | .error .botoCoreError => exact .raise ⟨rfl, nofun⟩
  | .ok body =>
      change (fileMonitor call).Along _ _ (if body.length < metadata.sizeBytes + 1 then _ else _)
      dsimp only
      by_cases long : metadata.sizeBytes < body.length
      · have cut : ¬body.length < metadata.sizeBytes + 1 := by omega
        rw [if_neg cut, if_pos long]
        exact .raise ⟨rfl, nofun⟩
      have whole : body.length < metadata.sizeBytes + 1 := by omega
      rw [if_pos whole, if_neg long, Program.pure_eq_ret, Program.ret_bind]
      split
      · exact .raise ⟨rfl, nofun⟩
      unfold validateContentSniff
      split
      · exact .raise ⟨rfl, nofun⟩
      · next sniffed =>
          rw [Program.pure_eq_ret, Program.ret_bind]
          unfold runMalwareScan
          rw [bind_assoc]
          have fits : sniffContentType body = some file.contentType := Classical.not_not.mp sniffed
          refine .issue ⟨rfl, file, rfl, rfl, rfl, fits⟩ fun answer _ => ?_
          cases (answer : Option MalwareScanResult) with
          | none => exact .raise ⟨rfl, nofun⟩
          | some result =>
              rw [orRaise, Program.pure_eq_ret, Program.ret_bind, ensureMalwareScanIsClean]
              split
              · next clean => exact .ret ⟨rfl, fun _ _ => clean⟩
              · exact .raise ⟨rfl, nofun⟩

/-- A verification records its verdict only for a file that has passed. -/
theorem along_verifyPresignedUploadInWorker (uploadedFileId : Nat) :
    (fileMonitor call).Along (fun _ _ => True) (verifyPresignedUploadInWorker cfg uploadedFileId)
      {} := by
  refine .issue rfl fun answer _ => ?_
  cases (answer : Option UploadedFile) with
  | none => exact .ret trivial
  | some file =>
      dsimp only
      split
      · exact .ret trivial
      refine .bind (.tryCatch (.bind ((along_verifyStoredObjectContent file).mono ?_)))
      rintro (error | done) later ⟨loaded, passed⟩
      · change (fileMonitor call).Along _ _ later
        dsimp only
        split
        · refine .issue trivial fun _ _ => .issue trivial fun _ _ =>
            .issue trivial fun _ _ => .ret ?_
          exact .ret trivial
        · exact .raise trivial
      · refine .ret ?_
        refine .issue ⟨passed done rfl, file, loaded, rfl⟩ fun answer _ => ?_
        cases (answer : Bool) with
        | false => exact .raise trivial
        | true => exact .call trivial fun _ _ => .ret trivial

/-- A download is signed only for a file that is verified. -/
theorem along_getPresignedDownloadUrl (file : UploadedFile) (currentUser : Accounts.User) :
    (fileMonitor call).Along (fun _ _ => True) (getPresignedDownloadUrl file currentUser)
      { file := some file } := by
  unfold getPresignedDownloadUrl
  split
  · exact .raise trivial
  refine .guard trivial fun _ => ?_
  split
  · exact .raise trivial
  · next verified =>
      refine .issue ⟨rfl, Classical.not_not.mp verified⟩ fun answer _ => ?_
      cases (answer : Option Outage) with
      | none => exact .ret trivial
      | some outage => exact .raise trivial

theorem plain_deleteUploadedFile (file : UploadedFile) (currentUser : Accounts.User) :
    (deleteUploadedFile file currentUser).Only FileStmt.Plain := by
  refine plain_guard (.call trivial fun answer => ?_)
  cases (answer : Option Outage) with
  | none => exact .call trivial fun _ => .issue trivial
  | some outage => exact .raise _

/-- **Every call keeps to its monitor.** -/
theorem perform_files (cfg : FileSettings) (call : FileCall) :
    (fileMonitor call).Along (fun _ _ => True) (performFile cfg call) {} := by
  cases call with
  | createPresignedUpload currentUser filename contentType =>
      refine along_plain_bind (plain_requireNonDemoUser currentUser) rfl (fun _ =>
        trivial) fun _ => ?_
      refine along_plain_bind (plain_requirePermission ..) rfl (fun _ => trivial) fun _ => ?_
      exact along_plain_bind (plain_createPresignedUpload ..) rfl (fun _ => trivial) fun _ =>
        .ret trivial
  | completePresignedUpload currentUser objectKey filename contentType sizeBytes =>
      refine along_plain_bind (plain_requireNonDemoUser currentUser) rfl (fun _ =>
        trivial) fun _ => ?_
      refine along_plain_bind (plain_requirePermission ..) rfl (fun _ => trivial) fun _ => ?_
      refine .bind ((along_completePresignedUpload ..).mono fun result later _ => ?_)
      cases result with
      | ok file => exact .ret trivial
      | error error => exact trivial
  | getDownloadUrl currentUser fileId =>
      refine .issue rfl fun answer _ => along_orRaise trivial fun file found => ?_
      obtain rfl : answer = some file := found
      refine .bind ((along_getPresignedDownloadUrl file currentUser).mono fun result later _ => ?_)
      cases result with
      | ok url => exact .ret trivial
      | error error => exact trivial
  | deleteFile currentUser fileId =>
      refine along_plain_bind (plain_requireNonDemoUser currentUser) rfl (fun _ =>
        trivial) fun _ => ?_
      refine .issue rfl fun answer _ => along_orRaise trivial fun file found => ?_
      obtain rfl : answer = some file := found
      exact along_plain_bind (plain_deleteUploadedFile file currentUser) rfl (fun _ =>
        trivial) fun _ =>
        .ret trivial
  | verifyPresignedUpload uploadedFileId =>
      refine .bind ((along_verifyPresignedUploadInWorker uploadedFileId).mono
        fun result later _ => ?_)
      cases result with
      | ok done => exact .ret trivial
      | error error => exact trivial
  | clientPut objectKey contentType body => exact .issue rfl fun _ _ => .ret trivial

end Programs

/-! ## Rows -/

/-- The row is there, committed or not. -/
def FileWorld.Present (world : FileWorld) (row : UploadedFile) : Prop :=
  row ∈ world.db.uploadedFiles ∨ ∃ pid, (pid, .insert row) ∈ world.sessions.pending

theorem mem_writesOf {world : FileWorld} {pid : Pid} {write : FileWrite} :
    write ∈ world.sessions.writesOf pid ↔ (pid, write) ∈ world.sessions.pending := by
  simp [Sessions.writesOf]

theorem mem_release {world : FileWorld} {pid : Pid} {entry : Pid × FileWrite} :
    entry ∈ (world.sessions.release pid).pending ↔
      entry ∈ world.sessions.pending ∧ entry.1 ≠ pid := by
  simp [Sessions.release]

/-- A row after some writes was there or is inserted by them, and may have been verified. -/
theorem mem_applyAll {db : FileDb} {writes : List FileWrite} {row : UploadedFile}
    (member : row ∈ (Sessions.applyAll db writes).uploadedFiles) :
    ∃ base, (base ∈ db.uploadedFiles ∨ .insert base ∈ writes) ∧
      (row = base ∨ row = base.asVerified ∧ .verify base.id ∈ writes) := by
  induction writes generalizing db with
  | nil => exact ⟨row, .inl member, .inl rfl⟩
  | cons write writes ih =>
      rw [Sessions.applyAll_cons] at member
      obtain ⟨middle, there, became⟩ := ih member
      have later : row = middle ∨ row = middle.asVerified ∧ .verify middle.id ∈ write :: writes :=
        became.imp_right fun verified => ⟨verified.1, List.mem_cons_of_mem _ verified.2⟩
      rcases there with old | inserted
      · cases write with
        | insert new =>
            rcases List.mem_append.mp old with before | here
            · exact ⟨middle, .inl before, later⟩
            · rw [List.mem_singleton] at here
              subst here
              exact ⟨middle, .inr List.mem_cons_self, later⟩
        | delete id objectKey => exact ⟨middle, .inl (List.mem_filter.mp old).1, later⟩
        | verify id =>
            obtain ⟨base, before, same⟩ := List.mem_map.mp old
            split at same
            · next named =>
                subst named same
                refine ⟨base, .inl before, .inr ⟨?_, List.mem_cons_self⟩⟩
                rcases became with rfl | ⟨rfl, -⟩ <;> rfl
            · subst same
              exact ⟨base, .inl before, later⟩
      · exact ⟨middle, .inr (List.mem_cons_of_mem _ inserted), later⟩

/-- A row that a session sees is there, up to its status. -/
theorem mem_view {world : FileWorld} {pid : Pid} {row : UploadedFile}
    (member : row ∈ (world.sessions.view pid).uploadedFiles) :
    ∃ base, world.Present base ∧ row.id = base.id ∧ row.Agrees base ∧
      (row.verificationStatus = .verified →
        (base = row ∨ (pid, .verify base.id) ∈ world.sessions.pending)) := by
  obtain ⟨base, there, became⟩ := mem_applyAll member
  refine ⟨base, there.imp_right fun inserted => ⟨pid, mem_writesOf.mp inserted⟩, ?_⟩
  rcases became with rfl | ⟨rfl, verified⟩
  · exact ⟨rfl, rfl, fun _ => .inl rfl⟩
  · exact ⟨rfl, rfl, fun _ => .inr (mem_writesOf.mp verified)⟩

theorem FileQuery.eval_mem {db : FileDb} {query : FileQuery} {row : UploadedFile}
    (found : query.eval db = some row) : row ∈ db.uploadedFiles := by
  cases query with
  | file id => exact List.mem_of_find?_eq_some found
  | fileOfTenant id tenantId => exact List.mem_of_find?_eq_some found

/-! ## What holds in every run -/

section Invariant

variable {world after : FileWorld} {file row : UploadedFile} {progress mine : Progress}

theorem UploadedFile.Agrees.trans {middle : UploadedFile} (first : row.Agrees middle)
    (second : middle.Agrees file) : row.Agrees file :=
  Eq.trans first second

theorem UploadedFile.Agrees.objectKey (same : row.Agrees file) : row.objectKey = file.objectKey :=
  congrArg (·.objectKey) same

theorem UploadedFile.Agrees.passed {body : Body} (same : row.Agrees file)
    (passed : Passed world file body) : Passed world row body := by
  have contentType : row.contentType = file.contentType := congrArg (·.contentType) same
  have filename : row.filename = file.filename := congrArg (·.filename) same
  rw [Passed, contentType, filename]
  exact passed

theorem UploadedFile.Agrees.clean (same : row.Agrees file) (clean : Clean world file) :
    Clean world row :=
  fun stored there => same.passed (clean stored (same.objectKey ▸ there))

/-- The sequence is ahead of the rows, and rows of one number are one upload. -/
structure Numbered (world : FileWorld) : Prop where
  below : ∀ row, world.Present row → row.id < world.nextId
  single : ∀ row other, world.Present row → world.Present other → row.id = other.id →
    row.Agrees other

/-- No row is new, up to its status. -/
def KeepsRows (world after : FileWorld) : Prop :=
  ∀ row, after.Present row → ∃ base, world.Present base ∧ row.id = base.id ∧ row.Agrees base

theorem Numbered.mono (numbered : Numbered world) (keeps : KeepsRows world after)
    (later : world.nextId ≤ after.nextId) : Numbered after where
  below row present := by
    obtain ⟨base, there, named, -⟩ := keeps row present
    exact Nat.lt_of_lt_of_le (named ▸ numbered.below base there) later
  single row other present presentToo same := by
    obtain ⟨base, there, named, agrees⟩ := keeps row present
    obtain ⟨baseToo, thereToo, namedToo, agreesToo⟩ := keeps other presentToo
    have single := numbered.single base baseToo there thereToo (named ▸ namedToo ▸ same)
    exact (agrees.trans single).trans agreesToo.symm

/-- What a request knows: the row it has loaded is the only one with its number, a verified
file is clean, the bytes that it has read are those that are stored, unless these have
passed, and what it takes for passed has passed. -/
structure Knows (world : FileWorld) (progress : Progress) : Prop where
  numbered : ∀ file, progress.file = some file → file.id < world.nextId
  same : ∀ file row, progress.file = some file → world.Present row → row.id = file.id →
    row.Agrees file
  clean : ∀ file, progress.file = some file → file.verificationStatus = .verified →
    Clean world file
  read : ∀ file body stored, progress.file = some file → progress.body = some body →
    world.objects file.objectKey = some stored → stored.body = body ∨ Passed world file stored.body
  passed : progress.passed = true → ∃ file body, progress.file = some file ∧
    progress.body = some body ∧ Passed world file body

theorem Knows.nothing (world : FileWorld) : Knows world {} :=
  ⟨nofun, nofun, nofun, nofun, nofun⟩

/-- A file that is taken for passed is clean. -/
theorem Knows.clean_of_passed (knows : Knows world progress) (passed : progress.passed = true)
    (loaded : progress.file = some file) : Clean world file := by
  obtain ⟨other, body, loadedToo, read, good⟩ := knows.passed passed
  obtain rfl := Option.some.inj (loaded.symm.trans loadedToo)
  intro stored there
  rcases knows.read file body stored loaded read there with same | fine
  · exact same ▸ good
  · exact fine

/-- Nothing that matters to the others is new: rows are there up to their status or have a
new number, and objects are as they were or gone. -/
structure Extends (world after : FileWorld) : Prop where
  rows : ∀ row, after.Present row →
    (∃ base, world.Present base ∧ row.id = base.id ∧ row.Agrees base) ∨ world.nextId ≤ row.id
  nextId : world.nextId ≤ after.nextId
  objects : ∀ key stored, after.objects key = some stored → world.objects key = some stored
  cleanScans : world.cleanScans ⊆ after.cleanScans

theorem Extends.passed (extends_ : Extends world after) {body : Body}
    (passed : Passed world file body) : Passed after file body :=
  ⟨passed.1, extends_.cleanScans passed.2⟩

theorem Extends.clean (extends_ : Extends world after) (clean : Clean world file) :
    Clean after file :=
  fun stored there => extends_.passed (clean stored (extends_.objects _ _ there))

theorem Knows.mono (knows : Knows world progress) (extends_ : Extends world after) :
    Knows after progress where
  numbered file loaded := Nat.lt_of_lt_of_le (knows.numbered file loaded) extends_.nextId
  same file row loaded present named := by
    rcases extends_.rows row present with ⟨base, there, sameId, agrees⟩ | new
    · exact agrees.trans (knows.same file base loaded there (sameId ▸ named))
    · have old := knows.numbered file loaded
      omega
  clean file loaded verified := extends_.clean (knows.clean file loaded verified)
  read file body stored loaded read there :=
    (knows.read file body stored loaded read (extends_.objects _ _ there)).imp_right extends_.passed
  passed passed := by
    obtain ⟨file, body, loaded, read, good⟩ := knows.passed passed
    exact ⟨file, body, loaded, read, extends_.passed good⟩

/-- **The invariant**: the rows are numbered, new rows are pending, a verdict
in a session has been reached, verified files are clean, every request knows what it has
found out, and every download was signed over bytes that have passed. -/
structure Sound (world : FileWorld) (progress : Pid → Progress) : Prop where
  numbered : Numbered world
  drafts : ∀ pid row, (pid, .insert row) ∈ world.sessions.pending →
    row.verificationStatus = .pending
  marked : ∀ pid id, (pid, .verify id) ∈ world.sessions.pending →
    (progress pid).recorded = true ∧ (progress pid).passed = true ∧
      ∃ file, (progress pid).file = some file ∧ file.id = id
  published : ∀ row ∈ world.db.uploadedFiles, row.verificationStatus = .verified →
    Clean world row
  knows : ∀ pid, Knows world (progress pid)
  served : ∀ download ∈ world.downloads, ∀ stored, download.stored = some stored →
    Passed world download.uploadedFile stored.body

/-! ## One step -/

variable {stages : Pid → Progress} {pid : Pid}

theorem KeepsRows.of_sessions (sessions : after.sessions = world.sessions) :
    KeepsRows world after := by
  intro row present
  rw [FileWorld.Present, FileWorld.db, sessions] at present
  exact ⟨row, present, rfl, rfl⟩

/-- What the requests know after a step of one of them. -/
theorem knows_update (sound : Sound world stages) (extends_ : Extends world after)
    (here : Knows after mine) (other : Pid) :
      Knows after (Function.update stages pid mine other) := by
  by_cases same : other = pid
  · rw [same, Function.update_self]
    exact here
  · rw [Function.update_of_ne same]
    exact (sound.knows other).mono extends_

/-- A step that leaves the sessions alone; what is recorded in the session of the request
stays as it is. -/
theorem Sound.quiet (sound : Sound world stages) (extends_ : Extends world after)
    (sessions : after.sessions = world.sessions) (here : Knows after mine)
    (keeps : (stages pid).recorded = true → mine = stages pid)
    (served : ∀ download ∈ after.downloads, ∀ stored, download.stored = some stored →
      Passed after download.uploadedFile stored.body) :
    Sound after (Function.update stages pid mine) where
  numbered := sound.numbered.mono (.of_sessions sessions) extends_.nextId
  drafts other row member := sound.drafts other row (sessions ▸ member)
  marked other id member := by
    have recorded := sound.marked other id (sessions ▸ member)
    by_cases same : other = pid
    · subst same
      rw [Function.update_self, keeps recorded.1]
      exact recorded
    · rw [Function.update_of_ne same]
      exact recorded
  published row member verified :=
    extends_.clean (sound.published row (by rwa [FileWorld.db, sessions] at member) verified)
  knows := knows_update sound extends_ here
  served := served

/-- The downloads that there were are still fine. -/
theorem Sound.served_mono (sound : Sound world stages) (extends_ : Extends world after)
    (download : Download) (member : download ∈ world.downloads) (stored : StoredObject)
    (there : download.stored = some stored) : Passed after download.uploadedFile stored.body :=
  extends_.passed (sound.served download member stored there)

/-- A step that changes neither sessions nor downloads. -/
theorem Extends.of_sessions (sessions : after.sessions = world.sessions)
    (nextId : world.nextId ≤ after.nextId)
    (objects : ∀ key stored, after.objects key = some stored → world.objects key = some stored)
    (cleanScans : world.cleanScans ⊆ after.cleanScans) : Extends world after where
  rows row present := .inl (KeepsRows.of_sessions sessions row present)
  nextId := nextId
  objects := objects
  cleanScans := cleanScans

theorem Extends.refl (world : FileWorld) : Extends world world :=
  .of_sessions rfl (Nat.le_refl _) (fun _ _ there => there) fun _ there => there

theorem Extends.called (world : FileWorld) : Extends world world.called :=
  .of_sessions rfl (Nat.le_refl _) (fun _ _ => id) fun _ => id

/-- The rows after the end of a transaction without its writes. -/
theorem KeepsRows.release (world : FileWorld) (pid : Pid) :
    KeepsRows world (world.release pid) := by
  intro row present
  refine ⟨row, ?_, rfl, rfl⟩
  exact present.imp_right fun ⟨owner, member⟩ => ⟨owner, (mem_release.mp member).1⟩

theorem Extends.release (world : FileWorld) (pid : Pid) : Extends world (world.release pid) where
  rows row present := .inl (KeepsRows.release world pid row present)
  nextId := Nat.le_refl _
  objects _ _ := id
  cleanScans _ := id

/-- A request that begins or ends has no writes, and knows nothing. -/
theorem Sound.release (sound : Sound world stages) (pid : Pid) :
    Sound (world.release pid) (Function.update stages pid {}) where
  numbered := sound.numbered.mono (.release world pid) (Nat.le_refl _)
  drafts owner row member := sound.drafts owner row (mem_release.mp member).1
  marked owner id member := by
    obtain ⟨there, other⟩ := mem_release.mp member
    rw [Function.update_of_ne other]
    exact sound.marked owner id there
  published := sound.published
  knows := knows_update sound (.release world pid) (.nothing _)
  served := sound.served

/-- The rows after a commit. -/
theorem KeepsRows.committed (world : FileWorld) (pid : Pid) :
    KeepsRows world { world with sessions := world.sessions.committed pid } := by
  intro row present
  rcases present with old | ⟨owner, member⟩
  · obtain ⟨base, there, named, agrees, -⟩ := mem_view old
    exact ⟨base, there, named, agrees⟩
  · exact ⟨row, .inr ⟨owner, (mem_release.mp member).1⟩, rfl, rfl⟩

theorem Extends.committed (world : FileWorld) (pid : Pid) :
    Extends world { world with sessions := world.sessions.committed pid } where
  rows row present := .inl (KeepsRows.committed world pid row present)
  nextId := Nat.le_refl _
  objects _ _ := id
  cleanScans _ := id

/-- **A commit publishes only clean files**: a row that it verifies is the one that its
request has checked. -/
theorem Sound.committed (sound : Sound world stages) (pid : Pid) :
    Sound { world with sessions := world.sessions.committed pid }
      (Function.update stages pid { stages pid with recorded := false }) where
  numbered := sound.numbered.mono (.committed world pid) (Nat.le_refl _)
  drafts owner row member := sound.drafts owner row (mem_release.mp member).1
  marked owner id member := by
    obtain ⟨there, other⟩ := mem_release.mp member
    rw [Function.update_of_ne other]
    exact sound.marked owner id there
  published row member verified := by
    obtain ⟨base, there, named, agrees, became⟩ := mem_view member
    rcases became verified with rfl | marked
    · rcases there with old | ⟨owner, inserted⟩
      · exact sound.published base old verified
      · cases (sound.drafts owner base inserted).symm.trans verified
    · obtain ⟨-, passed, file, loaded, sameId⟩ := sound.marked pid base.id marked
      have clean := (sound.knows pid).clean_of_passed passed loaded
      have agreesToo := (sound.knows pid).same file base loaded there sameId.symm
      exact (agrees.trans agreesToo).clean clean
  knows := by
    refine knows_update sound (.committed world pid) ?_
    have knows := (sound.knows pid).mono (.committed world pid)
    exact ⟨knows.numbered, knows.same, knows.clean, knows.read, knows.passed⟩
  served := sound.served

/-- A row is inserted: it is pending, and has the next number. -/
theorem Sound.inserts (sound : Sound world stages) (pid : Pid) {row : UploadedFile}
    (named : row.id = world.nextId) (pending : row.verificationStatus = .pending) :
    Sound (world.inserts pid row).2 (Function.update stages pid (stages pid)) := by
  unfold FileWorld.inserts
  dsimp only
  split
  · have extends_ : Extends world { world with nextId := world.nextId + 1 } :=
      .of_sessions rfl (Nat.le_succ _) (fun _ _ => id) fun _ => id
    exact sound.quiet extends_ rfl ((sound.knows pid).mono extends_) (fun _ => rfl) sound.served
  · have entries : ∀ other : UploadedFile, FileWorld.Present { world with
        nextId := world.nextId + 1, sessions := world.sessions.add pid (.insert row) } other →
        world.Present other ∨ other = row := by
      rintro other (old | ⟨owner, member⟩)
      · exact .inl (.inl old)
      · rcases List.mem_append.mp member with before | new
        · exact .inl (.inr ⟨owner, before⟩)
        · cases List.mem_singleton.mp new
          exact .inr rfl
    have extends_ : Extends world { world with
        nextId := world.nextId + 1, sessions := world.sessions.add pid (.insert row) } := by
      refine ⟨fun other present => ?_, Nat.le_succ _, fun _ _ => id, fun _ => id⟩
      rcases entries other present with old | rfl
      · exact .inl ⟨other, old, rfl, rfl⟩
      · exact .inr (Nat.le_of_eq named.symm)
    refine ⟨⟨fun other present => ?_, fun other another present presentToo same => ?_⟩,
      fun owner other member => ?_, fun owner id member => ?_, sound.published,
      knows_update sound extends_ ((sound.knows pid).mono extends_), sound.served⟩
    · rcases entries other present with old | rfl
      · exact Nat.lt_succ_of_lt (sound.numbered.below other old)
      · exact named ▸ Nat.lt_succ_self _
    · rcases entries other present with old | rfl
      · rcases entries another presentToo with oldToo | rfl
        · exact sound.numbered.single other another old oldToo same
        · exact absurd (named ▸ same ▸ sound.numbered.below other old) (Nat.lt_irrefl _)
      · rcases entries another presentToo with oldToo | rfl
        · exact absurd (named ▸ same ▸ sound.numbered.below another oldToo) (Nat.lt_irrefl _)
        · rfl
    · rcases List.mem_append.mp member with before | new
      · exact sound.drafts owner other before
      · cases List.mem_singleton.mp new
        exact pending
    · rcases List.mem_append.mp member with before | new
      · rw [Function.update_eq_self]
        exact sound.marked owner id before
      · cases List.mem_singleton.mp new

/-- A row is verified or deleted in a session. -/
theorem Sound.updates (sound : Sound world stages) (pid : Pid) {write : FileWrite} {id : Nat}
    (inserts : ∀ row, write ≠ .insert row)
    (verdict : ∀ id, write = .verify id → mine.recorded = true ∧ mine.passed = true ∧
      ∃ file, mine.file = some file ∧ file.id = id)
    (keeps : (stages pid).recorded = true → mine = stages pid)
    (here : Knows world mine) :
    Sound (world.updates pid write id).2 (Function.update stages pid mine) := by
  unfold FileWorld.updates
  split
  · have keepsRows : KeepsRows world
        { world with sessions := world.sessions.add pid write } := by
      rintro other (old | ⟨owner, member⟩)
      · exact ⟨other, .inl old, rfl, rfl⟩
      · rcases List.mem_append.mp member with before | new
        · exact ⟨other, .inr ⟨owner, before⟩, rfl, rfl⟩
        · cases List.mem_singleton.mp new
          exact absurd rfl (inserts other)
    have extends_ : Extends world { world with sessions := world.sessions.add pid write } :=
      ⟨fun row present => .inl (keepsRows row present), Nat.le_refl _, fun _ _ there => there,
        fun _ there => there⟩
    refine ⟨sound.numbered.mono keepsRows (Nat.le_refl _), fun owner other member => ?_,
      fun owner id member => ?_, sound.published, knows_update sound extends_ (here.mono extends_),
      sound.served⟩
    · rcases List.mem_append.mp member with before | new
      · exact sound.drafts owner other before
      · cases List.mem_singleton.mp new
        exact absurd rfl (inserts other)
    · rcases List.mem_append.mp member with before | new
      · have recorded := sound.marked owner id before
        by_cases same : owner = pid
        · subst same
          rw [Function.update_self, keeps recorded.1]
          exact recorded
        · rw [Function.update_of_ne same]
          exact recorded
      · cases List.mem_singleton.mp new
        rw [Function.update_self]
        exact verdict id rfl
  · exact sound.quiet (.refl world) rfl here keeps sound.served

/-- Objects are deleted. -/
theorem Extends.deletesObject (world : FileWorld) (objectKey : String) :
    Extends world (world.deletesObject objectKey).2 := by
  unfold FileWorld.deletesObject
  split
  · exact .called world
  · refine .of_sessions rfl (Nat.le_refl _) (fun key stored there => ?_) fun _ there => there
    dsimp only at there
    by_cases same : key = objectKey
    · rw [same, Function.update_self] at there
      cases there
    · rwa [Function.update_of_ne same] at there

/-- A scan is written down. -/
theorem Extends.scans (world : FileWorld) (scanner : MalwareScanner) (body : Body)
    (filename : String) : Extends world (world.scans scanner body filename).2 := by
  refine .of_sessions rfl (Nat.le_refl _) (fun _ _ there => there) fun scan there => ?_
  unfold FileWorld.scans
  dsimp only
  split
  · exact List.mem_append_left _ there
  · exact there

/-- A clean result is one that has been written down. -/
theorem scans_clean {scanner : MalwareScanner} {body : Body} {filename : String}
    {result : MalwareScanResult}
    (scanned : (world.scans scanner body filename).1 = some result) (clean : result.clean = true) :
    ⟨body, filename⟩ ∈ (world.scans scanner body filename).2.cleanScans := by
  unfold FileWorld.scans at scanned ⊢
  dsimp only at scanned ⊢
  rw [scanned, Option.any_some, clean, if_pos rfl]
  exact List.mem_append_right _ (List.mem_singleton.mpr rfl)

/-- A request loads a row that it sees, while nothing is recorded in its session. -/
theorem Sound.loads (sound : Sound world stages) (clear : (stages pid).recorded = false)
    (seen : file ∈ (world.sessions.view pid).uploadedFiles) :
      Knows world { file := some file } := by
  obtain ⟨base, there, named, agrees, became⟩ := mem_view seen
  refine ⟨fun other loaded => ?_, fun other row loaded present same => ?_,
    fun other loaded verified => ?_, nofun, nofun⟩ <;> cases loaded
  · exact named ▸ sound.numbered.below base there
  · exact (sound.numbered.single row base present there (same.trans named)).trans agrees.symm
  · rcases became verified with rfl | marked
    · rcases there with old | ⟨owner, inserted⟩
      · exact sound.published base old verified
      · cases (sound.drafts owner base inserted).symm.trans verified
    · cases clear.symm.trans (sound.marked pid base.id marked).1

/-- A request reads the object as it is. -/
theorem get_whole {objectKey : String} {read : Nat} {body : Body}
    (got : world.get objectKey read = .ok body) (whole : body.length < read) :
    ∃ stored, world.objects objectKey = some stored ∧ stored.body = body := by
  unfold FileWorld.get at got
  split at got
  · cases got
  · cases got
  · next stored _ there =>
      cases got
      refine ⟨stored, there, ?_⟩
      rw [List.length_take] at whole
      exact (List.take_of_length_le (by omega)).symm

end Invariant

/-! ## Which uses of an upload URL do no harm -/

/-- The file is verified, or a request is about to serve it or has read it for a
verification. -/
def FileConfig.Concerns (config : FileConfig) (file : UploadedFile) : Prop :=
  (file ∈ config.world.db.uploadedFiles ∧ file.verificationStatus = .verified) ∨
    ∃ pid, (config.progress pid).file = some file ∧
      (file.verificationStatus = .verified ∨ (config.progress pid).body.isSome = true)

/-- The bytes are there already or have passed, for every file that is concerned. -/
def FileConfig.Harmless (config : FileConfig) (objectKey : String) (body : Body) : Prop :=
  ∀ file, config.Concerns file → file.objectKey = objectKey →
    (∃ stored, config.world.objects objectKey = some stored ∧ stored.body = body) ∨
      Passed config.world file body

/-- An upload URL that is good is used only where it does no harm. -/
def PutsAreHarmless (config : FileConfig) : Action FileCall → Prop
  | .issue pid => ∀ process objectKey contentType body, config.running pid = some process →
      process.call = .clientPut objectKey contentType body →
      config.world.allowsPut objectKey contentType = true → config.Harmless objectKey body
  | _ => True

/-- Every download of a verified file was signed over bytes that had passed.  What has
been scanned is looked up where the download has just been signed, too. -/
def ServesPassedContent (config : FileConfig) : Prop :=
  ∀ download ∈ config.world.downloads, download.uploadedFile.verificationStatus = .verified →
    ∀ stored, download.stored = some stored →
      Passed config.world download.uploadedFile stored.body

section Steps

variable {cfg : FileSettings} {config : FileConfig} {pid : Pid}

/-- **A harmless use of an upload URL** leaves the invariant. -/
theorem Sound.puts (sound : Sound config.world config.progress) {objectKey contentType : String}
    {body : Body} (harmless : config.world.allowsPut objectKey contentType = true →
      config.Harmless objectKey body) :
    Sound (config.world.puts objectKey contentType body).2
      (Function.update config.progress pid (config.progress pid)) := by
  rw [Function.update_eq_self]
  unfold FileWorld.puts
  split
  · next allowed =>
      have clean : ∀ file, config.Concerns file → Clean config.world file →
          Clean { config.world with
            objects := Function.update config.world.objects objectKey (some ⟨body, contentType⟩) }
            file := by
        intro file concerned fine stored there
        dsimp only at there
        by_cases same : file.objectKey = objectKey
        · rw [same, Function.update_self] at there
          cases there
          rcases harmless allowed file concerned same with ⟨old, was, equal⟩ | passed
          · exact equal ▸ fine old (same ▸ was)
          · exact passed
        · rw [Function.update_of_ne same] at there
          exact fine stored there
      refine ⟨⟨sound.numbered.below, sound.numbered.single⟩, sound.drafts, sound.marked,
        fun row member verified => ?_, fun other => ?_, sound.served⟩
      · exact clean row (.inl ⟨member, verified⟩) (sound.published row member verified)
      · have knows := sound.knows other
        refine ⟨knows.numbered, knows.same, fun file loaded verified => ?_,
          fun file read stored loaded known there => ?_, knows.passed⟩
        · exact clean file (.inr ⟨other, loaded, .inl verified⟩) (knows.clean file loaded verified)
        · dsimp only at there
          by_cases same : file.objectKey = objectKey
          · rw [same, Function.update_self] at there
            cases there
            have concerned : config.Concerns file :=
              .inr ⟨other, loaded, .inr (Option.isSome_iff_exists.mpr ⟨read, known⟩)⟩
            rcases harmless allowed file concerned same with ⟨old, was, equal⟩ | passed
            · exact equal ▸ knows.read file read old loaded known (same ▸ was)
            · exact .inr passed
          · rw [Function.update_of_ne same] at there
            exact knows.read file read stored loaded known there
  · exact sound

/-- **One statement of a request** keeps the invariant. -/
theorem Sound.issue (sound : Sound config.world config.progress) {call : FileCall} {stmt : FileStmt}
    (allowed : Progress.must call (config.progress pid) stmt)
    (harmless : ∀ objectKey contentType body, call = .clientPut objectKey contentType body →
      config.world.allowsPut objectKey contentType = true → config.Harmless objectKey body) :
    Sound (effectOf pid stmt config.world).2 (Function.update config.progress pid
      ((config.progress pid).learn ⟨stmt, (effectOf pid stmt config.world).1⟩)) := by
  have called : Sound config.world.called
    (Function.update config.progress pid (config.progress pid)) :=
    sound.quiet (.called _) rfl ((sound.knows pid).mono (.called _)) (fun _ => rfl)
      (sound.served_mono (.called _))
  cases stmt with
  | select query =>
      change Sound config.world (Function.update _ pid (Progress.learn _
        ⟨.select query, query.eval (config.world.sessions.view pid)⟩))
      cases found : query.eval (config.world.sessions.view pid) with
      | none => exact sound.quiet (.refl _) rfl (sound.knows pid) (fun _ => rfl) sound.served
      | some file =>
          exact sound.quiet (.refl _) rfl (sound.loads allowed (FileQuery.eval_mem found))
            (fun recorded => Bool.noConfusion (allowed.symm.trans recorded)) sound.served
  | insert draft => exact sound.inserts pid (allowed _).1 (allowed _).2
  | verify id =>
      obtain ⟨passed, file, loaded, named⟩ := allowed
      have knows := sound.knows pid
      refine sound.updates pid (fun row => nofun) (fun other same => ?_) (fun recorded => ?_)
        ⟨knows.numbered, knows.same, knows.clean, knows.read, knows.passed⟩
      · cases same
        exact ⟨rfl, passed, file, loaded, named⟩
      · rw [Progress.learn, ← recorded]
  | delete id objectKey =>
      exact sound.updates pid (fun row => nofun) (fun id => nofun) (fun _ => rfl) (sound.knows pid)
  | commit => exact sound.committed pid
  | uuid7 => exact called
  | headBucket => exact called
  | presignPut objectKey contentType expiresIn =>
      change Sound (config.world.presignsPut objectKey contentType expiresIn).2
        (Function.update _ pid (config.progress pid))
      unfold FileWorld.presignsPut
      split
      · exact called
      · have extends_ : Extends config.world { config.world.called with
            uploads := config.world.uploads ++
              [⟨objectKey, contentType, config.world.clock + expiresIn⟩] } :=
          .of_sessions rfl (Nat.le_refl _) (fun _ _ there => there) fun _ there => there
        exact sound.quiet extends_ rfl ((sound.knows pid).mono extends_) (fun _ => rfl)
          (sound.served_mono extends_)
  | presignGet uploadedFile =>
      change Sound (config.world.presignsGet uploadedFile).2
        (Function.update _ pid (config.progress pid))
      unfold FileWorld.presignsGet
      split
      · exact called
      · have extends_ : Extends config.world { config.world.called with
            downloads := config.world.downloads ++
              [⟨uploadedFile, config.world.objects uploadedFile.objectKey⟩] } :=
          .of_sessions rfl (Nat.le_refl _) (fun _ _ there => there) fun _ there => there
        refine sound.quiet extends_ rfl ((sound.knows pid).mono extends_) (fun _ => rfl)
          fun download member stored there => ?_
        rcases List.mem_append.mp member with old | new
        · exact sound.served_mono extends_ download old stored there
        · cases List.mem_singleton.mp new
          exact extends_.passed
            ((sound.knows pid).clean uploadedFile allowed.1 allowed.2 stored there)
  | headObject objectKey => exact called
  | getObject objectKey read =>
      obtain ⟨clear, file, loaded, rfl⟩ := allowed
      change Sound config.world.called (Function.update _ pid (Progress.learn _
        ⟨.getObject file.objectKey read, config.world.get file.objectKey read⟩))
      cases got : config.world.get file.objectKey read with
      | error outage => exact called
      | ok body =>
          change Sound _ (Function.update _ pid (if body.length < read then _ else _))
          split
          · next whole =>
              obtain ⟨stored, there, same⟩ := get_whole got whole
              have knows := (sound.knows pid).mono (.called config.world)
              refine sound.quiet (.called _) rfl ⟨knows.numbered, knows.same, knows.clean,
                fun other read current loadedToo known now => .inl ?_, nofun⟩
                (fun recorded => Bool.noConfusion (clear.symm.trans recorded))
                (sound.served_mono (.called _))
              obtain rfl := Option.some.inj (loaded.symm.trans loadedToo)
              obtain rfl := Option.some.inj known
              obtain rfl := Option.some.inj (there.symm.trans now)
              exact same
          · exact called
  | deleteObject objectKey =>
      have extends_ := Extends.deletesObject config.world objectKey
      have others : (config.world.deletesObject objectKey).2.sessions = config.world.sessions ∧
          (config.world.deletesObject objectKey).2.downloads = config.world.downloads := by
        unfold FileWorld.deletesObject
        split <;> exact ⟨rfl, rfl⟩
      refine sound.quiet extends_ others.1 ((sound.knows pid).mono extends_) (fun _ => rfl) ?_
      change ∀ download ∈ (config.world.deletesObject objectKey).2.downloads, _
      rw [others.2]
      exact sound.served_mono extends_
  | scan scanner body filename =>
      obtain ⟨clear, file, loaded, rfl, read, sniffed⟩ := allowed
      have extends_ := Extends.scans config.world scanner body file.filename
      have knows := (sound.knows pid).mono extends_
      change Sound (config.world.scans scanner body file.filename).2 (Function.update _ pid
        (Progress.learn _ ⟨.scan scanner body file.filename,
          (config.world.scans scanner body file.filename).1⟩))
      cases scanned : (config.world.scans scanner body file.filename).1 with
      | none => exact sound.quiet extends_ rfl knows (fun _ => rfl) (sound.served_mono extends_)
      | some result =>
          refine sound.quiet extends_ rfl ⟨knows.numbered, knows.same, knows.clean, knows.read,
            fun clean => ⟨file, body, loaded, read, sniffed, scans_clean scanned clean⟩⟩
            (fun recorded => Bool.noConfusion (clear.symm.trans recorded))
            (sound.served_mono extends_)
  | lpush uploadedFileId => exact called
  | put objectKey contentType body => exact sound.puts (harmless _ _ _ allowed)

/-- **Every step keeps the invariant**, if it uses upload URLs only where that does no
harm. -/
theorem Sound.step {action : Action FileCall} {later : FileConfig}
    (sound : Sound config.world config.progress) (watched : config.Watched fileWatch)
    (harmless : PutsAreHarmless config action)
    (taken : Step (fileMachine cfg) config action later) :
    Sound later.world later.progress := by
  cases watched.staged taken {} with
  | start idle world stages =>
      rw [world, FileConfig.progress, stages]
      exact sound.release _
  | @issue pid call stmt next log answer running allowed executed stages =>
      have effect := execFile_some executed
      have world : later.world = (effectOf pid stmt config.world).2 :=
        (congrArg Prod.snd effect).symm
      have answered : answer = (effectOf pid stmt config.world).1 := (congrArg Prod.fst effect).symm
      rw [world, FileConfig.progress, stages, answered]
      exact sound.issue allowed fun objectKey contentType body same =>
        harmless _ objectKey contentType body running same
  | finish met world stages =>
      rw [world, FileConfig.progress, stages]
      exact sound.release _
  | stop world stages =>
      rw [world, FileConfig.progress, stages]
      exact sound.release _
  | ambient changed stages =>
      rw [FileConfig.progress, stages]
      generalize later.world = elapsed at changed
      cases changed with
      | waits clock later =>
          exact ⟨⟨sound.numbered.below, sound.numbered.single⟩, sound.drafts, sound.marked,
            sound.published, fun pid => (sound.knows pid).mono
              (.of_sessions rfl (Nat.le_refl _) (fun _ _ there => there) fun _ there => there),
            sound.served⟩

end Steps

/-! ## The theorem -/

/-- A world before any request: the rows are numbered, what is stored for a verified file
has passed, and no download has been signed.  Any upload URLs may be about. -/
structure FileWorld.Ready (world : FileWorld) : Prop where
  idle : world.sessions.pending = []
  numbered : ∀ row ∈ world.db.uploadedFiles, row.id < world.nextId
  single : ∀ row ∈ world.db.uploadedFiles, ∀ other ∈ world.db.uploadedFiles,
    row.id = other.id → row = other
  clean : ∀ row ∈ world.db.uploadedFiles, row.verificationStatus = .verified → Clean world row
  unserved : world.downloads = []

theorem FileWorld.Ready.sound {world : FileWorld} (ready : world.Ready) :
    Sound world (FileConfig.progress (.initial world)) := by
  have committed : ∀ row, world.Present row → row ∈ world.db.uploadedFiles := by
    rintro row (there | ⟨pid, member⟩)
    · exact there
    · rw [ready.idle] at member
      cases member
  have nothing : ∀ entry, entry ∉ world.sessions.pending := by
    intro entry member
    rw [ready.idle] at member
    cases member
  refine ⟨⟨fun row present => ready.numbered row (committed row present),
    fun row other present presentToo same => ?_⟩, fun _ _ member => absurd member (nothing _),
    fun _ _ member => absurd member (nothing _), ready.clean, fun _ => .nothing world,
    fun download member => ?_⟩
  · exact congrArg _ (ready.single row (committed row present) other
      (committed other presentToo) same)
  · rw [ready.unserved] at member
    cases member

/-- **Served content has passed**: in a run in which upload URLs are used only where it
does no harm, every download of a verified file is signed over bytes that have passed the
sniff and the scan. -/
theorem served_content_has_passed (cfg : FileSettings) {start : FileWorld} (ready : start.Ready)
    {config : FileConfig}
    (runs : Runs (fileMachine cfg) PutsAreHarmless (Config.initial start) config) :
    ServesPassedContent config := by
  have holds : config.Watched fileWatch ∧ Sound config.world (FileConfig.progress config) := by
    induction runs with
    | refl => exact ⟨.initial _ _, ready.sound⟩
    | tail _ last ih =>
        obtain ⟨action, harmless, taken⟩ := last
        refine ⟨ih.1.step taken (perform_files cfg) ?_, ih.2.step ih.1 harmless taken⟩
        exact fun _ _ _ _ _ _ _ _ _ _ => trivial
  exact fun download member _ => holds.2.served download member

/-! ## An upload that is served, and one that is swapped -/

def uploadSettings : FileSettings where
  uploadMaxSizeBytes := 5242880
  uploadAllowedContentTypes := "image/png,image/jpeg,application/pdf"
  uploadPresignedUrlExpireSeconds := 300
  uploadMalwareScanEnabled := true
  uploadMalwareScannerUrl := "http://scanner/scan"

/-- Nothing is stored, and everything outside works. -/
def emptyStore : FileWorld where
  sessions := ⟨⟨[]⟩, []⟩
  nextId := 1
  clock := 0
  objects := fun _ => none
  uploads := []
  calls := 0
  surroundings := ⟨fun _ => none, fun _ => .answered 200 true, fun _ => true, fun _ => "0"⟩
  cleanScans := []
  downloads := []

theorem emptyStore_ready : emptyStore.Ready := ⟨rfl, nofun, nofun, nofun, rfl⟩

def uploader : Accounts.User where
  id := 1
  tenantId := 1
  email := "owner@salon"
  hashedPassword := ""

def uploadKey : String := "tenants/1/uploads/1/0-a.pdf"

/-- `%PDF`. -/
def pdfBody : Body := [0x25, 0x50, 0x44, 0x46]

/-- One call from its start to its end. -/
def wholeFileCall (call : FileCall) (statements : Nat) : List (Action FileCall) :=
  .start 0 call :: List.replicate statements (.issue 0) ++ [.finish 0]

/-- A file is uploaded through its URL, registered and verified. -/
def uploadOnce : List (Action FileCall) :=
  wholeFileCall (.createPresignedUpload uploader "a.pdf" "application/pdf") 3 ++
    wholeFileCall (.clientPut uploadKey "application/pdf" pdfBody) 1 ++
    wholeFileCall (.completePresignedUpload uploader uploadKey "a.pdf" "application/pdf" 4) 5 ++
    wholeFileCall (.verifyPresignedUpload 1) 6

def downloadOnce : List (Action FileCall) := wholeFileCall (.getDownloadUrl uploader 1) 2

def uploadAndServe : List (Action FileCall) := uploadOnce ++ downloadOnce

/-- The URL is used once more before the download. -/
def uploadAndSwap : List (Action FileCall) :=
  uploadOnce ++ wholeFileCall (.clientPut uploadKey "application/pdf" [0]) 1 ++ downloadOnce

theorem uploadAndServe_possible :
    ((Config.initial emptyStore : FileConfig).runActions (fileMachine uploadSettings)
      uploadAndServe).isSome = true := by
  decide +kernel

/-- The only process that runs is no client, or nothing has been uploaded yet. -/
def looksHarmless (config : FileConfig) : Action FileCall → Bool
  | .issue pid =>
      match config.running pid with
      | some ⟨.clientPut _ _ _, _, _⟩ =>
          config.world.db.uploadedFiles.isEmpty && (config.progress pid).file.isNone
      | _ => true
  | _ => true

theorem harmless_of_alone {pid : Pid} (config : FileConfig) (action : Action FileCall)
    (alone : ∀ other, other ≠ pid → config.running other = none) (mine : action.by pid = true)
    (looks : looksHarmless config action = true) : PutsAreHarmless config action := by
  cases action with
  | issue actor =>
      obtain rfl : actor = pid := beq_iff_eq.mp mine
      rintro process objectKey contentType body running same - file concerned -
      obtain ⟨call, rest, log⟩ := process
      obtain rfl : call = .clientPut objectKey contentType body := same
      rw [looksHarmless, running, Bool.and_eq_true, List.isEmpty_iff, Option.isNone_iff_eq_none]
        at looks
      rcases concerned with ⟨member, -⟩ | ⟨other, loaded, -⟩
      · rw [looks.1] at member
        cases member
      · by_cases different : other = actor
        · rw [different, looks.2] at loaded
          cases loaded
        · rw [FileConfig.progress, Config.stages_idle (alone other different)] at loaded
          cases loaded
  | _ => trivial

theorem uploaded_file_is_served : ∃ config : FileConfig,
    Runs (fileMachine uploadSettings) PutsAreHarmless (Config.initial emptyStore) config ∧
      config.world.downloads.map (·.stored) = [some ⟨pdfBody, "application/pdf"⟩] ∧
      ServesPassedContent config := by
  have passes : (Config.initial emptyStore : FileConfig).passes (fileMachine uploadSettings)
      looksHarmless uploadAndServe = true := by
    decide +kernel
  have mine : uploadAndServe.all (·.by 0) = true := by decide
  have runs := Runs.of_single_guarded harmless_of_alone uploadAndServe mine passes
    (fun _ _ => rfl) (Option.some_get uploadAndServe_possible).symm
  exact ⟨_, runs, by decide +kernel, served_content_has_passed uploadSettings emptyStore_ready runs⟩

theorem uploadAndSwap_possible :
    ((Config.initial emptyStore : FileConfig).runActions (fileMachine uploadSettings)
      uploadAndSwap).isSome = true := by
  decide +kernel

/-- The upload URL is used again after the verification, and what is served then has
neither been sniffed nor scanned. -/
theorem swapped_content_is_served : ∃ config : FileConfig,
    Runs (fileMachine uploadSettings) (fun _ _ => True) (Config.initial emptyStore) config ∧
      config.world.downloads.map (fun download =>
        (download.uploadedFile.verificationStatus, download.stored)) =
          [(.verified, some ⟨[0], "application/pdf"⟩)] ∧
      config.world.cleanScans = [⟨pdfBody, "a.pdf"⟩] ∧ ¬ServesPassedContent config := by
  have served : (((Config.initial emptyStore : FileConfig).runActions (fileMachine uploadSettings)
      uploadAndSwap).get uploadAndSwap_possible).world.downloads.map (fun download =>
        (download.uploadedFile.verificationStatus, download.stored)) =
          [(.verified, some ⟨[0], "application/pdf"⟩)] := by
    decide +kernel
  have scanned : (((Config.initial emptyStore : FileConfig).runActions (fileMachine uploadSettings)
      uploadAndSwap).get uploadAndSwap_possible).world.cleanScans = [⟨pdfBody, "a.pdf"⟩] := by
    decide +kernel
  refine ⟨_, .of_runActions uploadAndSwap (Option.some_get uploadAndSwap_possible).symm, served,
    scanned, fun serves => ?_⟩
  have member : (UploadVerificationStatus.verified,
    some (⟨[0], "application/pdf"⟩ : StoredObject)) ∈
      (((Config.initial emptyStore : FileConfig).runActions (fileMachine uploadSettings)
        uploadAndSwap).get uploadAndSwap_possible).world.downloads.map fun download =>
          (download.uploadedFile.verificationStatus, download.stored) := by
    rw [served]
    exact List.mem_singleton.mpr rfl
  obtain ⟨download, there, same⟩ := List.mem_map.mp member
  obtain ⟨verified, stored⟩ := Prod.mk.inj same
  have passed := (serves download there verified _ stored).2
  rw [scanned] at passed
  cases List.mem_singleton.mp passed

end AppointmentVoice.Files
