import AppointmentVoice.Accounts.Salons
import AppointmentVoice.Accounts.History
import AppointmentVoice.Accounts.Statements

/-!
# Whose salon an inbound call reaches

The look-up for an inbound call knows no tenant, and nothing keeps two tenants from giving
their salons one number.  The requests of the other tenants never touch the row of a salon
themselves; the salon keeps its line as long as none of them leaves one of its own salons
active under the number.

**The result.** A step keeps the line exactly if it does not capture it
(`Undisturbed.answers_step`), and so does every run (`phone_line_is_kept`); `line_is_captured`
is an onboarding under a number that is taken.
-/

set_option autoImplicit false

namespace AppointmentVoice.Accounts

open Concurrency Program

/-! ## What a request may touch -/

/-- The write makes or changes the salon. -/
def AccountWrite.Touches (id : Nat) : AccountWrite → Prop
  | .insertSalon row => row.id = id
  | .updateSalon other _ => other = id
  | _ => False

/-- The write makes no salon but the one with its own key. -/
def AccountWrite.AddsAt (id : Nat) : AccountWrite → Prop
  | .insertSalon row => row.id = id
  | .updateSalon _ _ => False
  | _ => True

/-- A request looks for salons of its own tenant, and changes only those that it has
found. -/
def salonMust (tenantId : Nat) (found : List Nat) : AccountStmt → Prop
  | .select (.salon _ owner) => owner = tenantId
  | .select (.salons owner) => owner = tenantId
  | .insert draft => ∀ id, (draft id).AddsAt id
  | .update write => ∃ id ∈ found, ∃ change, write = .updateSalon id change
  | _ => True

/-- The keys of the salons that have been found. -/
def salonLearn (found : List Nat) : Event AccountSql → List Nat
  | ⟨.select (.salon _ _), some row⟩ => row.id :: found
  | ⟨.select (.salons _), rows⟩ => (rows : List Salon).map (·.id) ++ found
  | _ => found

def salonWatch : Watch AccountSql SalonCall AccountError SalonReply (List Nat) where
  monitor call :=
    { may := fun _ _ => True
      must := salonMust call.tenantId
      learn := salonLearn }
  initial _ := []
  post _ _ _ := True

section Programs

variable {call : SalonCall} {found : List Nat} {α : Type}
  {post : Except AccountError α → List Nat → Prop}

/-- A flush of a salon that has been found. -/
theorem along_flushSalon {id : Nat} {change : SalonChange} {next : Unit → AccountM α}
    (known : id ∈ found) (raises : ∀ error, post (.error error) found)
    (rest : (salonWatch.monitor call).Along post (next ()) found) :
    (salonWatch.monitor call).Along post (flushSalon id change >>= next) found := by
  unfold flushSalon
  split
  · exact rest
  · refine .call ⟨id, known, change, rfl⟩ fun answer _ => ?_
    cases (answer : Bool) with
    | true => exact rest
    | false => exact .raise (raises _)

/-- A new row. -/
theorem along_add {draft : Nat → AccountWrite} {next : Nat → AccountM α}
    (adds : ∀ id, (draft id).AddsAt id) (raises : ∀ error, post (.error error) found)
    (rest : ∀ id, (salonWatch.monitor call).Along post (next id) found) :
    (salonWatch.monitor call).Along post (add draft >>= next) found := by
  refine .call adds fun answer _ => ?_
  cases (answer : Option Nat) with
  | some id => exact rest id
  | none => exact .raise (raises _)

theorem along_addEach {drafts : List (Nat → AccountWrite)} {next : Unit → AccountM α}
    (adds : ∀ draft ∈ drafts, ∀ id, (draft id).AddsAt id)
    (raises : ∀ error, post (.error error) found)
    (rest : (salonWatch.monitor call).Along post (next ()) found) :
    (salonWatch.monitor call).Along post (addEach drafts >>= next) found := by
  induction drafts with
  | nil => exact rest
  | cons draft drafts ih =>
      rw [addEach, bind_assoc]
      exact along_add (adds draft List.mem_cons_self) raises fun _ =>
        ih fun other member => adds other (List.mem_cons_of_mem _ member)

/-- The commit, and the reading of the row after it. -/
theorem along_finish {id : Nat} {next : Salon → AccountM α}
    (raises : ∀ error, post (.error error) found)
    (rest : ∀ row, (salonWatch.monitor call).Along post (next row) found) :
    (salonWatch.monitor call).Along post (commit >>= fun _ => refreshSalon id >>= next) found := by
  refine .issue trivial fun _ _ => .issue trivial fun answer _ => ?_
  cases (answer : Option Salon) with
  | some row => exact rest row
  | none => exact .raise (raises _)

/-- The rows that hang on a salon are no salons. -/
theorem adds_dependents (request : OnboardingSetupRequest) (tenantId businessId : Nat) :
    ∀ draft ∈ request.dependents tenantId businessId, ∀ id, (draft id).AddsAt id := by
  intro draft member id
  rw [OnboardingSetupRequest.dependents, List.mem_append, List.mem_append] at member
  rcases member with (staff | service) | hours
  · obtain ⟨item, -, rfl⟩ := List.mem_map.mp staff
    exact trivial
  · obtain ⟨item, -, rfl⟩ := List.mem_map.mp service
    exact trivial
  · obtain ⟨item, -, rfl⟩ := List.mem_map.mp hours
    exact trivial

/-- The salon of an onboarding is new, or has been found among those of the tenant. -/
theorem along_placeSalon {tenantId : Nat} {spec : OnboardingBusinessSpec} {next : Nat → AccountM α}
    (own : call.tenantId = tenantId) (raises : ∀ error later, post (.error error) later)
    (rest : ∀ id later, (salonWatch.monitor call).Along post (next id) later) :
    (salonWatch.monitor call).Along post (placeSalon tenantId spec >>= next) found := by
  have fresh : ∀ later, (salonWatch.monitor call).Along post
      ((add fun id => .insertSalon (spec.salon tenantId id)) >>= next) later :=
    fun later => along_add (fun _ => rfl) (fun error => raises error later) fun id => rest id later
  unfold placeSalon getReusableSignupBusiness
  rw [bind_assoc, bind_assoc]
  refine .issue trivial fun signedUp _ => ?_
  cases (signedUp : Bool) with
  | false => exact fresh _
  | true =>
      rw [if_pos rfl, bind_assoc]
      refine .issue own.symm fun rows _ => ?_
      obtain ⟨salons, rfl⟩ : ∃ salons : List Salon, salons = rows := ⟨rows, rfl⟩
      rcases salons with _ | ⟨business, _ | ⟨other, more⟩⟩
      · exact fresh _
      · refine .issue trivial fun hasStaff _ => .issue trivial fun hasServices _ =>
          .issue trivial fun hasWorkingHours _ => ?_
        cases (hasStaff : Bool) || (hasServices : Bool) || (hasWorkingHours : Bool) with
        | true =>
            simp only [if_true]
            exact fresh _
        | false =>
            simp only [Bool.false_eq_true, if_false, bind_assoc]
            exact along_flushSalon List.mem_cons_self (fun error => raises error _) (rest _ _)
      · exact fresh _

/-- **Every request keeps to its monitor.** -/
theorem perform_salon (call : SalonCall) :
    (salonWatch.monitor call).Along (salonWatch.post call) (performSalon call)
      (salonWatch.initial call) := by
  cases call with
  | createBusiness tenantId body =>
      change (salonWatch.monitor _).Along _ (createBusiness tenantId body >>= _) _
      unfold createBusiness
      rw [bind_assoc]
      exact along_add (fun _ => rfl) (fun _ => trivial) fun id =>
        along_finish (fun _ => trivial) fun _ => .ret trivial
  | updateBusiness businessId tenantId body =>
      change (salonWatch.monitor _).Along _ (updateBusiness businessId tenantId body >>= _) _
      unfold updateBusiness requireBusiness
      simp only [bind_assoc]
      refine .issue rfl fun answer _ => ?_
      cases (answer : Option Salon) with
      | none => exact .raise trivial
      | some business =>
          change (salonWatch.monitor _).Along (salonWatch.post _)
            (flushSalon business.id (body.changes business) >>= _) _
          refine along_flushSalon List.mem_cons_self (fun _ => trivial) ?_
          exact along_finish (fun _ => trivial) fun _ => .ret trivial
  | setupBusinessOnboarding tenantId request =>
      change (salonWatch.monitor _).Along _ (setupBusinessOnboarding tenantId request >>= _) _
      unfold setupBusinessOnboarding
      rw [bind_assoc]
      refine along_placeSalon rfl (fun _ _ => trivial) fun id later => ?_
      rw [bind_assoc]
      refine along_addEach (adds_dependents request tenantId id) (fun _ => trivial) ?_
      simp only [bind_assoc]
      exact along_finish (fun _ => trivial) fun _ => .ret trivial

end Programs

/-! ## Salons that are not touched -/

theorem SalonChange.apply_id (change : SalonChange) (row : Salon) :
    (change.apply row).id = row.id := rfl

/-- A write leaves the rows of other salons as they are. -/
theorem mem_salons_apply {db : AccountDb} {write : AccountWrite} {row : Salon}
    (other : ¬write.Touches row.id) : row ∈ (db.apply write).salons ↔ row ∈ db.salons := by
  cases write with
  | insertSalon new =>
      change row ∈ db.salons ++ [new] ↔ _
      rw [List.mem_append, List.mem_singleton, or_iff_left_iff_imp]
      rintro rfl
      exact absurd rfl other
  | updateSalon id change =>
      change row ∈ db.salons.map _ ↔ _
      rw [List.mem_map]
      constructor
      · rintro ⟨old, there, same⟩
        split at same
        · next touched =>
            refine absurd ?_ other
            rw [← same, SalonChange.apply_id]
            exact touched.symm
        · exact same ▸ there
      · exact fun there => ⟨row, there, if_neg fun same => other same.symm⟩
  | _ => exact Iff.rfl

/-- The writes make or change the salon. -/
def AccountWrite.TouchAny (writes : List AccountWrite) (id : Nat) : Prop :=
  ∃ write ∈ writes, write.Touches id

/-- **Writes leave the rows of other salons as they are.** -/
theorem mem_salons_applyAll {db : AccountDb} {writes : List AccountWrite} {row : Salon}
    (other : ¬AccountWrite.TouchAny writes row.id) :
    row ∈ (Sessions.applyAll db writes).salons ↔ row ∈ db.salons := by
  induction writes generalizing db with
  | nil => exact Iff.rfl
  | cons write writes ih =>
      rw [Sessions.applyAll_cons, ih fun ⟨later, member, touches⟩ =>
        other ⟨later, List.mem_cons_of_mem _ member, touches⟩]
      exact mem_salons_apply fun touches => other ⟨write, List.mem_cons_self, touches⟩

/-! ## The row of the salon -/

/-- The keys of the salons are unique, and lower than the next one. -/
structure AccountDb.SalonKeys (db : AccountDb) (nextId : Nat) : Prop where
  unique : (db.salons.map (·.id)).Nodup
  early : ∀ row ∈ db.salons, row.id < nextId

/-- The requests of others do not touch the row of the salon. -/
structure Undisturbed (business : Salon) (config : SalonConfig) : Prop where
  watched : config.Watched salonWatch
  elsewhere : config.Every fun _ call log => call.tenantId ≠ business.tenantId ∧
    ∀ id ∈ salonWatch.state call log, id ≠ business.id
  spared : ∀ pid write, write ∈ config.world.sessions.writesOf pid → ¬write.Touches business.id
  there : business ∈ config.world.db.salons
  only : ∀ row ∈ config.world.db.salons, row.id = business.id → row = business
  early : business.id < config.world.nextId

/-- The request is made by an admin of another tenant. -/
def ByOthers (tenantId : Nat) : Action SalonCall → Prop
  | .start _ request => request.tenantId ≠ tenantId
  | _ => True

namespace Undisturbed

variable {business : Salon} {before after config : SalonConfig} {action : Action SalonCall}

theorem start {db : AccountDb} {nextId : Nat} (keys : db.SalonKeys nextId)
    (there : business ∈ db.salons) (clock : Nat) :
    Undisturbed business (Config.initial (AccountWorld.start db nextId clock)) where
  watched := .initial _ _
  elsewhere := .initial _
  spared _ _ member := by cases member
  there := there
  only row member same := by
    exact List.inj_on_of_nodup_map keys.unique member there same
  early := keys.early business there

/-- The other sessions see the row of the salon, and no other with its key. -/
theorem seen (undisturbed : Undisturbed business config) (pid : Pid) {row : Salon}
    (same : row.id = business.id) (member : row ∈ (config.world.sessions.view pid).salons) :
    row = business := by
  refine undisturbed.only row ((mem_salons_applyAll ?_).mp member) same
  rintro ⟨write, among, touches⟩
  exact undisturbed.spared pid write among (same ▸ touches)

/-- What a statement of another tenant teaches and writes. -/
theorem issued (undisturbed : Undisturbed business config) {pid : Pid} {call : SalonCall}
    {stmt : AccountStmt} {next : stmt.Answer → AccountM SalonReply} {log : List (Event AccountSql)}
    (running : config.running pid = some ⟨call, .call stmt next, log⟩) :
    salonMust call.tenantId (salonWatch.state call log) stmt := by
  have along := undisturbed.watched.running pid _ running
  cases along with
  | call allowed rest => exact allowed

/-- A salon that a request finds is another one. -/
theorem learns (undisturbed : Undisturbed business config) (pid : Pid) {call : SalonCall}
    {stmt : AccountStmt} {found : List Nat} (elsewhere : call.tenantId ≠ business.tenantId)
    (allowed : salonMust call.tenantId found stmt) (others : ∀ id ∈ found, id ≠ business.id) :
    ∀ id ∈ salonLearn found ⟨stmt, (effectOf pid call stmt config.world).1⟩, id ≠ business.id := by
  have apart : ∀ row : Salon, row ∈ (config.world.sessions.view pid).salons →
      row.tenantId = call.tenantId → row.id ≠ business.id := by
    intro row member mine same
    rw [undisturbed.seen pid same member] at mine
    exact elsewhere mine.symm
  cases stmt with
  | select query =>
      cases query with
      | salon id tenantId =>
          obtain rfl : tenantId = call.tenantId := allowed
          change ∀ _ ∈ salonLearn found ⟨.select (.salon id call.tenantId), _⟩, _
          cases answered : (AccountQuery.salon id call.tenantId).eval
            (config.world.sessions.view pid) with
          | none =>
              rw [effectOf, answered]
              exact others
          | some row =>
              rw [effectOf, answered]
              have member := List.mem_of_find?_eq_some answered
              have matched := List.find?_some (p := fun row : Salon => row.id == id &&
                row.tenantId == call.tenantId) answered
              rw [Bool.and_eq_true, beq_iff_eq, beq_iff_eq] at matched
              exact List.forall_mem_cons.mpr ⟨apart row member matched.2, others⟩
      | salons tenantId =>
          obtain rfl : tenantId = call.tenantId := allowed
          intro other member
          rcases List.mem_append.mp member with new | old
          · obtain ⟨row, listed, rfl⟩ := List.mem_map.mp new
            obtain ⟨there, mine⟩ := List.mem_filter.mp listed
            exact apart row there (beq_iff_eq.mp mine)
          · exact others other old
      | _ => exact others
  | _ => exact others

/-- The uncommitted writes at the end of a transaction spare the salon. -/
theorem spares_release (undisturbed : Undisturbed business config) (pid actor : Pid) :
    ∀ write ∈ (config.world.sessions.release pid).writesOf actor, ¬write.Touches business.id := by
  intro write member
  by_cases mine : actor = pid
  · subst mine
    rw [Sessions.writesOf_release_self] at member
    cases member
  · rw [Sessions.writesOf_release_of_ne mine] at member
    exact undisturbed.spared actor write member

/-- The uncommitted writes after a statement spare the salon. -/
theorem spares (undisturbed : Undisturbed business config) {pid : Pid} {call : SalonCall}
    {stmt : AccountStmt} {found : List Nat} (allowed : salonMust call.tenantId found stmt)
    (others : ∀ id ∈ found, id ≠ business.id) (actor : Pid) :
    ∀ write ∈ (effectOf pid call stmt config.world).2.sessions.writesOf actor,
      ¬write.Touches business.id := by
  have stays := undisturbed.spared actor
  have adds : ∀ {write : AccountWrite}, ¬write.Touches business.id →
      ∀ other ∈ (config.world.sessions.add pid write).writesOf actor,
        ¬other.Touches business.id := by
    intro write spared other member
    by_cases mine : actor = pid
    · subst mine
      rw [Sessions.writesOf_add_self] at member
      rcases List.mem_append.mp member with old | new
      · exact stays other old
      · rw [List.mem_singleton.mp new]
        exact spared
    · rw [Sessions.writesOf_add_of_ne mine] at member
      exact stays other member
  have drops := undisturbed.spares_release pid actor
  cases stmt with
  | insert draft =>
      have spared : ¬(draft config.world.nextId).Touches business.id := by
        have own := allowed config.world.nextId
        cases write : draft config.world.nextId with
        | insertSalon row =>
            rw [write] at own
            intro same
            exact absurd (own.symm.trans same) (Nat.ne_of_gt undisturbed.early)
        | updateSalon id change =>
            rw [write] at own
            exact own.elim
        | _ => exact id
      simp only [effectOf]
      split
      · exact stays
      · exact adds spared
  | update write =>
      obtain ⟨id, known, change, rfl⟩ := allowed
      simp only [effectOf]
      split
      · exact stays
      · exact adds (others id known)
  | useResetTokens userId usedAt => exact adds id
  | commit => exact drops
  | rollback => exact drops
  | setNx jti ttl =>
      simp only [effectOf]
      split <;> exact stays
  | _ => exact stays

theorem effectOf_nextId {Call : Type} (pid : Pid) (call : Call) (stmt : AccountStmt)
    (world : AccountWorld Call) : world.nextId ≤ (effectOf pid call stmt world).2.nextId := by
  cases stmt with
  | insert draft =>
      simp only [effectOf]
      split <;> exact Nat.le_succ _
  | update write =>
      simp only [effectOf]
      split <;> exact le_refl _
  | setNx jti ttl =>
      simp only [effectOf]
      split <;> exact le_refl _
  | _ => exact le_refl _

theorem nextId_step (taken : Step salonMachine before action after) :
    before.world.nextId ≤ after.world.nextId := by
  cases taken with
  | @issue pid request stmt next log answer world running executed =>
      obtain ⟨-, effect⟩ := execAccount_some executed
      obtain rfl : (effectOf pid request stmt before.world).2 = world := congrArg Prod.snd effect
      exact effectOf_nextId ..
  | ambient changed =>
      obtain ⟨clock, -, rfl⟩ := changed
      exact le_refl _
  | _ => exact le_refl _

/-- The committed row of the salon stays. -/
theorem salons_effect (undisturbed : Undisturbed business config) {pid : Pid} {call : SalonCall}
    (stmt : AccountStmt) {row : Salon} (same : row.id = business.id) :
    row ∈ (effectOf pid call stmt config.world).2.db.salons ↔ row ∈ config.world.db.salons := by
  by_cases commits : stmt = .commit
  · subst commits
    refine mem_salons_applyAll ?_
    rintro ⟨write, among, touches⟩
    exact undisturbed.spared pid write among (same ▸ touches)
  · rw [db_effect commits]

theorem salons_step (undisturbed : Undisturbed business before)
    (taken : Step salonMachine before action after) {row : Salon} (same : row.id = business.id) :
    row ∈ after.world.db.salons ↔ row ∈ before.world.db.salons := by
  cases taken with
  | @issue pid request stmt next log answer world running executed =>
      obtain ⟨-, effect⟩ := execAccount_some executed
      obtain rfl : (effectOf pid request stmt before.world).2 = world := congrArg Prod.snd effect
      exact undisturbed.salons_effect stmt same
  | ambient changed =>
      obtain ⟨clock, -, rfl⟩ := changed
      exact Iff.rfl
  | _ => exact Iff.rfl

/-- **The requests of other tenants leave the row of the salon alone.** -/
theorem step (undisturbed : Undisturbed business before)
    (others : ByOthers business.tenantId action)
    (taken : Step salonMachine before action after) : Undisturbed business after where
  watched := undisturbed.watched.step taken perform_salon fun _ _ _ _ _ _ _ _ _ _ => trivial
  elsewhere := by
    refine undisturbed.elsewhere.step taken (fun _ _ => id) (fun pid call started => ?_)
      fun pid call stmt next log answer _ running executed known => ?_
    · subst started
      exact ⟨others, fun _ member => absurd member List.not_mem_nil⟩
    · have executed : execAccount pid call stmt before.world = some (answer, after.world) :=
      executed
      obtain ⟨-, effect⟩ := execAccount_some executed
      have learned := undisturbed.learns pid known.1 (undisturbed.issued running) known.2
      rw [effect] at learned
      rw [Watch.state_snoc]
      exact ⟨known.1, learned⟩
  spared := by
    have drops := undisturbed.spares_release
    cases taken with
    | @start pid request idle => exact drops pid
    | @issue pid request stmt next log answer world running executed =>
        obtain ⟨-, effect⟩ := execAccount_some executed
        obtain rfl : (effectOf pid request stmt before.world).2 = world := congrArg Prod.snd effect
        exact undisturbed.spares (undisturbed.issued running)
          (undisturbed.elsewhere.running pid _ running).2
    | @finish pid process result running ended => exact drops pid
    | @stop pid process running => exact drops pid
    | ambient changed =>
        obtain ⟨clock, -, rfl⟩ := changed
        exact undisturbed.spared
  there := (undisturbed.salons_step taken rfl).mpr undisturbed.there
  only row member same := undisturbed.only row ((undisturbed.salons_step taken same).mp member) same
  early := undisturbed.early.trans_le (nextId_step taken)

end Undisturbed

/-! ## Who answers -/

/-- Calls to the number reach the salon: the look-up returns it, whichever row the database
gives first, and the sessions that are started are sessions of the salon. -/
structure AnswersFor (db : AccountDb) (phone : String) (business : Salon) : Prop where
  lookUp : ∀ answer, GetBusinessByInboundPhone db phone answer ↔ answer = some business
  sessions : ∀ tenantId businessId, StartsSession db phone tenantId businessId →
    tenantId = business.tenantId ∧ businessId = business.id

/-- The commit of a request leaves a salon that it has made or changed active under the
number. -/
def Captures (phone : String) (config : SalonConfig) : Action SalonCall → Prop
  | .issue pid => ∃ request next log row,
      config.running pid = some ⟨request, .call .commit next, log⟩ ∧
      row ∈ (config.world.sessions.view pid).inbound phone ∧
      AccountWrite.TouchAny (config.world.sessions.writesOf pid) row.id
  | _ => False

section Answers

variable {db : AccountDb} {phone : String} {business : Salon} {before after : SalonConfig}
  {action : Action SalonCall}

/-- A salon answers when it is the only one that is active under its number. -/
theorem answersFor_iff : AnswersFor db phone business ↔
    phone.isEmpty = false ∧ business ∈ db.inbound phone ∧ ∀ row ∈ db.inbound phone,
      row = business := by
  constructor
  · intro answers
    obtain ⟨rings, listed⟩ := (answers.lookUp (some business)).mpr rfl
    exact ⟨rings, listed, fun row member =>
      Option.some.inj ((answers.lookUp (some row)).mp ⟨rings, member⟩)⟩
  · rintro ⟨rings, listed, only⟩
    refine ⟨fun answer => ?_, ?_⟩
    · cases answer with
      | some row =>
          constructor
          · exact fun found => congrArg some (only row found.2)
          · intro same
            cases same
            exact ⟨rings, listed⟩
      | none =>
          refine ⟨fun found => ?_, nofun⟩
          rcases found with silent | nobody
          · rw [rings] at silent
            cases silent
          · rw [nobody] at listed
            cases listed
    · rintro _ _ ⟨found⟩
      rw [only _ found.2]
      exact ⟨rfl, rfl⟩

theorem mem_inbound_iff {row : Salon} :
    row ∈ db.inbound phone ↔ row ∈ db.salons ∧ row.phone = some phone ∧ row.isActive = true := by
  rw [AccountDb.inbound, List.mem_filter, Bool.and_eq_true, beq_iff_eq]

/-- **A step keeps the line exactly if it does not capture it.** -/
theorem Undisturbed.answers_step (undisturbed : Undisturbed business before)
    (answers : AnswersFor before.world.db phone business)
    (taken : Step salonMachine before action after) :
    AnswersFor after.world.db phone business ↔ ¬Captures phone before action := by
  cases taken with
  | @issue pid request stmt next log answer world running executed =>
      obtain ⟨-, effect⟩ := execAccount_some executed
      obtain rfl : (effectOf pid request stmt before.world).2 = world := congrArg Prod.snd effect
      by_cases commits : stmt = .commit
      · subst commits
        obtain ⟨rings, listed, only⟩ := answersFor_iff.mp answers
        rw [answersFor_iff]
        constructor
        · rintro ⟨-, -, onlyNow⟩ ⟨_, _, _, row, -, member, write, among, touches⟩
          exact undisturbed.spared pid write among (onlyNow row member ▸ touches)
        · intro free
          have kept : business ∈ (effectOf pid request .commit before.world).2.db.salons ↔
              business ∈ before.world.db.salons := undisturbed.salons_effect .commit rfl
          refine ⟨rings, ?_, fun row member => ?_⟩
          · rw [mem_inbound_iff] at listed ⊢
            exact ⟨kept.mpr listed.1, listed.2⟩
          · by_cases touched : AccountWrite.TouchAny (before.world.sessions.writesOf pid) row.id
            · exact (free ⟨request, next, log, row, running, member, touched⟩).elim
            · rw [mem_inbound_iff] at member
              exact only row
                (mem_inbound_iff.mpr ⟨(mem_salons_applyAll touched).mp member.1, member.2⟩)
      · have same : (effectOf pid request stmt before.world).2.db = before.world.db :=
        db_effect commits
        refine iff_of_true (same ▸ answers) ?_
        rintro ⟨_, _, _, _, there, -⟩
        rw [running] at there
        cases there
        exact commits rfl
  | ambient changed =>
      obtain ⟨clock, -, rfl⟩ := changed
      exact iff_of_true answers id
  | _ => exact iff_of_true answers id

end Answers

/-- The salon is undisturbed, and has its line. -/
structure HoldsLine (phone : String) (business : Salon) (config : SalonConfig) : Prop where
  undisturbed : Undisturbed business config
  answers : AnswersFor config.world.db phone business

/-- **A salon keeps its line exactly as long as no other tenant takes its number**: whatever
the admins of other tenants request, calls reach the salon after every step if no commit
leaves another salon active under the number, and the first one that does ends it. -/
theorem phone_line_is_kept {db : AccountDb} {nextId clock : Nat} {phone : String} {business : Salon}
    {config : SalonConfig} (keys : db.SalonKeys nextId) (answers : AnswersFor db phone business)
    (runs : Runs salonMachine
      (fun config action => ByOthers business.tenantId action ∧ ¬Captures phone config action)
      (Config.initial (AccountWorld.start db nextId clock)) config) :
    AnswersFor config.world.db phone business ∧
      ∀ action after, ByOthers business.tenantId action → Step salonMachine config action after →
        (AnswersFor after.world.db phone business ↔ ¬Captures phone config action) := by
  have there : business ∈ db.salons := (mem_inbound_iff.mp (answersFor_iff.mp answers).2.1).1
  have kept : HoldsLine phone business config := by
    refine runs.invariant ⟨.start keys there clock, answers⟩ ?_
    rintro before action after ⟨undisturbed, answers⟩ ⟨others, free⟩ taken
    exact ⟨undisturbed.step others taken, (undisturbed.answers_step answers taken).mpr free⟩
  obtain ⟨undisturbed, answersNow⟩ := kept
  exact ⟨answersNow, fun action after _ taken => undisturbed.answers_step answersNow taken⟩

/-! ## Two salons and one number -/

/-- The salon of the first tenant. -/
def firstSalon : Salon :=
  { id := 1, tenantId := 1, name := "A", timezone := "UTC", phone := some "+48" }

def oneSalon : AccountDb := { AccountDb.empty with salons := [firstSalon] }

theorem oneSalon_keys : oneSalon.SalonKeys 2 where
  unique := by decide
  early := by decide

theorem oneSalon_answers : AnswersFor oneSalon "+48" firstSalon :=
  answersFor_iff.mpr ⟨by decide, by decide, by decide⟩

/-- The admin of the second tenant creates a salon with a phone number. -/
def opensSalon (phone : String) : List (Action SalonCall) :=
  [.start 0 (.createBusiness 2 { name := "B", timezone := "UTC", phone := some phone }), .issue 0,
    .issue 0, .issue 0, .finish 0]

instance (id : Nat) (write : AccountWrite) : Decidable (write.Touches id) :=
  match write with
  | .insertSalon row => inferInstanceAs (Decidable (row.id = id))
  | .updateSalon other _ => inferInstanceAs (Decidable (other = id))
  | .insertTenant _ | .insertUser _ | .updateUser _ _ | .deleteUser _ | .markResetTokens _ _
  | .insertStaff _ | .insertService _ | .insertWorkingHours _ | .insertAudit _ => .isFalse not_false

instance (writes : List AccountWrite) (id : Nat) : Decidable (AccountWrite.TouchAny writes id) :=
  inferInstanceAs (Decidable (∃ write ∈ writes, write.Touches id))

/-- No commit captures the number, and the requests are those of another tenant. -/
def looksFree (phone : String) (tenantId : Nat) (config : SalonConfig) : Action SalonCall → Bool
  | .start _ request => request.tenantId != tenantId
  | .issue pid =>
      match config.running pid with
      | some ⟨_, .call .commit _, _⟩ =>
          ((config.world.sessions.view pid).inbound phone).all fun row =>
            !decide (AccountWrite.TouchAny (config.world.sessions.writesOf pid) row.id)
      | _ => true
  | _ => true

theorem looksFree_sound {phone : String} {tenantId : Nat} (config : SalonConfig)
    (action : Action SalonCall) (looks : looksFree phone tenantId config action = true) :
    ByOthers tenantId action ∧ ¬Captures phone config action := by
  cases action with
  | start pid request => exact ⟨bne_iff_ne.mp looks, id⟩
  | issue pid =>
      refine ⟨trivial, ?_⟩
      rintro ⟨request, next, log, row, running, member, touched⟩
      rw [looksFree, running] at looks
      have untouched := List.all_eq_true.mp looks row member
      rw [decide_eq_true touched] at untouched
      cases untouched
  | _ => exact ⟨trivial, id⟩

theorem opensSalon_possible :
    ((Config.initial (AccountWorld.start oneSalon 2 0) : SalonConfig).runActions salonMachine
        (opensSalon "+49")).isSome = true ∧
      ((Config.initial (AccountWorld.start oneSalon 2 0) : SalonConfig).runActions salonMachine
        (opensSalon "+48")).isSome = true := by
  decide +kernel

/-- What has come of it when the second tenant takes the number of the first. -/
def capturedConfig : SalonConfig := Option.get _ opensSalon_possible.2

/-- The salon of the second tenant, when it has taken the number. -/
def secondSalon : Salon :=
  { id := 2, tenantId := 2, name := "B", timezone := "UTC", phone := some "+48" }

/-- With another number the line is kept. -/
theorem another_number_is_harmless : ∃ config,
    Runs salonMachine
        (fun config action => ByOthers firstSalon.tenantId action ∧ ¬Captures "+48" config action)
        (Config.initial (AccountWorld.start oneSalon 2 0)) config ∧
      config.world.db.salons.map (fun row => (row.tenantId, row.phone)) =
        [(1, some "+48"), (2, some "+49")] ∧
      AnswersFor config.world.db "+48" firstSalon := by
  have runs := Runs.of_guarded looksFree_sound (opensSalon "+49") (by decide +kernel :
    Config.passes salonMachine (looksFree "+48" firstSalon.tenantId) (opensSalon "+49") _ = true)
    (Option.some_get opensSalon_possible.1).symm
  exact ⟨_, runs, by decide +kernel, (phone_line_is_kept oneSalon_keys oneSalon_answers runs).1⟩

/-- With the number of the first salon, calls to it may start sessions of the second
tenant. -/
theorem line_is_captured : ∃ config,
    Runs salonMachine (fun _ action => ByOthers firstSalon.tenantId action)
        (Config.initial (AccountWorld.start oneSalon 2 0)) config ∧
      AnswersFor oneSalon "+48" firstSalon ∧ StartsSession config.world.db "+48" 2 2 ∧
      ¬AnswersFor config.world.db "+48" firstSalon := by
  have others : ∀ (config : SalonConfig) action, (match action with
      | .start _ request => request.tenantId != firstSalon.tenantId
      | _ => true) = true → ByOthers firstSalon.tenantId action := by
    intro config action looks
    cases action with
    | start pid request => exact bne_iff_ne.mp looks
    | _ => exact trivial
  have runs := Runs.of_guarded others (opensSalon "+48") (by decide +kernel)
    (Option.some_get opensSalon_possible.2).symm
  have session : StartsSession capturedConfig.world.db "+48" 2 2 := by
    have found : GetBusinessByInboundPhone capturedConfig.world.db "+48" (some secondSalon) :=
      ⟨by decide, by decide +kernel⟩
    exact .answered found
  refine ⟨capturedConfig, runs, oneSalon_answers, session, fun answers => ?_⟩
  exact absurd (answers.sessions 2 2 session).1 (by decide)

end AppointmentVoice.Accounts
