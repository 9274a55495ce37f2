import TutorApp.PartServices
import TutorApp.Shelves

set_option autoImplicit false

namespace TutorApp

open Relational
open TenantOwnership
open Unwinding

namespace Slot

variable {ρ κ : Type} [Keyed ρ κ] [DecidableEq κ] (slot : Slot ρ)

/-- The rows of one kind among those a school sees. -/
theorem seen_rows (db : Db) (schoolId : Id) :
    (tenants.seen db schoolId).filterMap slot.ofRow = (slot.get (db.restrict schoolId)).rows := by
  classical
  obtain ⟨left, right, listed, -, others⟩ := slot.listing_split db
  have none : ∀ rows : List Row, (∀ other ∈ rows, slot.ofRow other = none) →
      (rows.filter fun row => decide (tenants.Belongs db schoolId row)).filterMap slot.ofRow =
        [] := by
    intro rows foreign
    rw [List.filterMap_eq_nil_iff]
    intro other member
    exact foreign other (List.mem_filter.mp member).1
  have own : slot.ofRow ∘ slot.row = some := funext slot.ofRow_row
  have shown : tenants.seen db schoolId =
      (left ++ (slot.get db).rows.map slot.row ++ right).filter fun row =>
        decide (tenants.Belongs db schoolId row) := by
    rw [← listed]
    rfl
  rw [shown, List.filter_append, List.filter_append, List.filterMap_append, List.filterMap_append,
    none left fun other member => others other (List.mem_append_left _ member),
    none right fun other member => others other (List.mem_append_right _ member),
    List.nil_append, List.append_nil, List.filter_map, List.filterMap_map, own,
    List.filterMap_some, slot.get_restrict, Table.rows_restrict]
  apply List.filter_congr
  intro row _
  rw [Function.comp_apply, Bool.eq_iff_iff, decide_eq_true_iff, Db.belongsTo_iff]

end Slot

namespace Db

variable {db next : Db} {schoolId other : Id}

def notificationOf : Row → Option Notification
  | .notification row => some row
  | _ => none

theorem seen_notifications (db : Db) (schoolId : Id) :
    (tenants.seen db schoolId).filterMap notificationOf =
      (db.restrict schoolId).notifications := by
  classical
  let tablesOnly : Db := { db with notifications := [] }
  have listed : db.listing = tablesOnly.listing ++ db.notifications.map Row.notification := by
    simp [tablesOnly, listing, tables]
  have none : (tablesOnly.listing.filter fun row =>
      decide (tenants.Belongs db schoolId row)).filterMap notificationOf = [] := by
    rw [List.filterMap_eq_nil_iff]
    intro row member
    have holds := (mem_listing _ _).mp (List.mem_filter.mp member).1
    cases row <;> first | rfl | cases holds
  have own : notificationOf ∘ Row.notification = some := rfl
  have shown : tenants.seen db schoolId =
      (tablesOnly.listing ++ db.notifications.map Row.notification).filter fun row =>
        decide (tenants.Belongs db schoolId row) := by
    rw [← listed]
    rfl
  rw [shown, List.filter_append, List.filterMap_append, none, List.nil_append, List.filter_map,
    List.filterMap_map, own, List.filterMap_some]
  apply List.filter_congr
  intro row _
  rw [Function.comp_apply, Bool.eq_iff_iff, decide_eq_true_iff, belongsTo_iff]

/-- A change within another school leaves the part of this one as it is, row for row. -/
theorem restrict_apart (confined : Confined other db next) (foreign : schoolId ≠ other) :
    next.restrict schoolId = db.restrict schoolId := by
  have same := confined.apart schoolId foreign
  have tables : ∀ {ρ κ : Type} [Keyed ρ κ] [DecidableEq κ] (slot : Slot ρ),
      slot.get (next.restrict schoolId) = slot.get (db.restrict schoolId) := by
    intro ρ κ _ _ slot
    apply Table.ext
    rw [← slot.seen_rows, ← slot.seen_rows, same]
  apply Db.ext
  case schools => exact tables Slot.schools
  case users => exact tables Slot.users
  case subjects => exact tables Slot.subjects
  case students => exact tables Slot.students
  case groups => exact tables Slot.groups
  case members => exact tables Slot.members
  case lessons => exact tables Slot.lessons
  case attendances => exact tables Slot.attendances
  case notes => exact tables Slot.notes
  case grades => exact tables Slot.grades
  case files => exact tables Slot.files
  case invitations => exact tables Slot.invitations
  case addons => exact tables Slot.addons
  case meetingAccounts => exact tables Slot.meetingAccounts
  case notifications => rw [← seen_notifications, ← seen_notifications, same]

end Db

namespace World

/-- What a school has of a state: its rows, and the bytes its files point to. -/
def part (world : World) (schoolId : Id) : World where
  db := world.db.restrict schoolId
  disk name :=
    if (world.db.restrict schoolId).files.rows.any (·.storageKey == name) then world.disk name
    else none

variable {left right : World} {schoolId : Id}

theorem part_eq (db : left.db.restrict schoolId = right.db.restrict schoolId)
    (disk : ∀ row ∈ (left.db.restrict schoolId).files.rows,
      left.disk row.storageKey = right.disk row.storageKey) :
    left.part schoolId = right.part schoolId := by
  simp only [part, World.mk.injEq]
  refine ⟨db, ?_⟩
  funext name
  rw [← db]
  split
  · rename_i pointed
    obtain ⟨row, listed, named⟩ := List.any_eq_true.mp pointed
    rw [← beq_iff_eq.mp named]
    exact disk row listed
  · rfl

theorem part_shows {world : World} (nothing : world.disk pendingKey = none) :
    (world.part schoolId).Shows schoolId world := by
  refine ⟨rfl, ?_, fun row listed => ?_⟩
  · simp only [part, nothing, ite_self]
  · have pointed : (world.db.restrict schoolId).files.rows.any
        (fun other => other.storageKey == row.storageKey) = true :=
      List.any_eq_true.mpr ⟨row, listed, beq_self_eq_true _⟩
    exact if_pos pointed

/-- What a state shows of two others, these have in common. -/
theorem Shows.part_eq {shown : World} (first : shown.Shows schoolId left)
    (second : shown.Shows schoolId right) : left.part schoolId = right.part schoolId := by
  refine World.part_eq (first.db.symm.trans second.db) fun row listed => ?_
  rw [← first.db] at listed
  exact (first.disk.named row listed).symm.trans (second.disk.named row listed)

end World

section

variable {platform : Platform} {user : User} {outside : Outside} {draw : Draw} {db : Db}
  {world : World} {schoolId : Id}

/-- A connection is stored in the school of the user the state names, or not at all. -/
theorem MeetingAccountsService.completeConnection_within {endpoints : Endpoints}
    {provider : MeetingProvider} {code state : String} (tenanted : db.Tenanted) :
    (completeConnection platform draw endpoints provider code state db).db = db ∨
      ∃ userId schoolId, stateUser platform draw.now provider state = .ok userId ∧
        db.schoolOfUser userId = some schoolId ∧ Db.Confined schoolId db
          (completeConnection platform draw endpoints provider code state db).db := by
  unfold completeConnection
  dsimp only
  split
  · exact .inl rfl
  · rename_i userId uri prepared
    split
    · exact .inl rfl
    · split
      · exact .inl rfl
      · split
        · exact .inl rfl
        · rename_i stored
          simp only [bind_ok, pure_ok, Prod.mk.injEq] at stored prepared
          obtain ⟨_, -, _, named, _, -, rfl, rfl⟩ := prepared
          obtain ⟨row, made, upserted⟩ := stored
          simp only [connectionRow, bind_ok, pure_ok] at made
          obtain ⟨_, -, _, -, _, -, rfl⟩ := made
          obtain ⟨_, known, -⟩ := bind_ok.mp upserted
          obtain ⟨owner, found⟩ := Option.isSome_iff_exists.mp (require_ok.mp known)
          have home := Db.home_of_find Slot.users (.user _) rfl found
          exact .inr ⟨_, owner.schoolId, named, home,
            Db.upsertMeetingAccount_confined tenanted home upserted⟩

/-- Whoever joins joins the school their link is of. -/
theorem InvitationsService.accept_within {token name : String} {account : User} {next : Db}
    (tenanted : db.Tenanted) (success : accept draw token name db = .ok (account, next)) :
    ∃ schoolId, linkSchool token db = some schoolId ∧ Db.Confined schoolId db next := by
  obtain ⟨invitation, usable, -, _, created, -, rfl⟩ := accept_ok.mp success
  have claimed : Db.Confined invitation.schoolId db (db.claimInvitation invitation.id draw.now).2 :=
    Db.claimInvitation_confined tenanted (findUsable_found usable)
  have joined := Db.createUser_confined (claimed.sound tenanted) created
  refine ⟨invitation.schoolId, ?_, claimed.trans (joined.trans
    (NotificationsService.tutorJoined_confined (joined.sound (claimed.sound tenanted))))⟩
  simp only [findUsable, orNotFound_ok, Option.filter_eq_some_iff] at usable
  rw [linkSchool, usable.1, Option.map_some]

theorem MeetingAccountsService.parse_same {provider checked : MeetingProvider}
    (parsed : parse provider = .ok checked) : provider = checked := by
  unfold parse at parsed
  split at parsed
  · exact Except.ok.inj parsed
  · cases parsed

/-- The school a request is about: its sender's, the one a link or a state leads to, or the one
it registers. -/
def Request.school (platform : Platform) (outside : Outside) (db : Db) : Request → Option Id
  | .query userId _ => db.schoolOfUser userId
  | .command userId _ => db.schoolOfUser userId
  | .anonymous (.registerSchool _) => some outside.draw.id
  | .anonymous (.describeInvitation token) => InvitationsService.linkSchool token db
  | .anonymous (.acceptInvitation token _) => InvitationsService.linkSchool token db
  | .anonymous (.completeConnection provider _ state) =>
      (MeetingAccountsService.stateUser platform outside.draw.now provider state).toOption.bind
        db.schoolOfUser

/-- A request about another school leaves this one's rows as they are. -/
theorem Request.serve_apart (tenanted : world.db.Tenanted) {request : Request}
    (foreign : request.school platform outside world.db ≠ some schoolId) :
    (request.serve platform outside world).world.db.restrict schoolId =
      world.db.restrict schoolId := by
  cases request with
  | query userId asked =>
      simp only [serve]
      split <;> rfl
  | command userId asked =>
      cases found : world.db.users.find userId with
      | none => simp only [serve, found]
      | some user =>
          simp only [school, Db.schoolOfUser, found, Option.map_some, ne_eq, Option.some.injEq]
            at foreign
          exact Db.restrict_apart (serve_confined tenanted found (.inr ⟨asked, rfl⟩))
            (Ne.symm foreign)
  | anonymous call =>
      cases call with
      | registerSchool dto =>
          simp only [school, ne_eq, Option.some.injEq] at foreign
          refine World.commit_keeps (fun next => next.restrict schoolId = world.db.restrict schoolId)
            rfl fun _ _ registered => ?_
          exact Db.restrict_apart (SchoolsService.register_confined tenanted registered)
            (Ne.symm foreign)
      | describeInvitation token => rfl
      | acceptInvitation token name =>
          refine World.commit_keeps (fun next => next.restrict schoolId = world.db.restrict schoolId)
            rfl fun _ _ accepted => ?_
          obtain ⟨other, link, confined⟩ := InvitationsService.accept_within tenanted accepted
          refine Db.restrict_apart confined ?_
          rintro rfl
          exact foreign link
      | completeConnection provider code state =>
          simp only [serve, PublicCall.run]
          split
          · rfl
          · rename_i checked parsed
            obtain rfl : provider = checked := MeetingAccountsService.parse_same parsed
            rcases MeetingAccountsService.completeConnection_within tenanted with same | ⟨userId,
              other, named, home, confined⟩
            · exact congrArg (Db.restrict · schoolId) same
            · refine Db.restrict_apart confined ?_
              rintro rfl
              refine foreign ?_
              simp only [school, named, Except.toOption, Option.bind_some, home]

/-- The name a request stores bytes under. -/
def Request.storesAt (outside : Outside) (db : Db) : Request → Option String
  | .command userId asked => (db.schoolOfUser userId).bind (asked.storesAt outside.draw)
  | _ => none

theorem Request.storesAt_ne_pending {db : Db} {name : String} {request : Request}
    (stores : request.storesAt outside db = some name) : name ≠ pendingKey := by
  cases request with
  | query userId asked => cases stores
  | anonymous call => cases stores
  | command userId asked =>
      obtain ⟨home, -, drawn⟩ := Option.bind_eq_some_iff.mp stores
      exact Command.storesAt_ne_pending drawn

/-- A request leaves the stored bytes, stores some under a name it draws, or removes those of a file
of the school it is about. -/
theorem Request.serve_disk (platform : Platform) (outside : Outside) (world : World)
    (request : Request) :
    let after := (request.serve platform outside world).world.disk
    after = world.disk ∨
      (∃ name contents, request.storesAt outside world.db = some name ∧
        after = world.disk.put name contents) ∨
      ∃ file ∈ world.db.files.rows,
        request.school platform outside world.db = some file.schoolId ∧
          after = world.disk.remove file.storageKey := by
  cases request with
  | query userId asked =>
      left
      simp only [serve]
      split <;> rfl
  | anonymous call => exact .inl call.run_disk
  | command userId asked =>
      cases found : world.db.users.find userId with
      | none =>
          left
          simp only [serve, found]
      | some user =>
          simp only [serve, school, storesAt, Db.schoolOfUser, found, Option.map_some,
            Option.bind_some]
          rcases asked.run_disk platform user outside world with
            same | ⟨name, contents, stores, put⟩ | ⟨file, listed, own, gone⟩
          · exact .inl same
          · exact .inr (.inl ⟨name, contents, stores, put⟩)
          · exact .inr (.inr ⟨file, listed, congrArg some own.symm, gone⟩)

/-- Nothing is ever stored where an unfinished file points. -/
theorem Reachable.nothing_pending (reachable : Reachable platform world) :
    world.disk pendingKey = none := by
  induction reachable with
  | refl => rfl
  | @tail before after _ step ih =>
      obtain ⟨outside, request, rfl⟩ := step
      rcases request.serve_disk platform outside before with
        same | ⟨name, contents, stores, put⟩ | ⟨file, -, -, gone⟩
      · rw [same, ih]
      · rw [put, Disk.put, Function.update_of_ne (Request.storesAt_ne_pending stores).symm, ih]
      · rw [gone, Disk.remove]
        by_cases hit : pendingKey = file.storageKey
        · rw [← hit, Function.update_self]
        · rw [Function.update_of_ne hit, ih]

/-- The values a command draws or names that no row of another school may have: fresh ids, an
address, the key of an upload, and the mark or note it is about. -/
def Command.marks (platform : Platform) (draw : Draw) (schoolId : Id) : Command → List Mark
  | createSubject _ | createStudent _ | createGroup _ | createLesson _ | addGradeForStudent _ _
  | addGradeForLesson _ _ | addNoteForStudent _ _ | addNoteForLesson _ _ => [.id draw.id]
  | createTutor dto =>
      [.id draw.id, .email (SchoolsService.normalizeEmail platform dto.email)]
  | invite email =>
      [.id draw.id, .token draw.random, .email (SchoolsService.normalizeEmail platform email)]
  | uploadForStudent _ _ | uploadToLibrary _ | uploadForLesson _ _ =>
      [.id draw.id, .storageKey pendingKey, .storageKey (keyFor schoolId draw.id)]
  | updateGrade id _ | removeGrade id | removeNote id => [.id id]
  | _ => []

def Request.marks (platform : Platform) (outside : Outside) (schoolId : Id) (db : Db) :
    Request → List Mark
  | .query _ _ => []
  | .command _ asked => asked.marks platform outside.draw schoolId
  | .anonymous (.registerSchool dto) =>
      [.id outside.draw.id, .id outside.draw.secondId,
        .email (SchoolsService.normalizeEmail platform dto.adminEmail),
        .slug (dto.slug.getD (SchoolsService.slugify platform outside.draw dto.schoolName))]
  | .anonymous (.describeInvitation _) => []
  | .anonymous (.acceptInvitation token _) =>
      .id outside.draw.id :: ((db.invitations.rows.find? fun row => row.token == token).map
        fun row => Mark.email row.email).toList
  | .anonymous (.completeConnection _ _ _) => [.id outside.draw.id]

/-- No row of another school stands in the way of a request about this one. -/
def Request.Unhindered (platform : Platform) (outside : Outside) (schoolId : Id) (db : Db)
    (request : Request) : Prop :=
  ∀ mark ∈ request.marks platform outside schoolId db, db.Unclaimed schoolId mark

/-- A request about another school does not store over the bytes of a file of this one. -/
def Request.Spares (outside : Outside) (schoolId : Id) (db : Db) (request : Request) : Prop :=
  ∀ row ∈ (db.restrict schoolId).files.rows, request.storesAt outside db ≠ some row.storageKey

/-- A request about another school leaves this one's rows and their bytes as they are. -/
theorem Request.serve_part_apart (reachable : Reachable platform world) {request : Request}
    (foreign : request.school platform outside world.db ≠ some schoolId)
    (spares : request.Spares outside schoolId world.db) :
    (request.serve platform outside world).world.part schoolId = world.part schoolId := by
  have rows : (request.serve platform outside world).world.db.restrict schoolId =
      world.db.restrict schoolId := Request.serve_apart reachable.tenanted foreign
  refine World.part_eq rows fun row listed => ?_
  rw [rows] at listed
  obtain ⟨present, own⟩ := Table.mem_restrict.mp listed
  have school : row.schoolId = schoolId :=
    (Db.home_school.mp (Db.belongs_file.mp (Db.belongsTo_iff.mp own)).1).1
  rcases request.serve_disk platform outside world with
    same | ⟨name, contents, stores, put⟩ | ⟨file, there, about, gone⟩
  · rw [same]
  · have elsewhere : row.storageKey ≠ name := by
      rintro rfl
      exact spares row listed stores
    rw [put, Disk.put, Function.update_of_ne elsewhere]
  · have elsewhere : row.storageKey ≠ file.storageKey := by
      intro same
      rw [reachable.shelved.apart row present file there same] at school
      exact foreign (about.trans (congrArg some school))
    rw [gone, Disk.remove, Function.update_of_ne elsewhere]

/-- A call on the school's part ends as the call on the whole, in the school's part of the rows. -/
structure Outcome.Mirrors (schoolId : Id) (onPart onWhole : Outcome) : Prop where
  result : onPart.result = onWhole.result
  db : onPart.world.db = onWhole.world.db.restrict schoolId
  calls : onPart.calls = onWhole.calls

/-- And it leaves the bytes that the part's files point to. -/
structure Outcome.Follows (schoolId : Id) (onPart onWhole : Outcome) : Prop where
  result : onPart.result = onWhole.result
  world : onPart.world.Shows schoolId onWhole.world
  calls : onPart.calls = onWhole.calls

/-- A call that leaves all bytes and brings no row of a file. -/
theorem Outcome.Mirrors.follows {part : World} {onPart onWhole : Outcome}
    (mirrors : Outcome.Mirrors schoolId onPart onWhole) (shows : part.Shows schoolId world)
    (kept : onPart.world.disk = part.disk ∧
      ∀ row ∈ onPart.world.db.files.rows, row ∈ part.db.files.rows)
    (left : onWhole.world.disk = world.disk) : Outcome.Follows schoolId onPart onWhole := by
  refine ⟨mirrors.result, ⟨mirrors.db, ?_⟩, mirrors.calls⟩
  rw [kept.1, left]
  exact shows.disk.grow fun row member => .inl (kept.2 row member)

theorem World.commit_mirrors {α : Type} {part : World} {answer : α → Response}
    {onPart onWhole : Service (α × Db)} (same : part.db = world.db.restrict schoolId)
    (answers : Db.Answers schoolId onPart onWhole) :
    (part.commit answer onPart).Mirrors schoolId (world.commit answer onWhole) := by
  rw [answers]
  cases onWhole with
  | error reason => exact ⟨rfl, same, rfl⟩
  | ok value => exact ⟨rfl, rfl, rfl⟩

theorem World.commitUnit_mirrors {part : World} {onPart onWhole : Service Db}
    (same : part.db = world.db.restrict schoolId) (mirrors : Db.Mirrors schoolId onPart onWhole) :
    (part.commitUnit onPart).Mirrors schoolId (world.commitUnit onWhole) := by
  rw [mirrors]
  cases onWhole with
  | error reason => exact ⟨rfl, same, rfl⟩
  | ok value => exact ⟨rfl, rfl, rfl⟩

theorem World.conclude_mirrors {α : Type} {part : World} {answer : α → Response}
    {onPart onWhole : Attempt α} (same : onPart = onWhole.restrict schoolId) :
    (part.conclude answer onPart).Mirrors schoolId (world.conclude answer onWhole) := by
  subst same
  exact ⟨rfl, rfl, rfl⟩

theorem storedOutcome_follows {α : Type} {answer : α → Response}
    {onPart onWhole : Service α × World}
    (same : onPart.1 = onWhole.1 ∧ onPart.2.Shows schoolId onWhole.2) :
    (storedOutcome answer onPart).Follows schoolId (storedOutcome answer onWhole) :=
  ⟨congrArg (Except.map answer) same.1, same.2, rfl⟩

/-- What reaches the stored bytes, on the school's part of the rows and of the bytes. -/
theorem Command.run_stored {command : Command} {disk : Disk} (tenanted : world.db.Tenanted)
    (caller : world.db.Caller user)
    (agrees : Disk.Agrees (world.db.restrict user.schoolId).files disk world.disk)
    (unclaimed : ∀ mark ∈ command.marks platform outside.draw user.schoolId,
      world.db.Unclaimed user.schoolId mark) (stores : command.stores = true) :
    (command.run platform user outside ⟨world.db.restrict user.schoolId, disk⟩).Follows
      user.schoolId (command.run platform user outside world) := by
  cases command with
  | uploadForStudent studentId incoming =>
      exact storedOutcome_follows (FilesService.upload_part tenanted caller agrees
        (FilesService.studentTarget_restrict tenanted) (fun _ => FilesService.studentTarget_of)
        (unclaimed _ (by simp [marks])) (unclaimed _ (by simp [marks]))
        (unclaimed _ (by simp [marks])))
  | uploadToLibrary incoming =>
      exact storedOutcome_follows (FilesService.upload_part tenanted caller agrees rfl
        (fun _ => FilesService.libraryTarget_of) (unclaimed _ (by simp [marks]))
        (unclaimed _ (by simp [marks])) (unclaimed _ (by simp [marks])))
  | uploadForLesson lessonId incoming =>
      exact storedOutcome_follows (FilesService.upload_part tenanted caller agrees
        (FilesService.lessonTarget_restrict tenanted) (fun _ => FilesService.lessonTarget_of)
        (unclaimed _ (by simp [marks])) (unclaimed _ (by simp [marks]))
        (unclaimed _ (by simp [marks])))
  | removeFile id => exact storedOutcome_follows (FilesService.remove_part tenanted agrees)
  | _ => cases stores

/-- What does not reach the stored bytes. -/
theorem Command.run_mirrors {command : Command} {disk : Disk} (tenanted : world.db.Tenanted)
    (caller : world.db.Caller user)
    (agrees : Disk.Agrees (world.db.restrict user.schoolId).files disk world.disk)
    (unclaimed : ∀ mark ∈ command.marks platform outside.draw user.schoolId,
      world.db.Unclaimed user.schoolId mark) (aside : command.stores = false) :
    (command.run platform user outside ⟨world.db.restrict user.schoolId, disk⟩).Mirrors
      user.schoolId (command.run platform user outside world) := by
  cases command with
  | createSubject name =>
      exact World.commit_mirrors rfl
        (SubjectsService.create_answers tenanted (unclaimed _ List.mem_cons_self))
  | renameSubject id name => exact World.commit_mirrors rfl (SubjectsService.rename_answers tenanted)
  | hideSubject id => exact World.commit_mirrors rfl (SubjectsService.hide_answers tenanted)
  | restoreSubject id => exact World.commit_mirrors rfl (SubjectsService.restore_answers tenanted)
  | createStudent dto =>
      exact World.commit_mirrors rfl
        (StudentsService.create_answers tenanted caller (unclaimed _ List.mem_cons_self))
  | updateStudent id dto => exact World.commit_mirrors rfl (StudentsService.update_answers tenanted)
  | removeStudent id => exact World.commitUnit_mirrors rfl (StudentsService.remove_mirrors tenanted)
  | createGroup dto =>
      exact World.commit_mirrors rfl
        (GroupsService.create_answers tenanted caller (unclaimed _ List.mem_cons_self))
  | updateGroup id dto => exact World.commit_mirrors rfl (GroupsService.update_answers tenanted)
  | removeGroup id => exact World.commitUnit_mirrors rfl (GroupsService.remove_mirrors tenanted)
  | addMember groupId studentId =>
      exact World.commit_mirrors rfl (GroupsService.addMember_answers tenanted)
  | removeMember groupId studentId =>
      exact World.commit_mirrors rfl (GroupsService.removeMember_answers tenanted)
  | createLesson dto =>
      exact World.conclude_mirrors
        (LessonsService.create_part tenanted caller (unclaimed _ List.mem_cons_self))
  | updateLessonStatus id status =>
      exact World.commit_mirrors rfl (LessonsService.updateStatus_answers tenanted)
  | writeJournal lessonId dto =>
      exact World.commit_mirrors rfl (GradebookService.writeJournal_answers tenanted)
  | addGradeForStudent studentId dto =>
      exact World.commit_mirrors rfl
        (GradebookService.addForStudent_answers tenanted caller (unclaimed _ List.mem_cons_self))
  | addGradeForLesson lessonId dto =>
      exact World.commit_mirrors rfl
        (GradebookService.addForLesson_answers tenanted caller (unclaimed _ List.mem_cons_self))
  | updateGrade id dto =>
      exact World.commit_mirrors rfl
        (GradebookService.update_answers tenanted (unclaimed _ List.mem_cons_self))
  | removeGrade id =>
      exact World.commitUnit_mirrors rfl
        (GradebookService.remove_mirrors tenanted (unclaimed _ List.mem_cons_self))
  | addNoteForStudent studentId text =>
      exact World.commit_mirrors rfl
        (NotesService.addForStudent_answers tenanted caller (unclaimed _ List.mem_cons_self))
  | addNoteForLesson lessonId text =>
      exact World.commit_mirrors rfl
        (NotesService.addForLesson_answers tenanted caller (unclaimed _ List.mem_cons_self))
  | removeNote id =>
      exact World.commitUnit_mirrors rfl
        (NotesService.remove_mirrors tenanted (unclaimed _ List.mem_cons_self))
  | openFile id =>
      refine ⟨congrArg (Except.map _) ?_, rfl, rfl⟩
      exact FilesService.open_part tenanted agrees
  | uploadForStudent studentId incoming => cases aside
  | uploadToLibrary incoming => cases aside
  | uploadForLesson lessonId incoming => cases aside
  | removeFile id => cases aside
  | setAddons userId addons =>
      exact World.commit_mirrors rfl (AddonsService.setFor_answers tenanted caller)
  | updateSchool dto => exact World.commit_mirrors rfl (SchoolsService.update_answers tenanted)
  | createTutor dto =>
      exact World.commit_mirrors rfl (SchoolsService.createTutor_answers tenanted
        (unclaimed _ (by simp [marks])) (unclaimed _ (by simp [marks])))
  | invite email =>
      exact World.commit_mirrors rfl (InvitationsService.invite_answers tenanted caller
        (unclaimed _ (by simp [marks])) (unclaimed _ (by simp [marks]))
        (unclaimed _ (by simp [marks])))
  | revokeInvitation id =>
      exact World.commitUnit_mirrors rfl (InvitationsService.revoke_mirrors tenanted)
  | updateConfig input =>
      exact World.commit_mirrors rfl (UsersService.updateConfig_answers tenanted caller)
  | disconnect provider =>
      exact World.commitUnit_mirrors rfl (Follows.read rfl fun _ _ =>
        MeetingAccountsService.disconnect_mirrors tenanted caller)

/-- What a member of the school does, on the school's part. -/
theorem Command.run_follows {command : Command} {part : World} (tenanted : world.db.Tenanted)
    (caller : world.db.Caller user) (shows : part.Shows user.schoolId world)
    (unclaimed : ∀ mark ∈ command.marks platform outside.draw user.schoolId,
      world.db.Unclaimed user.schoolId mark) :
    (command.run platform user outside part).Follows user.schoolId
      (command.run platform user outside world) := by
  obtain ⟨db, disk⟩ := part
  obtain ⟨rfl, agrees⟩ := shows
  cases kind : command.stores with
  | true => exact run_stored tenanted caller agrees unclaimed kind
  | false =>
      have mirrors := @run_mirrors platform user outside world command disk tenanted caller agrees
        unclaimed kind
      exact mirrors.follows ⟨rfl, agrees⟩ (run_aside kind) (run_aside kind).1

/-- What somebody who is not signed in does about the school. -/
theorem PublicCall.run_mirrors {call : PublicCall} {disk : Disk} (tenanted : world.db.Tenanted)
    (own : (Request.anonymous call).school platform outside world.db = some schoolId)
    (unclaimed : (Request.anonymous call).Unhindered platform outside schoolId world.db) :
    (call.run platform outside ⟨world.db.restrict schoolId, disk⟩).Mirrors schoolId
      (call.run platform outside world) := by
  cases call with
  | registerSchool dto =>
      cases Option.some.inj own
      exact World.commit_mirrors rfl (SchoolsService.register_answers tenanted
        (unclaimed _ (by simp [Request.marks])) (unclaimed _ (by simp [Request.marks]))
        (unclaimed _ (by simp [Request.marks])) (unclaimed _ (by simp [Request.marks])))
  | describeInvitation token =>
      exact ⟨congrArg (Except.map Response.description)
        (InvitationsService.describe_restrict tenanted own), rfl, rfl⟩
  | acceptInvitation token name =>
      refine World.commit_mirrors rfl (InvitationsService.accept_answers tenanted own
        (unclaimed _ List.mem_cons_self) fun invitation usable => unclaimed _ ?_)
      simp only [InvitationsService.findUsable, orNotFound_ok, Option.filter_eq_some_iff] at usable
      simp [Request.marks, usable.1]
  | completeConnection provider code state =>
      simp only [run]
      cases parsed : MeetingAccountsService.parse provider with
      | error reason => exact ⟨rfl, rfl, rfl⟩
      | ok checked =>
          obtain rfl : provider = checked := MeetingAccountsService.parse_same parsed
          refine World.conclude_mirrors (MeetingAccountsService.completeConnection_part tenanted
            (fun userId named => ?_) (unclaimed _ List.mem_cons_self))
          simp only [Request.school, named, Except.toOption, Option.bind_some] at own
          exact own

/-- A request about the school, on the school's part. -/
theorem Request.serve_follows {request : Request} {part : World} (tenanted : world.db.Tenanted)
    (shows : part.Shows schoolId world)
    (own : request.school platform outside world.db = some schoolId)
    (unclaimed : request.Unhindered platform outside schoolId world.db) :
    (request.serve platform outside part).Follows schoolId
      (request.serve platform outside world) := by
  obtain ⟨db, disk⟩ := part
  obtain ⟨rfl, agrees⟩ := shows
  cases request with
  | query userId asked =>
      obtain ⟨user, found, rfl⟩ := Option.map_eq_some_iff.mp own
      obtain rfl : user.id = userId := (Table.find_eq_some.mp found).2
      have part : (world.db.restrict user.schoolId).users.find user.id = some user :=
        Db.Caller.restrict tenanted found
      simp only [serve, found, part]
      exact ⟨Query.read_restrict tenanted found, ⟨rfl, agrees⟩, rfl⟩
  | command userId asked =>
      obtain ⟨user, found, rfl⟩ := Option.map_eq_some_iff.mp own
      obtain rfl : user.id = userId := (Table.find_eq_some.mp found).2
      have part : (world.db.restrict user.schoolId).users.find user.id = some user :=
        Db.Caller.restrict tenanted found
      simp only [serve, found, part]
      exact asked.run_follows tenanted found ⟨rfl, agrees⟩ unclaimed
  | anonymous call =>
      have mirrors := @PublicCall.run_mirrors platform outside world schoolId call disk tenanted own
        unclaimed
      exact mirrors.follows ⟨rfl, agrees⟩
        ⟨call.run_disk, fun row member => call.run_files ▸ member⟩ call.run_disk

instance (db : Db) (schoolId : Id) (mark : Mark) : Decidable (db.Unclaimed schoolId mark) :=
  decidable_of_iff (∀ row ∈ db.listing, mark ∈ row.marks → db.belongsTo schoolId row = true) <|
    forall_congr' fun row => by rw [Db.mem_listing, Db.belongsTo_iff]

instance (platform : Platform) (outside : Outside) (schoolId : Id) (db : Db) (request : Request) :
    Decidable (request.Unhindered platform outside schoolId db) :=
  inferInstanceAs (Decidable (∀ mark ∈ request.marks platform outside schoolId db, _))

instance (outside : Outside) (schoolId : Id) (db : Db) (request : Request) :
    Decidable (request.Spares outside schoolId db) :=
  inferInstanceAs (Decidable (∀ row ∈ (db.restrict schoolId).files.rows, _))

/-- The service, one request after the other; an answer is what the caller is told and what the
providers are asked. -/
def service (platform : Platform) :
    Machine World (Outside × Request) (Service Response × List ProviderCall) where
  answer world asked :=
    let outcome := asked.2.serve platform asked.1 world
    (outcome.result, outcome.calls)
  next world asked := (asked.2.serve platform asked.1 world).world

/-- The requests about one school. -/
def Concerns (platform : Platform) (schoolId : Id) (world : World) (asked : Outside × Request) :
    Prop :=
  asked.2.school platform asked.1 world.db = some schoolId

instance (platform : Platform) (schoolId : Id) (world : World) (asked : Outside × Request) :
    Decidable (Concerns platform schoolId world asked) :=
  inferInstanceAs (Decidable (_ = _))

/-- Requests about this school are not hindered by rows of others, and requests about others store
nothing over its files. -/
def Unentangled (platform : Platform) (schoolId : Id) (world : World) (asked : Outside × Request) :
    Prop :=
  if Concerns platform schoolId world asked then
    asked.2.Unhindered platform asked.1 schoolId world.db
  else asked.2.Spares asked.1 schoolId world.db

instance (platform : Platform) (schoolId : Id) (world : World) (asked : Outside × Request) :
    Decidable (Unentangled platform schoolId world asked) :=
  inferInstanceAs (Decidable (ite _ _ _))

/-- Requests about other schools change nothing a school sees, and the school's own see nothing
of the others. -/
theorem service_unwinds : (service platform).Unwinds (Concerns platform schoolId)
    (Unentangled platform schoolId) (Reachable platform) fun world => world.part schoolId where
  kept world asked reachable := reachable.tail ⟨asked.1, asked.2, rfl⟩
  apart world asked reachable apart foreign := by
    rw [Unentangled, if_neg foreign] at apart
    exact Request.serve_part_apart reachable foreign apart
  consistent world other asked reachable arrived alike own its free clear := by
    rw [Unentangled, if_pos own] at free
    rw [Unentangled, if_pos its] at clear
    have left := Request.serve_follows reachable.tenanted
      (World.part_shows reachable.nothing_pending) own free
    have right := Request.serve_follows arrived.tenanted
      (World.part_shows arrived.nothing_pending) its clear
    rw [← alike] at right
    refine ⟨Prod.ext (left.result.symm.trans right.result) (left.calls.symm.trans right.calls), ?_⟩
    exact left.world.part_eq right.world

/-- Two serial runs from reachable states that agree on what a school has: the requests about the
school are the same in both, those about other schools are whatever they are. The school is
answered the same, its downloads included, its providers are asked the same, and it ends with the
same rows and the same bytes. -/
theorem schools_do_not_interfere {world other : World} (reachable : Reachable platform world)
    (arrived : Reachable platform other) (alike : world.part schoolId = other.part schoolId)
    {left right : List (Outside × Request)}
    (free : (service platform).Within (Unentangled platform schoolId) left world)
    (clear : (service platform).Within (Unentangled platform schoolId) right other)
    (same : ((service platform).heard (Concerns platform schoolId) left world).map Prod.fst =
      ((service platform).heard (Concerns platform schoolId) right other).map Prod.fst) :
    (service platform).heard (Concerns platform schoolId) left world =
        (service platform).heard (Concerns platform schoolId) right other ∧
      ((service platform).run left world).part schoolId =
        ((service platform).run right other).part schoolId :=
  service_unwinds.noninterference reachable arrived alike free clear same

/-- A text for a library. -/
def keepText (admin id text : String) : Outside × Request :=
  (.quiet id, .command admin (.uploadToLibrary ⟨"notes.txt", "text/plain", text.length, ascii text⟩))

/-- The fox school enrols Kim, keeps a text and opens it again, with and without the owl school's
business in between. -/
theorem fox_is_undisturbed :
    let opens := (Outside.quiet "", Request.command "a1" (.openFile "f1"))
    let list := (Outside.quiet "", Request.query "a1" .listStudents)
    let quiet := [foxSchool, enrol "a1" "k1" "Kim", keepText "a1" "f1" "fox", opens, list]
    let busy := [owlSchool, foxSchool, enrol "a2" "k2" "Lee", enrol "a1" "k1" "Kim",
      keepText "a1" "f1" "fox", keepText "a2" "f2" "owl", opens,
      (Outside.quiet "", Request.command "a2" (.removeFile "f2")),
      (Outside.quiet "", Request.command "a2" (.removeStudent "k2")), list]
    (service .plain).heard (Concerns .plain "s1") busy World.empty =
        (service .plain).heard (Concerns .plain "s1") quiet World.empty ∧
      ((service .plain).run busy World.empty).part "s1" =
        ((service .plain).run quiet World.empty).part "s1" := by
  intro opens list quiet busy
  exact schools_do_not_interfere .refl .refl rfl (by decide +kernel) (by decide +kernel) rfl

end

end TutorApp
