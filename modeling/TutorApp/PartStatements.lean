import TutorApp.SchoolPart

set_option autoImplicit false

namespace TutorApp

open Relational
open TenantOwnership
open Unwinding

attribute [ext] Db

theorem require_follows {α β : Type} {part : α → β} {onPart onWhole : Bool} {reason : HttpError}
    {nextPart : Service β} {nextWhole : Service α} (same : onPart = onWhole)
    (rest : onWhole = true → Follows part nextPart nextWhole) :
    Follows part (require onPart reason >>= fun _ => nextPart)
      (require onWhole reason >>= fun _ => nextWhole) := by
  subst same
  cases passes : onPart with
  | false => exact Follows.error reason
  | true => exact rest passes

namespace Db

variable {db next : Db} {schoolId id : Id}

/-- A statement does to the school's part of the rows what it does to all of them. -/
abbrev Mirrors (schoolId : Id) (onPart onWhole : Service Db) : Prop :=
  Follows (fun db : Db => db.restrict schoolId) onPart onWhole

theorem Unclaimed.row {mark : Mark} (unclaimed : db.Unclaimed schoolId mark) (row : Row)
    (present : db.Holds row) (bears : mark ∈ row.marks) : db.belongsTo schoolId row = true :=
  belongsTo_iff.mpr (unclaimed row present bears)

theorem hasSchool_restrict (tenanted : db.Tenanted) :
    (db.restrict schoolId).hasSchool schoolId = db.hasSchool schoolId := by
  refine congrArg Option.isSome (Slot.schools.find_part fun row found => ?_)
  obtain ⟨present, same⟩ := Table.find_eq_some.mp found
  obtain rfl : row.id = schoolId := same
  exact Tenanted.belongs_own tenanted (.school row) present List.mem_cons_self

theorem hasUser_restrict (tenanted : db.Tenanted) (home : db.home (.user id) = some schoolId) :
    (db.restrict schoolId).hasUser id = db.hasUser id :=
  congrArg Option.isSome (find_user_restrict tenanted home)

theorem hasStudent_restrict (tenanted : db.Tenanted)
    (home : db.home (.student id) = some schoolId) :
    (db.restrict schoolId).hasStudent id = db.hasStudent id :=
  congrArg Option.isSome (find_student_restrict tenanted home)

theorem hasGroup_restrict (tenanted : db.Tenanted) (home : db.home (.group id) = some schoolId) :
    (db.restrict schoolId).hasGroup id = db.hasGroup id :=
  congrArg Option.isSome (find_group_restrict tenanted home)

theorem hasLesson_restrict (tenanted : db.Tenanted) (home : db.home (.lesson id) = some schoolId) :
    (db.restrict schoolId).hasLesson id = db.hasLesson id :=
  congrArg Option.isSome (find_lesson_restrict tenanted home)

/-- A reference that may be missing is checked on the part as on the whole. -/
theorem all_optional {has have_ : Id → Bool} {reference : Option Id}
    (same : ∀ id ∈ reference, has id = have_ id) : reference.all has = reference.all have_ := by
  cases reference with
  | none => rfl
  | some id => exact same id rfl

theorem subjects_restrict {subjectId : Option Id} (tenanted : db.Tenanted)
    (homes : ∀ id ∈ subjectId, db.home (.subject id) = some schoolId) :
    subjectId.all (db.restrict schoolId).hasSubject = subjectId.all db.hasSubject :=
  all_optional fun id named =>
    congrArg Option.isSome (find_subject_restrict tenanted (homes id named))

theorem students_restrict {studentId : Option Id} (tenanted : db.Tenanted)
    (homes : ∀ id ∈ studentId, db.home (.student id) = some schoolId) :
    studentId.all (db.restrict schoolId).hasStudent = studentId.all db.hasStudent :=
  all_optional fun id named => hasStudent_restrict tenanted (homes id named)

theorem groups_restrict {groupId : Option Id} (tenanted : db.Tenanted)
    (homes : ∀ id ∈ groupId, db.home (.group id) = some schoolId) :
    groupId.all (db.restrict schoolId).hasGroup = groupId.all db.hasGroup :=
  all_optional fun id named => hasGroup_restrict tenanted (homes id named)

theorem lessons_restrict {lessonId : Option Id} (tenanted : db.Tenanted)
    (homes : ∀ id ∈ lessonId, db.home (.lesson id) = some schoolId) :
    lessonId.all (db.restrict schoolId).hasLesson = lessonId.all db.hasLesson :=
  all_optional fun id named => hasLesson_restrict tenanted (homes id named)

/-- The school a row of its own column names is the school itself. -/
theorem own_school {owner : Id} (home : db.home (.school owner) = some schoolId) :
    owner = schoolId :=
  (home_school.mp home).1

theorem createSchool_mirrors {row : School} (tenanted : db.Tenanted) (own : row.id = schoolId)
    (id : db.Unclaimed schoolId (.id row.id)) (slug : db.Unclaimed schoolId (.slug row.slug)) :
    Mirrors schoolId ((db.restrict schoolId).createSchool row) (db.createSchool row) := by
  subst own
  refine require_follows (Table.all_restrict fun other member clash => ?_) fun free => ?_
  · exact slug.row (.school other) member
      (by simp [Row.marks, show other.slug = row.slug by simpa using clash])
  · refine Slot.schools.create_follows (fun other member same => ?_) fun schools inserted => ?_
    · exact id (.school other) member (by simp [Row.marks, show other.id = row.id from same])
    · refine createSchool_confined tenanted (createSchool_ok.mpr ⟨?_, schools, inserted, rfl⟩)
      simpa using free

theorem updateSchool_mirrors {name timezone : Option String} (tenanted : db.Tenanted) :
    Mirrors schoolId ((db.restrict schoolId).updateSchool schoolId name timezone)
      (db.updateSchool schoolId name timezone) := by
  refine Slot.schools.update_follows (fun row found => ?_) fun schools updated =>
    updateSchool_confined tenanted (updateSchool_ok.mpr ⟨schools, updated, rfl⟩)
  obtain ⟨present, same⟩ := Table.find_eq_some.mp found
  obtain rfl : row.id = schoolId := same
  exact Tenanted.belongs_own tenanted (.school row) present List.mem_cons_self

theorem createUser_mirrors {row : User} (tenanted : db.Tenanted) (own : row.schoolId = schoolId)
    (id : db.Unclaimed schoolId (.id row.id)) (email : db.Unclaimed schoolId (.email row.email)) :
    Mirrors schoolId ((db.restrict schoolId).createUser row) (db.createUser row) := by
  subst own
  refine require_follows (hasSchool_restrict tenanted) fun school => ?_
  refine require_follows (Table.all_restrict fun other member clash => ?_) fun free => ?_
  · exact email.row (.user other) member
      (by simp [Row.marks, show other.email = row.email by simpa using clash])
  · refine Slot.users.create_follows (fun other member same => ?_) fun users inserted => ?_
    · exact id (.user other) member (by simp [Row.marks, show other.id = row.id from same])
    · refine createUser_confined tenanted (createUser_ok.mpr ⟨school, ?_, users, inserted, rfl⟩)
      simpa using free

/-- The row under an id that leads into the school. -/
theorem found_belongs {ρ : Type} [Keyed ρ Id] (slot : Slot ρ) {ref : Ref} (tenanted : db.Tenanted)
    (asked : slot.refKey ref = some id) (home : db.home ref = some schoolId)
    (self : ∀ row, Ref.school (slot.column row) ∈ (slot.row row).refs) :
    ∀ row ∈ (slot.get db).find id, db.Belongs schoolId (slot.row row) := by
  intro row found
  obtain ⟨member, same⟩ := Table.find_eq_some.mp found
  exact owned_of_home slot tenanted asked home (self row) member (decide_eq_true same)

theorem updateUserConfig_mirrors {config : Js.Json} (tenanted : db.Tenanted)
    (home : db.home (.user id) = some schoolId) :
    Mirrors schoolId ((db.restrict schoolId).updateUserConfig id config)
      (db.updateUserConfig id config) :=
  Slot.users.update_follows
    (found_belongs Slot.users tenanted rfl home fun _ => List.mem_cons_self) fun users updated =>
      updateUserConfig_confined tenanted home (updateUserConfig_ok.mpr ⟨users, updated, rfl⟩)

/-- A subject of a school is the school's. -/
theorem subject_belongs (tenanted : db.Tenanted) {row : Subject} (member : row ∈ db.subjects.rows)
    (own : row.schoolId = schoolId) : db.belongsTo schoolId (.subject row) = true := by
  subst own
  exact belongsTo_iff.mpr (Tenanted.belongs_own tenanted (.subject row) member List.mem_cons_self)

theorem createSubject_mirrors {row : Subject} (tenanted : db.Tenanted)
    (own : row.schoolId = schoolId) (id : db.Unclaimed schoolId (.id row.id)) :
    Mirrors schoolId ((db.restrict schoolId).createSubject row) (db.createSubject row) := by
  subst own
  refine require_follows (hasSchool_restrict tenanted) fun school => ?_
  refine require_follows (Table.all_restrict fun other member clash => ?_) fun free => ?_
  · refine subject_belongs tenanted member ?_
    simp only [Bool.not_eq_false', Bool.and_eq_true, beq_iff_eq] at clash
    exact clash.1
  · refine Slot.subjects.create_follows (fun other member same => ?_) fun subjects inserted => ?_
    · exact id (.subject other) member (by simp [Row.marks, show other.id = row.id from same])
    · exact createSubject_confined tenanted
        (createSubject_ok.mpr ⟨school, free, subjects, inserted, rfl⟩)

theorem renameSubject_mirrors {name : String} (tenanted : db.Tenanted)
    (home : db.home (.subject id) = some schoolId) :
    Mirrors schoolId ((db.restrict schoolId).renameSubject id name) (db.renameSubject id name) := by
  have mine := found_belongs Slot.subjects tenanted rfl home fun _ => List.mem_cons_self
  unfold renameSubject
  dsimp only
  rw [find_subject_restrict tenanted home]
  cases found : db.subjects.find id with
  | none =>
      refine require_follows rfl fun _ => ?_
      refine Slot.subjects.update_follows mine fun subjects updated => ?_
      exact renameSubject_confined tenanted home
        (renameSubject_ok.mpr ⟨by simp [found], subjects, updated, rfl⟩)
  | some row =>
      have own : row.schoolId = schoolId :=
        own_school (belongs_subject.mp (mine row found))
      refine require_follows (congrArg (!·) (Table.any_restrict fun other member clash => ?_))
        fun free => ?_
      · refine subject_belongs tenanted member ?_
        simp only [Bool.and_eq_true, beq_iff_eq] at clash
        exact clash.1.2.trans own
      · refine Slot.subjects.update_follows mine fun subjects updated => ?_
        refine renameSubject_confined tenanted home (renameSubject_ok.mpr ⟨?_, subjects, updated, rfl⟩)
        rintro other again
        rw [found] at again
        cases again
        simpa using free

theorem hideSubject_mirrors {hiddenAt : Option Js.Instant} (tenanted : db.Tenanted)
    (home : db.home (.subject id) = some schoolId) :
    Mirrors schoolId ((db.restrict schoolId).hideSubject id hiddenAt)
      (db.hideSubject id hiddenAt) :=
  Slot.subjects.update_follows
    (found_belongs Slot.subjects tenanted rfl home fun _ => List.mem_cons_self)
    fun subjects updated =>
      hideSubject_confined tenanted home (hideSubject_ok.mpr ⟨subjects, updated, rfl⟩)

theorem createStudent_mirrors {row : Student} (tenanted : db.Tenanted)
    (belongs : db.Belongs schoolId (.student row)) (id : db.Unclaimed schoolId (.id row.id)) :
    Mirrors schoolId ((db.restrict schoolId).createStudent row) (db.createStudent row) := by
  obtain ⟨school, tutor, subject⟩ := belongs_student.mp belongs
  have refers : (db.restrict schoolId).refersStudent row = db.refersStudent row := by
    rw [refersStudent, refersStudent, own_school school, hasSchool_restrict tenanted,
      hasUser_restrict tenanted tutor, subjects_restrict tenanted subject]
  refine require_follows refers fun refers => require_follows rfl fun fits => ?_
  refine Slot.students.create_follows (fun other member same => ?_) fun students inserted => ?_
  · exact id (.student other) member (by simp [Row.marks, show other.id = row.id from same])
  · exact createStudent_confined tenanted belongs
      (createStudent_ok.mpr ⟨refers, fits, students, inserted, rfl⟩)

theorem updateStudent_mirrors {patch : StudentPatch} (tenanted : db.Tenanted)
    (home : db.home (.student id) = some schoolId)
    (subjects : ∀ subject ∈ patch.subjectId, ∀ id ∈ subject,
      db.home (.subject id) = some schoolId) :
    Mirrors schoolId ((db.restrict schoolId).updateStudent id patch) (db.updateStudent id patch) := by
  have known : (patch.subjectId.all fun subject => subject.all (db.restrict schoolId).hasSubject) =
      patch.subjectId.all fun subject => subject.all db.hasSubject := by
    cases sets : patch.subjectId with
    | none => rfl
    | some subject => exact subjects_restrict tenanted (subjects subject sets)
  refine require_follows rfl fun fits => require_follows known fun refers => ?_
  exact Slot.students.update_follows
    (found_belongs Slot.students tenanted rfl home fun _ => List.mem_cons_self)
    fun students updated => updateStudent_confined tenanted home subjects
      (updateStudent_ok.mpr ⟨fits, refers, students, updated, rfl⟩)

theorem addLessons_mirrors {amount : Int} (tenanted : db.Tenanted)
    (home : db.home (.student id) = some schoolId) :
    Mirrors schoolId ((db.restrict schoolId).addLessons id amount) (db.addLessons id amount) := by
  unfold addLessons
  rw [find_student_restrict tenanted home]
  refine require_follows rfl fun fits => ?_
  refine require_follows (hasStudent_restrict tenanted home) fun known => ?_
  have confined := addLessons_confined tenanted home (addLessons_ok.mpr ⟨fits, known, rfl⟩)
  exact congrArg Except.ok (Slot.students.set_update_part confined).symm

theorem createGroup_mirrors {row : Group} (tenanted : db.Tenanted)
    (belongs : db.Belongs schoolId (.group row)) (id : db.Unclaimed schoolId (.id row.id)) :
    Mirrors schoolId ((db.restrict schoolId).createGroup row) (db.createGroup row) := by
  obtain ⟨school, tutor, subject⟩ := belongs_group.mp belongs
  have refers : (db.restrict schoolId).refersGroup row = db.refersGroup row := by
    rw [refersGroup, refersGroup, own_school school, hasSchool_restrict tenanted,
      hasUser_restrict tenanted tutor, subjects_restrict tenanted subject]
  refine require_follows refers fun refers => ?_
  refine Slot.groups.create_follows (fun other member same => ?_) fun groups inserted => ?_
  · exact id (.group other) member (by simp [Row.marks, show other.id = row.id from same])
  · exact createGroup_confined tenanted belongs (createGroup_ok.mpr ⟨refers, groups, inserted, rfl⟩)

theorem updateGroup_mirrors {patch : GroupPatch} (tenanted : db.Tenanted)
    (home : db.home (.group id) = some schoolId)
    (subjects : ∀ subject ∈ patch.subjectId, ∀ id ∈ subject,
      db.home (.subject id) = some schoolId) :
    Mirrors schoolId ((db.restrict schoolId).updateGroup id patch) (db.updateGroup id patch) := by
  have known : (patch.subjectId.all fun subject => subject.all (db.restrict schoolId).hasSubject) =
      patch.subjectId.all fun subject => subject.all db.hasSubject := by
    cases sets : patch.subjectId with
    | none => rfl
    | some subject => exact subjects_restrict tenanted (subjects subject sets)
  refine require_follows known fun refers => ?_
  exact Slot.groups.update_follows
    (found_belongs Slot.groups tenanted rfl home fun _ => List.mem_cons_self)
    fun groups updated => updateGroup_confined tenanted home subjects
      (updateGroup_ok.mpr ⟨refers, groups, updated, rfl⟩)

/-- What a key of the part holds already, it holds in the whole. -/
theorem insert_part_none {ρ κ : Type} [Keyed ρ κ] [DecidableEq κ] (slot : Slot ρ) {row : ρ}
    (taken : (slot.get db).insert? row = none)
    (mine : ∀ other ∈ (slot.get db).find (key row), db.Belongs schoolId (slot.row other)) :
    (slot.get (db.restrict schoolId)).insert? row = none := by
  rw [Table.insert?_eq_none] at taken ⊢
  rwa [slot.find_part mine]

/-- A membership in a group of the school is the school's. -/
theorem member_belongs {groupId studentId : Id} (tenanted : db.Tenanted)
    (home : db.home (.group groupId) = some schoolId) :
    ∀ row ∈ db.members.find (groupId, studentId), db.Belongs schoolId (.member row) := by
  intro row found
  obtain ⟨present, same⟩ := Table.find_eq_some.mp found
  have named : row.groupId = groupId := congrArg Prod.fst same
  exact Tenanted.belongs_via tenanted (.member row) present List.mem_cons_self (named ▸ home)

theorem upsertMember_mirrors {row : GroupMember} (tenanted : db.Tenanted)
    (belongs : db.Belongs schoolId (.member row)) :
    Mirrors schoolId ((db.restrict schoolId).upsertMember row) (db.upsertMember row) := by
  obtain ⟨group, student⟩ := belongs_member.mp belongs
  have refers : ((db.restrict schoolId).hasGroup row.groupId &&
      (db.restrict schoolId).hasStudent row.studentId) =
      (db.hasGroup row.groupId && db.hasStudent row.studentId) := by
    rw [hasGroup_restrict tenanted group, hasStudent_restrict tenanted student]
  refine require_follows refers fun known => ?_
  cases inserted : db.members.insert? row with
  | some members =>
      have confined := upsertMember_confined tenanted belongs
        (upsertMember_ok.mpr ⟨known, .inl ⟨members, inserted, rfl⟩⟩)
      have part := Slot.members.insert_part confined inserted
      have same := Slot.members.set_part confined
      simp only [show (db.restrict schoolId).members.insert? row = _ from part]
      exact congrArg Except.ok same.symm
  | none =>
      have taken := insert_part_none Slot.members inserted (member_belongs tenanted group)
      simp only [show (db.restrict schoolId).members.insert? row = none from taken]
      exact Follows.ok db

theorem deleteMember_part {groupId studentId : Id} (tenanted : db.Tenanted)
    (home : db.home (.group groupId) = some schoolId) :
    (db.deleteMember groupId studentId).restrict schoolId =
      (db.restrict schoolId).deleteMember groupId studentId := by
  have confined : Confined schoolId db (db.deleteMember groupId studentId) :=
    deleteMember_confined tenanted home
  exact Slot.members.set_delete_part confined

theorem createLesson_mirrors {row : Lesson} (tenanted : db.Tenanted)
    (belongs : db.Belongs schoolId (.lesson row)) (id : db.Unclaimed schoolId (.id row.id)) :
    Mirrors schoolId ((db.restrict schoolId).createLesson row) (db.createLesson row) := by
  obtain ⟨school, tutor, subject, student, group⟩ := belongs_lesson.mp belongs
  have refers : ((db.restrict schoolId).refersLesson row && row.meetingUrl.all textColumn) =
      (db.refersLesson row && row.meetingUrl.all textColumn) := by
    rw [refersLesson, refersLesson, own_school school, hasSchool_restrict tenanted,
      hasUser_restrict tenanted tutor, subjects_restrict tenanted subject,
      students_restrict tenanted student, groups_restrict tenanted group]
  refine require_follows refers fun refers => ?_
  refine Slot.lessons.create_follows (fun other member same => ?_) fun lessons inserted => ?_
  · exact id (.lesson other) member (by simp [Row.marks, show other.id = row.id from same])
  · exact createLesson_confined tenanted belongs
      (createLesson_ok.mpr ⟨refers, lessons, inserted, rfl⟩)

theorem updateLesson_mirrors {patch : LessonPatch} (tenanted : db.Tenanted)
    (home : db.home (.lesson id) = some schoolId) :
    Mirrors schoolId ((db.restrict schoolId).updateLesson id patch) (db.updateLesson id patch) :=
  Slot.lessons.update_follows
    (found_belongs Slot.lessons tenanted rfl home fun _ => List.mem_cons_self)
    fun lessons updated =>
      updateLesson_confined tenanted home (updateLesson_ok.mpr ⟨lessons, updated, rfl⟩)

/-- A mark for a lesson of the school is the school's. -/
theorem mark_belongs {lessonId studentId : Id} (tenanted : db.Tenanted)
    (lesson : db.home (.lesson lessonId) = some schoolId) :
    ∀ row ∈ db.attendances.find (lessonId, studentId), db.Belongs schoolId (.attendance row) := by
  intro row found
  obtain ⟨present, same⟩ := Table.find_eq_some.mp found
  have named : row.lessonId = lessonId := congrArg Prod.fst same
  exact Tenanted.belongs_via tenanted (.attendance row) present List.mem_cons_self (named ▸ lesson)

theorem upsertAttendance_mirrors {lessonId studentId : Id} {status : AttendanceStatus}
    {homeworkDone : Option (Option Bool)} (tenanted : db.Tenanted)
    (lesson : db.home (.lesson lessonId) = some schoolId)
    (student : db.home (.student studentId) = some schoolId) :
    Mirrors schoolId
      ((db.restrict schoolId).upsertAttendance lessonId studentId status homeworkDone)
      (db.upsertAttendance lessonId studentId status homeworkDone) := by
  have refers : ((db.restrict schoolId).hasLesson lessonId &&
      (db.restrict schoolId).hasStudent studentId) =
      (db.hasLesson lessonId && db.hasStudent studentId) := by
    rw [hasLesson_restrict tenanted lesson, hasStudent_restrict tenanted student]
  refine require_follows refers fun known => ?_
  have confined : Confined schoolId db (db.putAttendance lessonId studentId status homeworkDone) :=
    upsertAttendance_confined tenanted lesson student (upsertAttendance_ok.mpr ⟨known, rfl⟩)
  have part := Slot.attendances.set_part confined
  refine congrArg Except.ok (Eq.trans ?_ part.symm)
  refine congrArg (Slot.attendances.set (db.restrict schoolId)) ?_
  cases inserted : db.attendances.insert?
      ⟨lessonId, studentId, status, homeworkDone.getD none⟩ with
  | some attendances =>
      have stored : (db.putAttendance lessonId studentId status homeworkDone).attendances =
          attendances := by
        simp only [putAttendance, Table.upsert, inserted]
      have into := Slot.attendances.insert_part confined
        (inserted.trans (congrArg some stored.symm))
      simp only [Table.upsert, show (db.restrict schoolId).attendances.insert? _ = _ from into]
      rfl
  | none =>
      have taken := insert_part_none Slot.attendances inserted
        (mark_belongs tenanted lesson)
      have stored : (db.putAttendance lessonId studentId status homeworkDone).attendances =
          db.attendances.update (fun other => decide (key other = (lessonId, studentId)))
            (fun row => { row with status, homeworkDone := homeworkDone.getD row.homeworkDone })
            (fun _ => rfl) := by
        simp only [putAttendance, Table.upsert, inserted]
        rfl
      simp only [Table.upsert, show (db.restrict schoolId).attendances.insert? _ = none from taken]
      exact (Slot.attendances.update_part confined stored fun _ _ _ => rfl).symm

theorem createNote_mirrors {row : Note} (tenanted : db.Tenanted)
    (belongs : db.Belongs schoolId (.note row)) (id : db.Unclaimed schoolId (.id row.id)) :
    Mirrors schoolId ((db.restrict schoolId).createNote row) (db.createNote row) := by
  obtain ⟨author, student, lesson, -⟩ := belongs_note.mp belongs
  have refers : (db.restrict schoolId).refersNote row = db.refersNote row := by
    rw [refersNote, refersNote, hasUser_restrict tenanted author,
      students_restrict tenanted student, lessons_restrict tenanted lesson]
  refine require_follows refers fun refers => ?_
  refine Slot.notes.create_follows (fun other member same => ?_) fun notes inserted => ?_
  · exact id (.note other) member (by simp [Row.marks, show other.id = row.id from same])
  · exact createNote_confined tenanted belongs (createNote_ok.mpr ⟨refers, notes, inserted, rfl⟩)

theorem deleteNote_mirrors (owned : ∀ row ∈ db.notes.find id, db.Belongs schoolId (.note row)) :
    Mirrors schoolId ((db.restrict schoolId).deleteNote id) (db.deleteNote id) :=
  Slot.notes.delete_follows owned fun notes deleted =>
    deleteNote_confined owned (deleteNote_ok.mpr ⟨notes, deleted, rfl⟩)

theorem createGrade_mirrors {row : Grade} (tenanted : db.Tenanted)
    (belongs : db.Belongs schoolId (.grade row)) (id : db.Unclaimed schoolId (.id row.id)) :
    Mirrors schoolId ((db.restrict schoolId).createGrade row) (db.createGrade row) := by
  obtain ⟨student, author, lesson⟩ := belongs_grade.mp belongs
  have refers : (db.restrict schoolId).refersGrade row = db.refersGrade row := by
    rw [refersGrade, refersGrade, hasStudent_restrict tenanted student,
      lessons_restrict tenanted lesson, hasUser_restrict tenanted author]
  refine require_follows refers fun refers => ?_
  refine Slot.grades.create_follows (fun other member same => ?_) fun grades inserted => ?_
  · exact id (.grade other) member (by simp [Row.marks, show other.id = row.id from same])
  · exact createGrade_confined tenanted belongs (createGrade_ok.mpr ⟨refers, grades, inserted, rfl⟩)

theorem updateGrade_mirrors {data : GradeData}
    (owned : ∀ row ∈ db.grades.find id, db.Belongs schoolId (.grade row)) :
    Mirrors schoolId ((db.restrict schoolId).updateGrade id data) (db.updateGrade id data) :=
  Slot.grades.update_follows owned fun grades updated =>
    updateGrade_confined owned (updateGrade_ok.mpr ⟨grades, updated, rfl⟩)

theorem deleteGrade_mirrors (owned : ∀ row ∈ db.grades.find id, db.Belongs schoolId (.grade row)) :
    Mirrors schoolId ((db.restrict schoolId).deleteGrade id) (db.deleteGrade id) :=
  Slot.grades.delete_follows owned fun grades deleted =>
    deleteGrade_confined owned (deleteGrade_ok.mpr ⟨grades, deleted, rfl⟩)

theorem createFile_mirrors {row : File} (tenanted : db.Tenanted)
    (belongs : db.Belongs schoolId (.file row)) (id : db.Unclaimed schoolId (.id row.id))
    (storageKey : db.Unclaimed schoolId (.storageKey row.storageKey)) :
    Mirrors schoolId ((db.restrict schoolId).createFile row) (db.createFile row) := by
  obtain ⟨school, uploader, student, lesson⟩ := belongs_file.mp belongs
  have refers : (db.restrict schoolId).refersFile row = db.refersFile row := by
    rw [refersFile, refersFile, own_school school, hasSchool_restrict tenanted,
      hasUser_restrict tenanted uploader, students_restrict tenanted student,
      lessons_restrict tenanted lesson]
  refine require_follows refers fun refers => require_follows rfl fun fits => ?_
  refine require_follows (Table.all_restrict fun other member clash => ?_) fun free => ?_
  · exact storageKey.row (.file other) member
      (by simp [Row.marks, show other.storageKey = row.storageKey by simpa using clash])
  · refine Slot.files.create_follows (fun other member same => ?_) fun files inserted => ?_
    · exact id (.file other) member (by simp [Row.marks, show other.id = row.id from same])
    · refine createFile_confined tenanted belongs
        (createFile_ok.mpr ⟨refers, fits, ?_, files, inserted, rfl⟩)
      simpa using free

theorem finaliseFile_mirrors {storageKey : String} {uploadedAt : Js.Instant}
    (owned : ∀ row ∈ db.files.find id, db.Belongs schoolId (.file row))
    (unclaimed : db.Unclaimed schoolId (.storageKey storageKey)) :
    Mirrors schoolId ((db.restrict schoolId).finaliseFile id storageKey uploadedAt)
      (db.finaliseFile id storageKey uploadedAt) := by
  refine require_follows (Table.all_restrict fun other member clash => ?_) fun free => ?_
  · simp only [Bool.or_eq_false_iff, bne_eq_false_iff_eq] at clash
    exact unclaimed.row (.file other) member (by simp [Row.marks, clash.2])
  · exact Slot.files.update_follows owned fun files updated =>
      finaliseFile_confined owned (finaliseFile_ok.mpr ⟨free, files, updated, rfl⟩)

theorem deleteFile_mirrors (owned : ∀ row ∈ db.files.find id, db.Belongs schoolId (.file row)) :
    Mirrors schoolId ((db.restrict schoolId).deleteFile id) (db.deleteFile id) :=
  Slot.files.delete_follows owned fun files deleted =>
    deleteFile_confined owned (deleteFile_ok.mpr ⟨files, deleted, rfl⟩)

theorem invitation_belongs (tenanted : db.Tenanted) {row : Invitation}
    (member : row ∈ db.invitations.rows) (own : row.schoolId = schoolId) :
    db.belongsTo schoolId (.invitation row) = true := by
  subst own
  exact belongsTo_iff.mpr
    (Tenanted.belongs_own tenanted (.invitation row) member List.mem_cons_self)

theorem upsertInvitation_mirrors {row : Invitation} (tenanted : db.Tenanted)
    (own : row.schoolId = schoolId) (inviter : db.home (.user row.invitedById) = some schoolId)
    (id : db.Unclaimed schoolId (.id row.id)) (token : db.Unclaimed schoolId (.token row.token)) :
    Mirrors schoolId ((db.restrict schoolId).upsertInvitation row) (db.upsertInvitation row) := by
  subst own
  have refers : ((db.restrict row.schoolId).hasSchool row.schoolId &&
      (db.restrict row.schoolId).hasUser row.invitedById) =
      (db.hasSchool row.schoolId && db.hasUser row.invitedById) := by
    rw [hasSchool_restrict tenanted, hasUser_restrict tenanted inviter]
  have renewed : ((db.restrict row.schoolId).invitations.rows.any fun other =>
      other.schoolId == row.schoolId && other.email == row.email) =
      db.invitations.rows.any fun other =>
        other.schoolId == row.schoolId && other.email == row.email := by
    refine Table.any_restrict fun other member same => ?_
    simp only [Bool.and_eq_true, beq_iff_eq] at same
    exact invitation_belongs tenanted member same.1
  refine require_follows refers fun known => ?_
  refine require_follows (Table.all_restrict fun other member clash => ?_) fun free => ?_
  · simp only [Bool.or_eq_false_iff, bne_eq_false_iff_eq] at clash
    exact token.row (.invitation other) member (by simp [Row.marks, clash.2])
  · rw [renewed]
    split
    · rename_i already
      have confined := upsertInvitation_confined tenanted inviter
        (upsertInvitation_ok.mpr ⟨known, free, by rw [if_pos already]⟩)
      exact congrArg Except.ok (Slot.invitations.set_update_part confined).symm
    · rename_i new
      refine Slot.invitations.create_follows (fun other member same => ?_)
        fun invitations inserted => ?_
      · exact id (.invitation other) member (by simp [Row.marks, show other.id = row.id from same])
      · refine upsertInvitation_confined tenanted inviter
          (upsertInvitation_ok.mpr ⟨known, free, ?_⟩)
        rw [if_neg new]
        exact ⟨invitations, inserted, rfl⟩

theorem claimInvitation_part {now : Js.Instant} (tenanted : db.Tenanted) {row : Invitation}
    (found : db.invitations.find id = some row) (own : row.schoolId = schoolId) :
    (db.restrict schoolId).claimInvitation id now =
      ((db.claimInvitation id now).1, (db.claimInvitation id now).2.restrict schoolId) := by
  subst own
  have mine : ∀ other ∈ db.invitations.rows, other.id = id → other.schoolId = row.schoolId := by
    intro other member same
    obtain ⟨present, itself⟩ := Table.find_eq_some.mp found
    rw [Table.key_injective member present (same.trans itself.symm)]
  have open_ : (db.restrict row.schoolId).invitations.select
      (fun other => other.id == id && other.acceptedAt.isNone) = db.invitations.select _ :=
    Table.select_restrict fun other member selected => by
      simp only [Bool.and_eq_true, beq_iff_eq] at selected
      exact invitation_belongs tenanted member (mine other member selected.1)
  refine Prod.ext (congrArg List.length open_) ?_
  exact (Slot.invitations.set_update_part (claimInvitation_confined tenanted found)).symm

theorem deleteInvitations_part (tenanted : db.Tenanted) :
    (db.restrict schoolId).deleteInvitations id schoolId =
      ((db.deleteInvitations id schoolId).1,
        (db.deleteInvitations id schoolId).2.restrict schoolId) := by
  have own : (db.restrict schoolId).invitations.select
      (fun row => row.id == id && row.schoolId == schoolId) = db.invitations.select _ :=
    Table.select_restrict fun row member selected => by
      simp only [Bool.and_eq_true, beq_iff_eq] at selected
      exact invitation_belongs tenanted member selected.2
  refine Prod.ext (congrArg List.length own) ?_
  exact (Slot.invitations.set_delete_part (deleteInvitations_confined tenanted)).symm

theorem deleteAddons_part {userId : Id} {kept : List AddonKey} (tenanted : db.Tenanted)
    (home : db.home (.user userId) = some schoolId) :
    (db.deleteAddons userId kept).restrict schoolId =
      (db.restrict schoolId).deleteAddons userId kept := by
  have confined : Confined schoolId db (db.deleteAddons userId kept) :=
    deleteAddons_confined tenanted home
  exact Slot.addons.set_delete_part confined

theorem createAddon_part {row : UserAddon} (tenanted : db.Tenanted)
    (belongs : db.Belongs schoolId (.addon row)) :
    (db.createAddon row).restrict schoolId = (db.restrict schoolId).createAddon row := by
  have confined := createAddon_confined tenanted belongs
  unfold createAddon at confined ⊢
  cases inserted : db.addons.insert? row with
  | some addons =>
      simp only [inserted] at confined ⊢
      have part := Slot.addons.insert_part confined inserted
      simp only [show (db.restrict schoolId).addons.insert? row = _ from part]
      exact Slot.addons.set_part confined
  | none =>
      have mine : ∀ other ∈ db.addons.find (key row), db.Belongs schoolId (.addon other) := by
        intro other found
        obtain ⟨present, same⟩ := Table.find_eq_some.mp found
        have named : other.userId = row.userId := congrArg Prod.fst same
        exact Tenanted.belongs_via tenanted (.addon other) present List.mem_cons_self
          (named ▸ (belongs_addon.mp belongs).1)
      have taken := insert_part_none Slot.addons inserted mine
      simp only [show (db.restrict schoolId).addons.insert? row = none from taken]

theorem createAddons_mirrors {userId enabledById : Id} {addons : List AddonKey}
    (tenanted : db.Tenanted) (user : db.home (.user userId) = some schoolId)
    (granter : db.home (.user enabledById) = some schoolId) :
    Mirrors schoolId ((db.restrict schoolId).createAddons userId enabledById addons)
      (db.createAddons userId enabledById addons) := by
  have refers : (addons.isEmpty || ((db.restrict schoolId).hasUser userId &&
      (db.restrict schoolId).hasUser enabledById)) =
      (addons.isEmpty || (db.hasUser userId && db.hasUser enabledById)) := by
    rw [hasUser_restrict tenanted user, hasUser_restrict tenanted granter]
  refine require_follows refers fun known => ?_
  refine congrArg Except.ok ?_
  clear refers known
  induction addons generalizing db with
  | nil => rfl
  | cons addon rest ih =>
      have belongs : db.Belongs schoolId (.addon ⟨userId, addon, some enabledById⟩) :=
        belongs_addon.mpr ⟨user, by rintro _ ⟨⟩; exact granter⟩
      have homes : ∀ id, (db.createAddon ⟨userId, addon, some enabledById⟩).home (.user id) =
          db.home (.user id) := by
        intro id
        unfold createAddon
        split <;> rfl
      rw [List.foldl_cons, List.foldl_cons, ← createAddon_part tenanted belongs]
      exact ih ((createAddon_confined tenanted belongs).sound tenanted) ((homes _).trans user)
        ((homes _).trans granter)

theorem account_belongs (tenanted : db.Tenanted) {userId : Id}
    (home : db.home (.user userId) = some schoolId) {row : MeetingAccount}
    (member : row ∈ db.meetingAccounts.rows) (own : row.userId = userId) :
    db.belongsTo schoolId (.meetingAccount row) = true := by
  subst own
  exact belongsTo_iff.mpr
    (Tenanted.belongs_via tenanted (.meetingAccount row) member List.mem_cons_self home)

theorem upsertMeetingAccount_mirrors {row : MeetingAccount} (tenanted : db.Tenanted)
    (home : db.home (.user row.userId) = some schoolId)
    (id : db.Unclaimed schoolId (.id row.id)) :
    Mirrors schoolId ((db.restrict schoolId).upsertMeetingAccount row)
      (db.upsertMeetingAccount row) := by
  have renewed : ((db.restrict schoolId).meetingAccounts.rows.any fun other =>
      other.userId == row.userId && other.provider == row.provider) =
      db.meetingAccounts.rows.any fun other =>
        other.userId == row.userId && other.provider == row.provider := by
    refine Table.any_restrict fun other member same => ?_
    simp only [Bool.and_eq_true, beq_iff_eq] at same
    exact account_belongs tenanted home member same.1
  refine require_follows (hasUser_restrict tenanted home) fun known => ?_
  dsimp only
  rw [renewed]
  split
  · rename_i already
    have confined := upsertMeetingAccount_confined tenanted home
      (upsertMeetingAccount_ok.mpr ⟨known, by rw [if_pos already]⟩)
    exact congrArg Except.ok (Slot.meetingAccounts.set_update_part confined).symm
  · rename_i new
    refine Slot.meetingAccounts.create_follows (fun other member same => ?_)
      fun meetingAccounts inserted => ?_
    · exact id (.meetingAccount other) member
        (by simp [Row.marks, show other.id = row.id from same])
    · refine upsertMeetingAccount_confined tenanted home (upsertMeetingAccount_ok.mpr ⟨known, ?_⟩)
      rw [if_neg new]
      exact ⟨meetingAccounts, inserted, rfl⟩

theorem updateMeetingAccount_mirrors {refreshToken accessToken : String} {expiresAt : Js.Instant}
    (owned : ∀ row ∈ db.meetingAccounts.find id, db.Belongs schoolId (.meetingAccount row)) :
    Mirrors schoolId
      ((db.restrict schoolId).updateMeetingAccount id refreshToken accessToken expiresAt)
      (db.updateMeetingAccount id refreshToken accessToken expiresAt) :=
  Slot.meetingAccounts.update_follows owned fun meetingAccounts updated =>
    updateMeetingAccount_confined owned
      (updateMeetingAccount_ok.mpr ⟨meetingAccounts, updated, rfl⟩)

theorem forgetMeetingAccount_part
    (owned : ∀ row ∈ db.meetingAccounts.find id, db.Belongs schoolId (.meetingAccount row)) :
    (db.forgetMeetingAccount id).restrict schoolId =
      (db.restrict schoolId).forgetMeetingAccount id :=
  Slot.meetingAccounts.set_delete_part (forgetMeetingAccount_confined owned)

theorem deleteMeetingAccounts_part {userId : Id} {provider : MeetingProvider}
    (tenanted : db.Tenanted) (home : db.home (.user userId) = some schoolId) :
    (db.restrict schoolId).deleteMeetingAccounts userId provider =
      ((db.deleteMeetingAccounts userId provider).1,
        (db.deleteMeetingAccounts userId provider).2.restrict schoolId) := by
  have own : (db.restrict schoolId).meetingAccounts.select
      (fun row => row.userId == userId && row.provider == provider) =
      db.meetingAccounts.select _ :=
    Table.select_restrict fun row member selected => by
      simp only [Bool.and_eq_true, beq_iff_eq] at selected
      exact account_belongs tenanted home member selected.1
  refine Prod.ext (congrArg List.length own) ?_
  exact (Slot.meetingAccounts.set_delete_part (deleteMeetingAccounts_confined home)).symm

theorem notifications_part (confined : Confined schoolId db next)
    (same : next.notifications = db.notifications) :
    (next.restrict schoolId).notifications = (db.restrict schoolId).notifications := by
  simp only [restrict, filter, same]
  apply List.filter_congr
  intro row member
  have later : row ∈ next.notifications := same.symm ▸ member
  exact belongsTo_kept confined (show db.Holds (.notification row) from member) later

theorem createNotifications_part {rows : List Notification}
    (owned : ∀ row ∈ rows, db.home (.user row.recipientId) = some schoolId) :
    (db.createNotifications rows).restrict schoolId =
      (db.restrict schoolId).createNotifications rows := by
  have homes : ∀ ref, (db.createNotifications rows).home ref = db.home ref := by
    rintro (_ | _ | _ | _ | _ | _ | _) <;> rfl
  have same : (db.createNotifications rows).belongsTo schoolId = db.belongsTo schoolId := by
    funext row
    simp only [belongsTo, homes]
  have mine : (rows.filter fun row => db.belongsTo schoolId (.notification row)) = rows := by
    rw [List.filter_eq_self]
    intro row listed
    exact belongsTo_iff.mpr (belongs_notification.mpr (owned row listed))
  simp only [restrict, filter, same]
  simp only [createNotifications, List.filter_append, mine]

/-- Whether a lesson of the school is among those that go. -/
theorem lessonGone_restrict {gone : Lesson → Bool} (tenanted : db.Tenanted)
    (home : db.home (.lesson id) = some schoolId) :
    (db.restrict schoolId).lessonGone gone id = db.lessonGone gone id := by
  rw [lessonGone, lessonGone, find_lesson_restrict tenanted home]

theorem anyGone_restrict {gone : Lesson → Bool} {lessonId : Option Id} (tenanted : db.Tenanted)
    (homes : ∀ id ∈ lessonId, db.home (.lesson id) = some schoolId) :
    lessonId.any ((db.restrict schoolId).lessonGone gone) = lessonId.any (db.lessonGone gone) := by
  cases lessonId with
  | none => rfl
  | some id => exact lessonGone_restrict tenanted (homes id rfl)

theorem dropLessons_part {gone : Lesson → Bool} (tenanted : db.Tenanted)
    (owned : ∀ row ∈ db.lessons.rows, gone row = true → db.Belongs schoolId (.lesson row)) :
    (db.dropLessons gone).restrict schoolId = (db.restrict schoolId).dropLessons gone := by
  have confined := dropLessons_confined tenanted owned
  apply Db.ext
  case schools => exact Slot.schools.same_part confined rfl
  case users => exact Slot.users.same_part confined rfl
  case subjects => exact Slot.subjects.same_part confined rfl
  case students => exact Slot.students.same_part confined rfl
  case groups => exact Slot.groups.same_part confined rfl
  case members => exact Slot.members.same_part confined rfl
  case lessons => exact Slot.lessons.delete_part confined rfl fun _ _ _ => rfl
  case attendances =>
    refine Slot.attendances.delete_part confined rfl fun row _ belongs => ?_
    exact lessonGone_restrict tenanted (belongs_attendance.mp belongs).1
  case notes =>
    refine Slot.notes.delete_part confined rfl fun row _ belongs => ?_
    exact anyGone_restrict tenanted (belongs_note.mp belongs).2.2.1
  case grades =>
    have updated : Slot.grades.get (db.dropLessons gone) = (Slot.grades.get db).update
      (fun row => row.lessonId.any (db.lessonGone gone)) (fun row => { row with lessonId := none })
      (fun _ => rfl) := rfl
    refine Slot.grades.update_part confined updated fun row _ belongs => ?_
    exact anyGone_restrict tenanted (belongs_grade.mp belongs).2.2
  case files =>
    refine Slot.files.delete_part confined rfl fun row _ belongs => ?_
    exact anyGone_restrict tenanted (belongs_file.mp belongs).2.2.2
  case invitations => exact Slot.invitations.same_part confined rfl
  case addons => exact Slot.addons.same_part confined rfl
  case meetingAccounts => exact Slot.meetingAccounts.same_part confined rfl
  case notifications => exact notifications_part confined rfl

theorem dropStudent_part (confined : Confined schoolId db (db.dropStudent id)) :
    (db.dropStudent id).restrict schoolId = (db.restrict schoolId).dropStudent id := by
  apply Db.ext
  case schools => exact Slot.schools.same_part confined rfl
  case users => exact Slot.users.same_part confined rfl
  case subjects => exact Slot.subjects.same_part confined rfl
  case students => exact Slot.students.delete_part confined rfl fun _ _ _ => rfl
  case groups => exact Slot.groups.same_part confined rfl
  case members => exact Slot.members.delete_part confined rfl fun _ _ _ => rfl
  case lessons => exact Slot.lessons.same_part confined rfl
  case attendances => exact Slot.attendances.delete_part confined rfl fun _ _ _ => rfl
  case notes => exact Slot.notes.delete_part confined rfl fun _ _ _ => rfl
  case grades => exact Slot.grades.delete_part confined rfl fun _ _ _ => rfl
  case files => exact Slot.files.delete_part confined rfl fun _ _ _ => rfl
  case invitations => exact Slot.invitations.same_part confined rfl
  case addons => exact Slot.addons.same_part confined rfl
  case meetingAccounts => exact Slot.meetingAccounts.same_part confined rfl
  case notifications => exact notifications_part confined rfl

theorem dropGroup_part (confined : Confined schoolId db (db.dropGroup id)) :
    (db.dropGroup id).restrict schoolId = (db.restrict schoolId).dropGroup id := by
  apply Db.ext
  case schools => exact Slot.schools.same_part confined rfl
  case users => exact Slot.users.same_part confined rfl
  case subjects => exact Slot.subjects.same_part confined rfl
  case students => exact Slot.students.same_part confined rfl
  case groups => exact Slot.groups.delete_part confined rfl fun _ _ _ => rfl
  case members => exact Slot.members.delete_part confined rfl fun _ _ _ => rfl
  case lessons => exact Slot.lessons.same_part confined rfl
  case attendances => exact Slot.attendances.same_part confined rfl
  case notes => exact Slot.notes.same_part confined rfl
  case grades => exact Slot.grades.same_part confined rfl
  case files => exact Slot.files.same_part confined rfl
  case invitations => exact Slot.invitations.same_part confined rfl
  case addons => exact Slot.addons.same_part confined rfl
  case meetingAccounts => exact Slot.meetingAccounts.same_part confined rfl
  case notifications => exact notifications_part confined rfl

theorem deleteStudent_mirrors (tenanted : db.Tenanted)
    (home : db.home (.student id) = some schoolId) :
    Mirrors schoolId ((db.restrict schoolId).deleteStudent id) (db.deleteStudent id) := by
  have owned : ∀ row ∈ db.lessons.rows, (row.studentId == some id) = true →
      db.Belongs schoolId (.lesson row) := fun row member selected =>
    Tenanted.belongs_via tenanted _ member (by simp [Row.refs, beq_iff_eq.mp selected]) home
  refine require_follows (hasStudent_restrict tenanted home) fun _ => ?_
  have dropped := dropStudent_confined ((dropLessons_confined tenanted owned).sound tenanted) home
    fun row member => by simpa using (Table.mem_delete.mp member).2
  exact congrArg Except.ok
    ((dropStudent_part dropped).trans (congrArg _ (dropLessons_part tenanted owned))).symm

theorem deleteGroup_mirrors (tenanted : db.Tenanted)
    (home : db.home (.group id) = some schoolId) :
    Mirrors schoolId ((db.restrict schoolId).deleteGroup id) (db.deleteGroup id) := by
  have owned : ∀ row ∈ db.lessons.rows, (row.groupId == some id) = true →
      db.Belongs schoolId (.lesson row) := fun row member selected =>
    Tenanted.belongs_via tenanted _ member (by simp [Row.refs, beq_iff_eq.mp selected]) home
  refine require_follows (hasGroup_restrict tenanted home) fun _ => ?_
  have dropped := dropGroup_confined ((dropLessons_confined tenanted owned).sound tenanted) home
    fun row member => by simpa using (Table.mem_delete.mp member).2
  exact congrArg Except.ok
    ((dropGroup_part dropped).trans (congrArg _ (dropLessons_part tenanted owned))).symm

end Db

end TutorApp
