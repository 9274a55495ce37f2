import TutorApp.Books

set_option autoImplicit false

namespace TutorApp

open Relational

namespace Db

variable {db next : Db} {studentId : Id}

/-- A student's balance; nobody's is zero. -/
def balance (db : Db) (studentId : Id) : Int :=
  ((db.students.find studentId).map Student.paidLessonsLeft).getD 0

/-- The register rows a student was charged a lesson for. -/
def charges (db : Db) (studentId : Id) : Nat :=
  db.attendances.rows.countP fun row => row.studentId == studentId && row.status.charged

/-- What was paid for: the lessons left and the lessons charged. -/
def ledger (db : Db) (studentId : Id) : Int := db.balance studentId + db.charges studentId

/-- The register of a lesson for one student is that student's. -/
def OwnRegister (db : Db) : Prop :=
  ∀ lessonId studentId status, db.markOf (lessonId, studentId) = some status →
    ∀ lesson, db.lessons.find lessonId = some lesson → ∀ own ∈ lesson.studentId, own = studentId

theorem SameBooks.balance (same : db.SameBooks next) : next.balance studentId = db.balance studentId := by
  rw [Db.balance, same.students, Db.balance]

theorem SameBooks.markOf (same : db.SameBooks next) (k : Id × Id) : next.markOf k = db.markOf k := by
  rw [Db.markOf, same.attendances, Db.markOf]

theorem SameBooks.ledger (same : db.SameBooks next) : next.ledger studentId = db.ledger studentId := by
  rw [Db.ledger, same.balance, Db.charges, same.attendances, Db.ledger, Db.charges]

/-- A register row leads to a lesson and to a student. -/
theorem Tenanted.mark_found (tenanted : db.Tenanted) {lessonId : Id} {status : AttendanceStatus}
    (held : db.markOf (lessonId, studentId) = some status) :
    (db.lessons.find lessonId).isSome ∧ (db.students.find studentId).isSome := by
  obtain ⟨row, member, rfl, rfl, -⟩ := row_of_mark held
  obtain ⟨schoolId, belongs⟩ := tenanted (.attendance row) member
  obtain ⟨lesson, student⟩ := belongs_attendance.mp belongs
  constructor
  · obtain ⟨found, lookup, -⟩ := Option.map_eq_some_iff.mp lesson
    rw [lookup, Option.isSome_some]
  · obtain ⟨found, lookup, -⟩ := Option.map_eq_some_iff.mp student
    rw [lookup, Option.isSome_some]

theorem creditStudent_balance (db : Db) (id : Id) (amount : Int) (other : Id) :
    (db.creditStudent id amount).balance other =
      db.balance other + if other = id ∧ db.hasStudent id = true then amount else 0 := by
  rw [balance, creditStudent, Table.find_update_key, balance, hasStudent]
  by_cases same : other = id
  · subst same
    cases db.students.find other <;> simp
  · simp only [same, if_false, false_and, Int.add_zero]

theorem addLessons_balance {amount : Int} (done : db.addLessons studentId amount = .ok next)
    (other : Id) :
    next.balance other = db.balance other + if other = studentId then amount else 0 := by
  obtain ⟨-, present, rfl⟩ := addLessons_ok.mp done
  rw [creditStudent_balance, present]
  simp only [and_true]

/-- The lessons charged change by what the new mark says against the old one. -/
theorem putAttendance_charges (db : Db) (lessonId studentId : Id) (status : AttendanceStatus)
    (homeworkDone : Option (Option Bool)) (other : Id) :
    ((db.putAttendance lessonId studentId status homeworkDone).charges other : Int) =
      db.charges other - if other = studentId
        then chargeStep (GradebookService.wasCharged db lessonId studentId) status.charged else 0 := by
  have counted := @Table.countP_upsert _ _ _ _ db.attendances
    ⟨lessonId, studentId, status, homeworkDone.getD none⟩
    (fun row => { row with status, homeworkDone := homeworkDone.getD row.homeworkDone })
    (fun _ => rfl) (fun row => row.studentId == other && row.status.charged)
  have looked : db.attendances.find (key (⟨lessonId, studentId, status, homeworkDone.getD none⟩ :
      LessonAttendance)) = db.attendances.find (lessonId, studentId) := rfl
  rw [looked] at counted
  simp only [charges, putAttendance, GradebookService.wasCharged]
  cases found : db.attendances.find (lessonId, studentId) with
  | none =>
      simp only [found, Option.any_none, Option.elim_none, Bool.and_eq_true, beq_iff_eq] at counted ⊢
      by_cases same : other = studentId
      · subst same
        cases charged : status.charged <;> simp [charged, chargeStep] at counted ⊢ <;> omega
      · simp only [Ne.symm same, same, false_and, ↓reduceIte, Bool.false_eq_true] at counted ⊢
        omega
  | some old =>
      have named : old.studentId = studentId :=
        congrArg Prod.snd (Table.find_eq_some.mp found).2
      simp only [found, Option.any_some, Option.elim_some, named, Bool.and_eq_true, beq_iff_eq]
        at counted ⊢
      by_cases same : other = studentId
      · subst same
        simp only [true_and, chargeStep] at counted ⊢
        generalize old.status.charged = before at counted ⊢
        generalize status.charged = after at counted ⊢
        cases before <;> cases after <;> simp at counted ⊢ <;> omega
      · simp only [Ne.symm same, same, false_and, ↓reduceIte] at counted ⊢
        omega

end Db

namespace GradebookService

variable {db next : Db} {lessonId : Id}

theorem settle_balance {mark : MarkAttendanceDto} (done : settle lessonId mark db = .ok next)
    (other : Id) :
    next.balance other = db.balance other + if other = mark.studentId
      then chargeStep (wasCharged db lessonId mark.studentId) mark.status.charged else 0 := by
  unfold settle settleFrom at done
  split at done
  · exact Db.addLessons_balance done other
  · rename_i unchanged
    simp only [bne_iff_ne, ne_eq, not_not] at unchanged
    obtain rfl := Except.ok.inj done
    rw [chargeStep, if_pos unchanged, ite_self, Int.add_zero]

/-- A turn of the loop moves a lesson between the balance and the register. -/
theorem writeMark_ledger {mark : MarkAttendanceDto} (done : writeMark lessonId mark db = .ok next)
    (studentId : Id) : next.ledger studentId = db.ledger studentId := by
  obtain ⟨settled, settles, upserted⟩ := writeMark_ok.mp done
  have moved := settle_balance settles studentId
  have counted := Db.putAttendance_charges settled lessonId mark.studentId mark.status
    (homeworkPatch mark.homeworkDone) studentId
  have unsettled : wasCharged settled lessonId mark.studentId =
      wasCharged db lessonId mark.studentId ∧ settled.charges studentId = db.charges studentId := by
    obtain ⟨students, rfl⟩ := settle_frame settles
    exact ⟨rfl, rfl⟩
  rw [unsettled.1, unsettled.2] at counted
  rw [← (Db.upsertAttendance_ok.mp upserted).2, Db.ledger, counted, Db.ledger]
  have balance : (settled.putAttendance lessonId mark.studentId mark.status
      (homeworkPatch mark.homeworkDone)).balance studentId = settled.balance studentId := rfl
  omega

theorem writeMarks_ledger {marks : List MarkAttendanceDto}
    (done : writeMarks lessonId marks db = .ok next) (studentId : Id) :
    next.ledger studentId = db.ledger studentId := by
  induction marks generalizing db with
  | nil => rw [Except.ok.inj done]
  | cons mark rest ih =>
      obtain ⟨marked, first, others⟩ := writeMarks_cons_ok.mp done
      rw [ih others, writeMark_ledger first]

end GradebookService

section

variable {platform : Platform} {outside : Outside} {request : Request} {db next : Db} {studentId : Id}

theorem Db.OwnRegister.same (own : db.OwnRegister) (same : db.SameBooks next) :
    next.OwnRegister := by
  intro lessonId studentId status held lesson found
  rw [same.markOf] at held
  rw [same.lessons] at found
  exact own lessonId studentId status held lesson found

/-- What is left of a register and of the lessons was there before. -/
theorem Db.OwnRegister.shrink (own : db.OwnRegister)
    (marks : ∀ k status, next.markOf k = some status → db.markOf k = some status)
    (lessons : ∀ id lesson, next.lessons.find id = some lesson → db.lessons.find id = some lesson) :
    next.OwnRegister := by
  intro lessonId studentId status held lesson found
  exact own lessonId studentId status (marks _ status held) lesson (lessons lessonId lesson found)

theorem Db.markOf_of_delete {hit : LessonAttendance → Bool} {k : Id × Id}
    {status : AttendanceStatus}
    (held : ((db.attendances.delete hit).find k).map LessonAttendance.status = some status) :
    db.markOf k = some status := by
  rw [Table.find_delete] at held
  obtain ⟨row, kept, same⟩ := Option.map_eq_some_iff.mp held
  rw [markOf, (Option.filter_eq_some_iff.mp kept).1, Option.map_some, same]

theorem Db.OwnRegister.dropLessons (own : db.OwnRegister) (gone : Lesson → Bool) :
    (db.dropLessons gone).OwnRegister := by
  apply own.shrink
  · intro k status held
    exact markOf_of_delete held
  · intro id lesson found
    rw [show (db.dropLessons gone).lessons = db.lessons.delete gone from rfl,
      Table.find_delete] at found
    exact (Option.filter_eq_some_iff.mp found).1

theorem Db.updateLesson_studentId {id lessonId : Id} {patch : Db.LessonPatch}
    (done : db.updateLesson id patch = .ok next) :
    (next.lessons.find lessonId).map Lesson.studentId =
      (db.lessons.find lessonId).map Lesson.studentId := by
  obtain ⟨lessons, updated, rfl⟩ := updateLesson_ok.mp done
  obtain ⟨-, rfl⟩ := updateRow_ok.mp updated
  have untouched : ∀ row : Lesson, (patch.apply row).studentId = row.studentId := fun _ => rfl
  show ((db.lessons.update _ patch.apply patch.key_apply).find lessonId).map Lesson.studentId = _
  exact Table.map_find_update untouched lessonId

/-- The student of a lesson a status is written on is the student it had. -/
theorem Db.OwnRegister.updateLesson {id : Id} {patch : Db.LessonPatch} (own : db.OwnRegister)
    (done : db.updateLesson id patch = .ok next) : next.OwnRegister := by
  intro lessonId studentId status held lesson found named student
  have kept : (db.lessons.find lessonId).map Lesson.studentId = some lesson.studentId := by
    rw [← updateLesson_studentId done, found, Option.map_some]
  obtain ⟨old, lookup, same⟩ := Option.map_eq_some_iff.mp kept
  obtain ⟨lessons, rfl⟩ := updateLesson_frame done
  exact own lessonId studentId status held old lookup named (same ▸ student)

/-- A lesson that was there when a row was written keeps its student. -/
theorem Db.OwnRegister.createLesson {row : Lesson} (own : db.OwnRegister)
    (known : ∀ lessonId studentId status, db.markOf (lessonId, studentId) = some status →
      (db.lessons.find lessonId).isSome) (done : db.createLesson row = .ok next) : next.OwnRegister := by
  obtain ⟨-, lessons, inserted, rfl⟩ := Db.createLesson_ok.mp done
  intro lessonId studentId status held lesson found named student
  obtain ⟨old, lookup⟩ := Option.isSome_iff_exists.mp (known _ _ _ held)
  have kept : lessons.find lessonId = some old := Table.find_after_insert inserted lookup
  rw [kept, Option.some.injEq] at found
  exact own lessonId studentId status held old lookup named (found ▸ student)

/-- Whoever a lesson of one student is written up for is that student. -/
theorem GradebookService.writeMarks_own {lessonId : Id} {marks : List MarkAttendanceDto}
    (own : db.OwnRegister)
    (eligible : ∀ mark ∈ marks, mark.studentId ∈ LessonsService.studentIdsFor lessonId db)
    (done : writeMarks lessonId marks db = .ok next) : next.OwnRegister := by
  intro taught studentId status held lesson found named student
  have unmoved : next.lessons = db.lessons := by
    obtain ⟨students, attendances, rfl⟩ := writeMarks_frame done
    rfl
  rw [unmoved] at found
  by_cases marked : ∃ mark ∈ marks, (lessonId, mark.studentId) = (taught, studentId)
  · obtain ⟨mark, member, same⟩ := marked
    obtain ⟨rfl, rfl⟩ := Prod.mk.inj same
    have listed := eligible mark member
    rw [Option.mem_def] at student
    simp only [LessonsService.studentIdsFor, found, student, List.mem_singleton] at listed
    exact listed.symm
  · rw [writeMarks_unmarked done fun mark member same => marked ⟨mark, member, same⟩] at held
    exact own taught studentId status held lesson found named student

theorem BookStep.ownRegister (step : BookStep outside request db next) (tenanted : db.Tenanted)
    (own : db.OwnRegister) : next.OwnRegister := by
  cases step with
  | idle same => exact own.same same
  | enrolled row drawn credited done =>
      obtain ⟨-, -, students, -, rfl⟩ := Db.createStudent_ok.mp done
      exact own
  | edited id patch credited done =>
      obtain ⟨-, -, students, -, rfl⟩ := Db.updateStudent_ok.mp done
      exact own
  | removed id done =>
      rw [← (Db.deleteStudent_ok.mp done).2]
      apply (own.dropLessons fun row => row.studentId == some id).shrink
      · intro k status held
        exact Db.markOf_of_delete held
      · intro lessonId lesson found
        exact found
  | disbanded id asked done =>
      rw [← (Db.deleteGroup_ok.mp done).2]
      exact own.dropLessons fun row => row.groupId == some id
  | booked row same done =>
      refine (own.same same).createLesson (fun lessonId studentId status held => ?_) done
      rw [same.markOf] at held
      rw [same.lessons]
      exact (tenanted.mark_found held).1
  | stated id patch done => exact own.updateLesson done
  | written lessonId marks patch eligible marked done =>
      exact (GradebookService.writeMarks_own own eligible marked).updateLesson done

/-- A new student starts with the balance the row says, and nobody else's moves. -/
theorem Db.createStudent_ledger {row : Student}
    (done : db.createStudent row = .ok next)
    (unpaid : row.paidLessonsLeft = 0 ∨ row.id ≠ studentId) :
    next.ledger studentId = db.ledger studentId := by
  obtain ⟨-, -, students, inserted, rfl⟩ := createStudent_ok.mp done
  have lookup : students.find studentId =
      if row.id = studentId then some row else db.students.find studentId :=
    Table.find_of_insert inserted studentId
  have charges : Db.charges { db with students } studentId = db.charges studentId := rfl
  rw [ledger, charges, ledger, balance, lookup, balance]
  by_cases same : row.id = studentId
  · have absent : db.students.find studentId = none := same ▸ (Table.insert?_eq_some.mp inserted).1
    rcases unpaid with unpaid | other
    · rw [if_pos same, absent, Option.map_some, unpaid]
      rfl
    · exact absurd same other
  · rw [if_neg same]

theorem Db.updateStudent_ledger {id : Id} {patch : Db.StudentPatch}
    (done : db.updateStudent id patch = .ok next)
    (unpaid : patch.paidLessonsLeft = none ∨ id ≠ studentId) :
    next.ledger studentId = db.ledger studentId := by
  obtain ⟨-, -, students, updated, rfl⟩ := updateStudent_ok.mp done
  obtain ⟨-, rfl⟩ := updateRow_ok.mp updated
  rw [ledger, balance, Table.find_update, ledger, balance]
  congr 2
  cases found : db.students.find studentId with
  | none => rfl
  | some row =>
      have named : key row = studentId := (Table.find_eq_some.mp found).2
      rw [Option.map_some, named]
      rcases unpaid with unpaid | other
      · split
        · rw [Option.map_some, StudentPatch.apply, unpaid]
          rfl
        · rfl
      · rw [if_neg (by simpa using Ne.symm other)]

theorem Db.deleteStudent_gone {id : Id} (done : db.deleteStudent id = .ok next) :
    next.hasStudent id = false := by
  rw [← (deleteStudent_ok.mp done).2]
  have absent : (db.students.delete fun row => row.id == id).find id = none := by
    rw [Table.find_delete, Option.filter_eq_none_iff]
    intro row found
    have named : row.id = id := (Table.find_eq_some.mp found).2
    simp [named]
  exact congrArg Option.isSome absent

/-- A student removed with all that is theirs takes nothing from anybody else's ledger. -/
theorem Db.deleteStudent_ledger {id : Id} (own : db.OwnRegister)
    (done : db.deleteStudent id = .ok next) (other : studentId ≠ id) :
    next.ledger studentId = db.ledger studentId := by
  rw [← (deleteStudent_ok.mp done).2]
  have balance : Db.balance ((db.dropLessons fun row => row.studentId == some id).dropStudent id)
      studentId = db.balance studentId := by
    have found : (db.students.delete fun row => row.id == id).find studentId =
        db.students.find studentId := by
      rw [Table.find_delete]
      cases lookup : db.students.find studentId with
      | none => rfl
      | some row =>
          have named : row.id = studentId := (Table.find_eq_some.mp lookup).2
          exact Option.filter_some_pos (by simpa [named] using other)
    exact congrArg (fun row => (Option.map Student.paidLessonsLeft row).getD 0) found
  have charges : Db.charges ((db.dropLessons fun row => row.studentId == some id).dropStudent id)
      studentId = db.charges studentId := by
    have own' : ∀ row ∈ db.attendances.rows,
        db.lessonGone (fun row => row.studentId == some id) row.lessonId = true →
        (row.studentId == studentId && row.status.charged) = false := by
      intro row member gone
      obtain ⟨lesson, found, named⟩ := (Option.any_eq_true _ _).mp gone
      have theirs := own row.lessonId row.studentId row.status (mark_of_row member) lesson found id
        (beq_iff_eq.mp named)
      rw [← theirs, beq_eq_false_iff_ne.mpr (Ne.symm other), Bool.false_and]
    exact (Table.countP_delete _ fun row _ hit => by
      rw [beq_iff_eq.mp hit, beq_eq_false_iff_ne.mpr (Ne.symm other), Bool.false_and]).trans
        (Table.countP_delete _ own')
  rw [ledger, balance, charges, ledger]

theorem BookStep.ledger (step : BookStep outside request db next) (own : db.OwnRegister)
    (uncredited : request.credits outside ≠ some studentId)
    (united : request.disbands = false)
    (kept : db.hasStudent studentId = true → next.hasStudent studentId = true) :
    next.ledger studentId = db.ledger studentId := by
  cases step with
  | idle same => exact same.ledger
  | enrolled row drawn credited done => exact Db.createStudent_ledger done (by
      rcases credited with unpaid | credited
      · exact .inl unpaid
      · exact .inr fun same => uncredited (same ▸ credited))
  | edited id patch credited done => exact Db.updateStudent_ledger done (by
      rcases credited with unpaid | credited
      · exact .inl unpaid
      · exact .inr fun same => uncredited (same ▸ credited))
  | removed id done =>
      apply Db.deleteStudent_ledger own done
      rintro rfl
      have gone := Db.deleteStudent_gone done
      rw [kept (Db.deleteStudent_ok.mp done).1] at gone
      cases gone
  | disbanded id asked done =>
      rw [united] at asked
      cases asked
  | booked row same done =>
      obtain ⟨-, lessons, -, rfl⟩ := Db.createLesson_ok.mp done
      exact same.ledger
  | stated id patch done =>
      obtain ⟨lessons, rfl⟩ := Db.updateLesson_frame done
      rfl
  | written lessonId marks patch eligible marked done =>
      obtain ⟨lessons, rfl⟩ := Db.updateLesson_frame done
      exact GradebookService.writeMarks_ledger marked studentId

theorem GradebookService.writeMark_hasStudent {lessonId : Id} {mark : MarkAttendanceDto}
    (done : writeMark lessonId mark db = .ok next) :
    next.hasStudent studentId = db.hasStudent studentId := by
  obtain ⟨settled, settles, upserted⟩ := writeMark_ok.mp done
  obtain ⟨attendances, rfl⟩ := Db.upsertAttendance_frame upserted
  unfold settle settleFrom at settles
  split at settles
  · have home := Db.addLessons_home settles (.student studentId)
    have same := congrArg Option.isSome home
    simp only [Db.home, Db.schoolOfStudent, Option.isSome_map] at same
    exact same
  · rw [← Except.ok.inj settles]
    rfl

theorem GradebookService.writeMarks_hasStudent {lessonId : Id} {marks : List MarkAttendanceDto}
    (done : writeMarks lessonId marks db = .ok next) :
    next.hasStudent studentId = db.hasStudent studentId := by
  induction marks generalizing db with
  | nil => rw [Except.ok.inj done]
  | cons mark rest ih =>
      obtain ⟨marked, first, others⟩ := writeMarks_cons_ok.mp done
      exact (ih others).trans (writeMark_hasStudent first)

/-- Nobody appears but the student a request draws the id for. -/
theorem BookStep.hasStudent (step : BookStep outside request db next)
    (present : next.hasStudent studentId = true) (undrawn : outside.draw.id ≠ studentId) :
    db.hasStudent studentId = true := by
  cases step with
  | idle same =>
      rw [Db.hasStudent, same.students] at present
      exact present
  | enrolled row drawn credited done =>
      obtain ⟨-, -, students, inserted, rfl⟩ := Db.createStudent_ok.mp done
      have lookup : students.find studentId =
          if row.id = studentId then some row else db.students.find studentId :=
        Table.find_of_insert inserted studentId
      rw [if_neg (drawn ▸ undrawn)] at lookup
      rw [Db.hasStudent, lookup] at present
      exact present
  | edited id patch credited done =>
      obtain ⟨-, -, students, updated, rfl⟩ := Db.updateStudent_ok.mp done
      obtain ⟨-, rfl⟩ := updateRow_ok.mp updated
      rw [Db.hasStudent, Table.find_update, Option.isSome_map] at present
      exact present
  | removed id done =>
      rw [← (Db.deleteStudent_ok.mp done).2] at present
      have kept : ((db.students.delete fun row => row.id == id).find studentId).isSome = true :=
        present
      rw [Table.find_delete] at kept
      exact Option.isSome_of_isSome_filter _ _ kept
  | disbanded id asked done =>
      rw [← (Db.deleteGroup_ok.mp done).2] at present
      exact present
  | booked row same done =>
      obtain ⟨-, lessons, -, rfl⟩ := Db.createLesson_ok.mp done
      exact (congrArg (fun students => (Table.find students studentId).isSome) same.students).symm.trans
        present
  | stated id patch done =>
      obtain ⟨lessons, rfl⟩ := Db.updateLesson_frame done
      exact present
  | written lessonId marks patch eligible marked done =>
      obtain ⟨lessons, rfl⟩ := Db.updateLesson_frame done
      exact (GradebookService.writeMarks_hasStudent marked).symm.trans present

end

section

variable {platform : Platform} {world : World} {studentId : Id}

theorem Reachable.ownRegister (reachable : Reachable platform world) : world.db.OwnRegister := by
  induction reachable with
  | refl =>
      intro lessonId studentId status held
      cases held
  | tail before step ih =>
      obtain ⟨outside, request, rfl⟩ := step
      exact (request.serve_bookStep).ownRegister (Reachable.tenanted before) ih

/-- A run that sets no balance of a student and removes no group, at whose end the student
exists. An id is drawn once: none of a student who was there is drawn again. -/
structure LedgerRun (platform : Platform) (world : World) (studentId : Id)
    (run : List (Outside × Request)) : Prop where
  uncredited : ∀ asked ∈ run, asked.2.credits asked.1 ≠ some studentId
  united : ∀ asked ∈ run, asked.2.disbands = false
  drawnOnce : ∀ before rest, run = before ++ rest →
    (world.after platform before).db.hasStudent studentId = true →
    ∀ asked ∈ rest, asked.1.draw.id ≠ studentId
  present : (world.after platform run).db.hasStudent studentId = true

/-- A student who is gone and whose id is not drawn again stays gone. -/
theorem stays_gone {run : List (Outside × Request)}
    (undrawn : ∀ asked ∈ run, asked.1.draw.id ≠ studentId)
    (present : (world.after platform run).db.hasStudent studentId = true) :
    world.db.hasStudent studentId = true := by
  induction run generalizing world with
  | nil => exact present
  | cons asked rest ih =>
      have later := ih (fun other member => undrawn other (List.mem_cons_of_mem _ member)) present
      exact (asked.2.serve_bookStep).hasStudent later (undrawn asked List.mem_cons_self)

theorem LedgerRun.ledger {run : List (Outside × Request)} (reachable : Reachable platform world)
    (books : LedgerRun platform world studentId run) :
    (world.after platform run).db.ledger studentId = world.db.ledger studentId := by
  induction run generalizing world with
  | nil => rfl
  | cons asked rest ih =>
      have tail : LedgerRun platform (asked.2.serve platform asked.1 world).world studentId rest :=
        { uncredited := fun other member => books.uncredited other (List.mem_cons_of_mem _ member)
          united := fun other member => books.united other (List.mem_cons_of_mem _ member)
          drawnOnce := fun before others split =>
            books.drawnOnce (asked :: before) others (by rw [split, List.cons_append])
          present := books.present }
      have kept : world.db.hasStudent studentId = true →
          (asked.2.serve platform asked.1 world).world.db.hasStudent studentId = true := by
        intro there
        have undrawn := books.drawnOnce [] (asked :: rest) rfl there
        exact stays_gone (fun other member => undrawn other (List.mem_cons_of_mem _ member))
          books.present
      have step := (asked.2.serve_bookStep).ledger reachable.ownRegister
        (books.uncredited asked List.mem_cons_self) (books.united asked List.mem_cons_self) kept
      exact (ih (reachable.tail ⟨asked.1, asked.2, rfl⟩) tail).trans step

/-- The lessons a student was charged for. -/
def Db.chargedLessons (db : Db) (studentId : Id) : List Id :=
  (db.attendances.rows.filter fun row => row.studentId == studentId && row.status.charged).map
    LessonAttendance.lessonId

theorem Db.chargedLessons_nodup (db : Db) : (db.chargedLessons studentId).Nodup := by
  apply List.Nodup.map_on
  · intro left first right second same
    simp only [List.mem_filter, Bool.and_eq_true, beq_iff_eq] at first second
    apply Table.key_injective first.1 second.1
    exact Prod.ext same (first.2.1.trans second.2.1.symm)
  · exact (List.Nodup.of_map key db.attendances.unique).filter _

theorem Db.mem_chargedLessons {db : Db} {lessonId : Id} :
    lessonId ∈ db.chargedLessons studentId ↔
      ∃ status, db.markOf (lessonId, studentId) = some status ∧ status.charged = true := by
  simp only [chargedLessons, List.mem_map, List.mem_filter, Bool.and_eq_true, beq_iff_eq]
  constructor
  · rintro ⟨row, ⟨member, rfl, charged⟩, rfl⟩
    exact ⟨row.status, mark_of_row member, charged⟩
  · rintro ⟨status, held, charged⟩
    obtain ⟨row, member, ofLesson, ofStudent, same⟩ := row_of_mark held
    exact ⟨row, ⟨member, ofStudent, same ▸ charged⟩, ofLesson⟩

theorem Db.charges_eq_length (db : Db) :
    db.charges studentId = (db.chargedLessons studentId).length := by
  rw [chargedLessons, List.length_map, charges, List.countP_eq_length_filter]

/-- What a student was charged follows from the marks alone. -/
theorem Db.charges_congr {left right : Db}
    (same : ∀ lessonId, left.markOf (lessonId, studentId) = right.markOf (lessonId, studentId)) :
    left.charges studentId = right.charges studentId := by
  rw [charges_eq_length, charges_eq_length]
  apply List.Perm.length_eq
  rw [List.perm_ext_iff_of_nodup left.chargedLessons_nodup right.chargedLessons_nodup]
  intro lessonId
  rw [mem_chargedLessons, mem_chargedLessons, same]

/-- Lessons paid for are left or charged: runs that set no balance move lessons between the
two only, so the register they end in decides the balance, and a failed request moves nothing. -/
theorem balance_follows_register (reachable : Reachable platform world) (studentId : Id) :
    (∀ run, LedgerRun platform world studentId run →
      (world.after platform run).db.ledger studentId = world.db.ledger studentId) ∧
    (∀ run other, LedgerRun platform world studentId run →
      LedgerRun platform world studentId other →
      (∀ lessonId, (world.after platform run).db.markOf (lessonId, studentId) =
        (world.after platform other).db.markOf (lessonId, studentId)) →
      (world.after platform run).db.balance studentId =
        (world.after platform other).db.balance studentId) ∧
    ∀ (outside : Outside) (request : Request) reason,
      (request.serve platform outside world).result = .error reason →
        (request.serve platform outside world).world.db.balance studentId =
            world.db.balance studentId ∧
          ∀ lessonId, (request.serve platform outside world).world.db.markOf (lessonId, studentId) =
            world.db.markOf (lessonId, studentId) := by
  refine ⟨fun run books => books.ledger reachable, ?_, ?_⟩
  · intro run other books others same
    have first := books.ledger reachable
    have second := others.ledger reachable
    have charged := Db.charges_congr same
    rw [Db.ledger, charged] at first
    rw [Db.ledger] at second
    omega
  · intro outside request reason failed
    have books := request.serve_failed failed
    exact ⟨books.balance, fun lessonId => books.markOf (lessonId, studentId)⟩

end

/-- A tap by the first school's admin on the lesson of the pair. -/
def tap (marks : List (Id × AttendanceStatus)) : Outside × Request :=
  (.quiet "", .command "a1" (.writeJournal "l1" (taps marks)))

theorem tap_ledgerRun {registers : List (List (Id × AttendanceStatus))}
    (present : (pairLesson.after .plain (registers.map tap)).db.hasStudent "k1" = true) :
    LedgerRun .plain pairLesson "k1" (registers.map tap) where
  uncredited asked member := by
    obtain ⟨marks, -, rfl⟩ := List.mem_map.mp member
    intro same
    cases same
  united asked member := by
    obtain ⟨marks, -, rfl⟩ := List.mem_map.mp member
    rfl
  drawnOnce before rest split there asked member := by
    have listed : asked ∈ registers.map tap := split ▸ List.mem_append_right before member
    obtain ⟨marks, -, rfl⟩ := List.mem_map.mp listed
    show "" ≠ "k1"
    decide
  present := present

/-- A mark made at once and the same mark made after a correction cost the same. -/
theorem balance_of_corrected_tap :
    let once := [[("k1", AttendanceStatus.present)]].map tap
    let corrected := [[("k1", AttendanceStatus.absentExcused)],
      [("k1", AttendanceStatus.present)]].map tap
    (pairLesson.after .plain once).db.ledger "k1" = pairLesson.db.ledger "k1" ∧
      (pairLesson.after .plain once).db.balance "k1" =
        (pairLesson.after .plain corrected).db.balance "k1" ∧
      ((Request.command "" (.removeGrade "")).serve .plain (.quiet "") pairLesson).world.db.balance
        "k1" = pairLesson.db.balance "k1" := by
  intro once corrected
  have first : LedgerRun .plain pairLesson "k1" once := tap_ledgerRun (by decide)
  have second : LedgerRun .plain pairLesson "k1" corrected := tap_ledgerRun (by decide)
  have register : (pairLesson.after .plain once).db.attendances =
      (pairLesson.after .plain corrected).db.attendances := by decide
  have reached : Reachable .plain pairLesson := .after .plain .refl _
  have books := balance_follows_register reached "k1"
  refine ⟨books.1 once first, books.2.1 once corrected first second fun lessonId => ?_, ?_⟩
  · rw [Db.markOf, register, Db.markOf]
  · exact (books.2.2 (.quiet "") (.command "" (.removeGrade "")) .unauthorized rfl).1

/-- What happened to people is still on record: every register row as it was, every mark
except that it may have lost its lesson, and every student's ledger. -/
structure Db.KeepsHistory (db next : Db) : Prop where
  attendances : next.attendances = db.attendances
  grades : List.Forall₂ (fun grade kept : Grade => kept = grade ∨ kept = { grade with lessonId := none })
    db.grades.rows next.grades.rows
  ledger : ∀ studentId, next.ledger studentId = db.ledger studentId

/-- Whether the register of any of a group's lessons was written up. -/
def Db.GroupRegister (db : Db) (groupId : Id) : Prop :=
  ∃ row ∈ db.attendances.rows, ∃ lesson, db.lessons.find row.lessonId = some lesson ∧
    lesson.groupId = some groupId

section

variable {db next : Db} {groupId : Id}

theorem Db.deleteGroup_grades (done : db.deleteGroup groupId = .ok next) :
    List.Forall₂ (fun grade kept : Grade => kept = grade ∨ kept = { grade with lessonId := none })
      db.grades.rows next.grades.rows := by
  rw [← (deleteGroup_ok.mp done).2]
  show List.Forall₂ _ db.grades.rows (db.grades.rows.map _)
  rw [List.forall₂_map_right_iff, List.forall₂_same]
  intro grade _
  split
  · exact .inr rfl
  · exact .inl rfl

theorem Db.deleteGroup_balance (done : db.deleteGroup groupId = .ok next) (studentId : Id) :
    next.balance studentId = db.balance studentId := by
  rw [← (deleteGroup_ok.mp done).2]
  rfl

/-- Register rows reach a group through their lesson, whichever student they name. -/
theorem Db.deleteGroup_attendances (done : db.deleteGroup groupId = .ok next) :
    next.attendances = db.attendances ↔ ¬ db.GroupRegister groupId := by
  have kept : next.attendances = db.attendances.delete fun row =>
      db.lessonGone (fun lesson => lesson.groupId == some groupId) row.lessonId := by
    rw [← (deleteGroup_ok.mp done).2]
    rfl
  rw [kept, Table.delete_eq_self]
  simp only [GroupRegister, lessonGone, not_exists, not_and]
  constructor
  · intro untouched row member lesson found named
    have outside := untouched row member
    rw [found, Option.any_some, named, beq_self_eq_true] at outside
    cases outside
  · intro untouched row member
    cases found : db.lessons.find row.lessonId with
    | none => rfl
    | some lesson => simpa using untouched row member lesson found

/-- Attendance does not survive the removal of a group its lesson was given to: history is
kept exactly when no register of the group's lessons was written up. -/
theorem removed_group_keeps_history {user : User} {group : Group}
    (own : GroupsService.findOne user groupId db = .ok group) :
    ∃ next, GroupsService.remove user groupId db = .ok next ∧
      (db.KeepsHistory next ↔ ¬ db.GroupRegister groupId) := by
  obtain ⟨found, -⟩ := (GroupsService.findOne_ok user).mp own
  obtain rfl : group.id = groupId := (Table.find_eq_some.mp found).2
  have present : db.hasGroup group.id = true := by rw [Db.hasGroup, found, Option.isSome_some]
  obtain ⟨next, deleted⟩ : ∃ next, db.deleteGroup group.id = .ok next := by
    simp only [Db.deleteGroup, bind_ok, require_ok, pure_ok, present, exists_const, true_and,
      exists_eq']
  refine ⟨next, by rw [GroupsService.remove, own, ok_bind, deleted], ?_⟩
  constructor
  · intro keeps
    exact (Db.deleteGroup_attendances deleted).mp keeps.attendances
  · intro unwritten
    have attendances := (Db.deleteGroup_attendances deleted).mpr unwritten
    refine ⟨attendances, Db.deleteGroup_grades deleted, fun studentId => ?_⟩
    rw [Db.ledger, Db.ledger, Db.deleteGroup_balance deleted, Db.charges, attendances, Db.charges]

end

/-- The pair's group, removed before their lesson is written up. -/
theorem removed_pair_keeps_history :
    ∃ next, GroupsService.remove foxAdmin "g1" pairLesson.db = .ok next ∧
      (pairLesson.db.KeepsHistory next ↔ ¬ pairLesson.db.GroupRegister "g1") := by
  obtain ⟨group, own⟩ : ∃ group, GroupsService.findOne foxAdmin "g1" pairLesson.db = .ok group :=
    exists_of_isOk (by decide)
  exact removed_group_keeps_history own

/-- Removed after one of the pair was marked present, the group takes the mark along, and with
it a lesson that was paid for. -/
theorem removed_pair_loses_mark :
    Reachable .plain oneTap ∧ ∃ next, GroupsService.remove foxAdmin "g1" oneTap.db = .ok next ∧
      oneTap.db.markOf ("l1", "k1") = some .present ∧ next.markOf ("l1", "k1") = none ∧
      oneTap.db.ledger "k1" = 5 ∧ next.ledger "k1" = 4 ∧ ¬ oneTap.db.KeepsHistory next := by
  refine ⟨(Reachable.after .plain .refl _).after .plain _, ?_⟩
  have gone : (GroupsService.remove foxAdmin "g1" oneTap.db).map (fun next =>
      (next.markOf ("l1", "k1"), next.ledger "k1")) = .ok (none, 4) := by decide
  obtain ⟨next, removed, left⟩ := map_ok.mp gone
  rw [Prod.mk.injEq] at left
  have before : oneTap.db.ledger "k1" = 5 := by decide
  refine ⟨next, removed, by decide, left.1, before, left.2, fun keeps => ?_⟩
  have same := keeps.ledger "k1"
  rw [left.2, before] at same
  omega

end TutorApp
