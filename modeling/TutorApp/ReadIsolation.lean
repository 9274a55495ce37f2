import TutorApp.TenantIsolation

set_option autoImplicit false

namespace TutorApp

open Relational
open TenantOwnership

namespace Db

/-- Whether all references of a row lead to the school. -/
def belongsTo (db : Db) (schoolId : Id) (row : Row) : Bool :=
  row.refs.all fun ref => db.home ref == some schoolId

theorem belongsTo_iff {db : Db} {schoolId : Id} {row : Row} :
    db.belongsTo schoolId row = true ↔ db.Belongs schoolId row := by
  simp only [belongsTo, List.all_eq_true, beq_iff_eq]
  rfl

/-- The rows of one school, directly or through their parents, and nothing else. -/
def restrict (db : Db) (schoolId : Id) : Db := db.filter (db.belongsTo schoolId)

end Db

namespace Slot

variable {ρ : Type} [Keyed ρ Id] (slot : Slot ρ) {db : Db} {schoolId id : Id}

/-- A check no row of another school passes is made on the school's rows alone. -/
theorem filter_restrict (self : ∀ row, Ref.school (slot.column row) ∈ (slot.row row).refs)
    (tenanted : db.Tenanted) (id : Id) (check : ρ → Bool)
    (narrow : ∀ row, check row = true → slot.column row = schoolId) :
    (((slot.get db).restrict fun row => db.belongsTo schoolId (slot.row row)).find id).filter check =
      ((slot.get db).find id).filter check := by
  rw [Table.find_restrict, Option.filter_filter]
  cases found : (slot.get db).find id with
  | none => rfl
  | some row =>
      simp only [Option.filter_some]
      by_cases passes : check row = true
      · have present := (slot.holds_get db row).mpr (Table.find_eq_some.mp found).1
        have belongs := Db.Tenanted.belongs_own tenanted _ present (self row)
        rw [narrow row passes] at belongs
        simp only [passes, Db.belongsTo_iff.mpr belongs, Bool.and_self]
      · simp only [passes, Bool.and_false]

/-- A lookup where a reference into the school leads is answered from the school's rows. -/
theorem find_restrict {ref : Ref} (self : ∀ row, Ref.school (slot.column row) ∈ (slot.row row).refs)
    (tenanted : db.Tenanted) (asked : slot.refKey ref = some id)
    (home : db.home ref = some schoolId) :
    ((slot.get db).restrict fun row => db.belongsTo schoolId (slot.row row)).find id =
      (slot.get db).find id := by
  rw [Table.find_restrict]
  cases found : (slot.get db).find id with
  | none => rfl
  | some row =>
      have present := (slot.holds_get db row).mpr (Table.find_eq_some.mp found).1
      have belongs := Db.Tenanted.belongs_own tenanted _ present (self row)
      rw [Db.home_of_find _ _ asked found, Option.some.injEq] at home
      exact Option.filter_some_pos (Db.belongsTo_iff.mpr (home ▸ belongs))

end Slot

namespace Db

variable {platform : Platform} {db : Db} {schoolId id : Id}

theorem find_user_restrict (tenanted : db.Tenanted) (home : db.home (.user id) = some schoolId) :
    (db.restrict schoolId).users.find id = db.users.find id :=
  Slot.users.find_restrict (fun _ => List.mem_cons_self) tenanted rfl home

theorem find_subject_restrict (tenanted : db.Tenanted)
    (home : db.home (.subject id) = some schoolId) :
    (db.restrict schoolId).subjects.find id = db.subjects.find id :=
  Slot.subjects.find_restrict (fun _ => List.mem_cons_self) tenanted rfl home

theorem find_student_restrict (tenanted : db.Tenanted)
    (home : db.home (.student id) = some schoolId) :
    (db.restrict schoolId).students.find id = db.students.find id :=
  Slot.students.find_restrict (fun _ => List.mem_cons_self) tenanted rfl home

theorem find_group_restrict (tenanted : db.Tenanted)
    (home : db.home (.group id) = some schoolId) :
    (db.restrict schoolId).groups.find id = db.groups.find id :=
  Slot.groups.find_restrict (fun _ => List.mem_cons_self) tenanted rfl home

theorem find_lesson_restrict (tenanted : db.Tenanted)
    (home : db.home (.lesson id) = some schoolId) :
    (db.restrict schoolId).lessons.find id = db.lessons.find id :=
  Slot.lessons.find_restrict (fun _ => List.mem_cons_self) tenanted rfl home

theorem subjectRef_restrict (tenanted : db.Tenanted) {subjectId : Option Id}
    (homes : ∀ id ∈ subjectId, db.home (.subject id) = some schoolId) :
    (db.restrict schoolId).subjectRef subjectId = db.subjectRef subjectId := by
  cases subjectId with
  | none => rfl
  | some id =>
      simp only [subjectRef, Option.bind_some, find_subject_restrict tenanted (homes id rfl)]

theorem authorRef_restrict (tenanted : db.Tenanted) (home : db.home (.user id) = some schoolId) :
    (db.restrict schoolId).authorRef id = db.authorRef id := by
  simp only [authorRef, find_user_restrict tenanted home]

theorem studentView_restrict {student : Student} (tenanted : db.Tenanted)
    (belongs : db.Belongs schoolId (.student student)) :
    (db.restrict schoolId).studentView student = db.studentView student := by
  simp only [studentView, subjectRef_restrict tenanted (belongs_student.mp belongs).2.2]

/-- A membership of a student of the school is one of its rows. -/
theorem isMember_restrict {groupId studentId : Id} (tenanted : db.Tenanted)
    (home : db.home (.student studentId) = some schoolId) :
    (db.restrict schoolId).isMember groupId studentId = db.isMember groupId studentId := by
  simp only [isMember, restrict, filter, Table.find_restrict]
  cases found : db.members.find (groupId, studentId) with
  | none => rfl
  | some row =>
      obtain ⟨present, same⟩ := Table.find_eq_some.mp found
      have named : row.studentId = studentId := congrArg Prod.snd same
      have belongs : db.Belongs schoolId (.member row) :=
        Tenanted.belongs_via tenanted _ present (List.mem_cons_of_mem _ List.mem_cons_self)
          (named ▸ home)
      exact congrArg Option.isSome (Option.filter_some_pos (belongsTo_iff.mpr belongs))

theorem members_restrict {groupId : Id} (tenanted : db.Tenanted)
    (home : db.home (.group groupId) = some schoolId) :
    (db.restrict schoolId).members.select (fun row => row.groupId == groupId) =
      db.members.select fun row => row.groupId == groupId :=
  Table.select_restrict fun _ member selected => belongsTo_iff.mpr
    (Tenanted.belongs_via tenanted _ member List.mem_cons_self (beq_iff_eq.mp selected ▸ home))

theorem member_homes {groupId : Id} (tenanted : db.Tenanted)
    (home : db.home (.group groupId) = some schoolId) {row : GroupMember}
    (listed : row ∈ db.members.select fun row => row.groupId == groupId) :
    db.home (.student row.studentId) = some schoolId := by
  obtain ⟨present, selected⟩ := Table.mem_select.mp listed
  have belongs : db.Belongs schoolId (.member row) :=
    Tenanted.belongs_via tenanted _ present List.mem_cons_self (beq_iff_eq.mp selected ▸ home)
  exact (belongs_member.mp belongs).2

theorem membersOf_restrict {groupId : Id} (tenanted : db.Tenanted)
    (home : db.home (.group groupId) = some schoolId) :
    (db.restrict schoolId).membersOf platform groupId = db.membersOf platform groupId := by
  simp only [membersOf, members_restrict tenanted home]
  congr 1
  apply List.filterMap_congr
  intro row listed
  exact find_student_restrict tenanted (member_homes tenanted home listed)

/-- The students of a group of the school are the school's. -/
theorem membersOf_belongs {groupId : Id} (tenanted : db.Tenanted)
    (home : db.home (.group groupId) = some schoolId) {student : Student}
    (member : student ∈ db.membersOf platform groupId) :
    db.Belongs schoolId (.student student) := by
  rw [membersOf, mem_sortByText, List.mem_filterMap] at member
  obtain ⟨row, listed, found⟩ := member
  have ofSchool := member_homes tenanted home listed
  exact owned_of_home Slot.students tenanted rfl ofSchool List.mem_cons_self
    (Table.find_eq_some.mp found).1 (decide_eq_true (Table.find_eq_some.mp found).2)

/-- A row found under an id that leads into the school belongs to it. -/
theorem group_belongs {group : Group} (tenanted : db.Tenanted) (member : group ∈ db.groups.rows)
    (home : db.home (.group group.id) = some schoolId) : db.Belongs schoolId (.group group) :=
  owned_of_home Slot.groups tenanted rfl home List.mem_cons_self member
    (decide_eq_true rfl)

theorem groupView_restrict {group : Group} (tenanted : db.Tenanted)
    (belongs : db.Belongs schoolId (.group group))
    (home : db.home (.group group.id) = some schoolId) :
    (db.restrict schoolId).groupView platform group = db.groupView platform group := by
  simp only [groupView, subjectRef_restrict tenanted (belongs_group.mp belongs).2.2,
    membersOf_restrict tenanted home, GroupView.mk.injEq, true_and]
  apply List.map_congr_left
  intro student member
  have ofSchool := belongs_student.mp (membersOf_belongs tenanted home member)
  rw [subjectRef_restrict tenanted ofSchool.2.2]

theorem lessonView_restrict {lesson : Lesson} (tenanted : db.Tenanted)
    (belongs : db.Belongs schoolId (.lesson lesson)) :
    (db.restrict schoolId).lessonView platform lesson = db.lessonView platform lesson := by
  obtain ⟨-, -, subject, student, group⟩ := belongs_lesson.mp belongs
  have students : lesson.studentId.bind (db.restrict schoolId).students.find =
      lesson.studentId.bind db.students.find := by
    cases named : lesson.studentId with
    | none => rfl
    | some id => exact find_student_restrict tenanted (student id named)
  have groups : lesson.groupId.bind (db.restrict schoolId).groups.find =
      lesson.groupId.bind db.groups.find := by
    cases named : lesson.groupId with
    | none => rfl
    | some id => exact find_group_restrict tenanted (group id named)
  simp only [lessonView, subjectRef_restrict tenanted subject, students, groups,
    LessonView.mk.injEq, true_and]
  apply Option.map_congr
  intro row found
  obtain ⟨id, named, lookup⟩ := Option.bind_eq_some_iff.mp found
  obtain ⟨present, same⟩ := Table.find_eq_some.mp lookup
  have home : db.home (.group row.id) = some schoolId := by
    rw [show row.id = id from same]
    exact group id named
  have ofSchool := belongs_group.mp (group_belongs tenanted present home)
  rw [subjectRef_restrict tenanted ofSchool.2.2, membersOf_restrict tenanted home]

theorem gradeView_restrict {grade : Grade} (tenanted : db.Tenanted)
    (belongs : db.Belongs schoolId (.grade grade)) :
    (db.restrict schoolId).gradeView grade = db.gradeView grade := by
  simp only [gradeView, authorRef_restrict tenanted (belongs_grade.mp belongs).2.1]

theorem noteView_restrict {note : Note} (tenanted : db.Tenanted)
    (belongs : db.Belongs schoolId (.note note)) :
    (db.restrict schoolId).noteView note = db.noteView note := by
  simp only [noteView, authorRef_restrict tenanted (belongs_note.mp belongs).1]

end Db

section

variable {platform : Platform} {user : User} {draw : Draw} {db : Db} {id : Id}

theorem SubjectsService.findOne_restrict (tenanted : db.Tenanted) :
    findOne user id (db.restrict user.schoolId) = findOne user id db := by
  have same := Slot.subjects.filter_restrict (fun _ => List.mem_cons_self) tenanted id
    (fun row => row.schoolId == user.schoolId) fun _ passes => beq_iff_eq.mp passes
  exact congrArg (orNotFound · "Subject not found") same

theorem StudentsService.findOne_restrict (tenanted : db.Tenanted) :
    findOne user id (db.restrict user.schoolId) = findOne user id db := by
  have same := Slot.students.filter_restrict (fun _ => List.mem_cons_self) tenanted id
    (fun row => row.schoolId == user.schoolId) fun _ passes => beq_iff_eq.mp passes
  exact congrArg (fun found => orNotFound found "Student not found" >>= _) same

theorem GroupsService.findOne_restrict (tenanted : db.Tenanted) :
    findOne user id (db.restrict user.schoolId) = findOne user id db := by
  have same := Slot.groups.filter_restrict (fun _ => List.mem_cons_self) tenanted id
    (fun row => user.owns row.schoolId row.tutorId) fun _ passes => User.owns_school passes
  exact congrArg (orNotFound · "Group not found") same

theorem LessonsService.findReachable_restrict (tenanted : db.Tenanted) :
    findReachable user id (db.restrict user.schoolId) = findReachable user id db := by
  have same := Slot.lessons.filter_restrict (fun _ => List.mem_cons_self) tenanted id
    (fun row => user.owns row.schoolId row.tutorId) fun _ passes => User.owns_school passes
  exact congrArg (orNotFound · "Lesson not found") same

theorem SubjectsService.list_restrict {includeHidden : Bool} (tenanted : db.Tenanted) :
    list platform user includeHidden (db.restrict user.schoolId) =
      list platform user includeHidden db := by
  have same : (db.restrict user.schoolId).subjects.select (fun row =>
      row.schoolId == user.schoolId && (includeHidden || row.hiddenAt.isNone)) =
      db.subjects.select _ := Table.select_restrict fun row member selected =>
    Db.belongsTo_iff.mpr (by
      simp only [Bool.and_eq_true, beq_iff_eq] at selected
      exact selected.1 ▸ Db.Tenanted.belongs_own tenanted (.subject row) member
        List.mem_cons_self)
  exact congrArg (sortByText platform Subject.name) same

theorem SubjectsService.usage_restrict (tenanted : db.Tenanted) :
    usage platform user draw id (db.restrict user.schoolId) = usage platform user draw id db := by
  simp only [usage, findOne_restrict tenanted]
  apply bind_congr_ok
  intro subject found
  have home := findOne_home found
  have students : (db.restrict user.schoolId).students.select
      (fun row => row.subjectId == some subject.id) = db.students.select _ :=
    Table.select_restrict fun row member selected => Db.belongsTo_iff.mpr
      (Db.Tenanted.belongs_via tenanted _ member
        (by simp [Row.refs, beq_iff_eq.mp selected]) home)
  have groups : (db.restrict user.schoolId).groups.select
      (fun row => row.subjectId == some subject.id) = db.groups.select _ :=
    Table.select_restrict fun row member selected => Db.belongsTo_iff.mpr
      (Db.Tenanted.belongs_via tenanted _ member
        (by simp [Row.refs, beq_iff_eq.mp selected]) home)
  have lessons : ∀ hit : Lesson → Bool,
      (∀ row, hit row = true → row.subjectId = some subject.id) →
      (db.restrict user.schoolId).lessons.select hit = db.lessons.select hit := fun hit names =>
    Table.select_restrict fun row member selected => Db.belongsTo_iff.mpr
      (Db.Tenanted.belongs_via tenanted _ member
        (by simp [Row.refs, names row selected]) home)
  rw [students, groups, lessons _ (by simp +contextual), lessons _ (by simp +contextual)]

theorem StudentsService.findVisible_restrict (tenanted : db.Tenanted) :
    findVisible platform user (db.restrict user.schoolId) = findVisible platform user db := by
  have owned : ∀ row ∈ db.students.rows, user.owns row.schoolId row.tutorId = true →
      db.Belongs user.schoolId (.student row) := fun row member selected =>
    User.owns_school selected ▸ Db.Tenanted.belongs_own tenanted (.student row) member
      List.mem_cons_self
  have same : (db.restrict user.schoolId).students.select
      (fun row => user.owns row.schoolId row.tutorId) = db.students.select _ :=
    Table.select_restrict fun row member selected =>
      Db.belongsTo_iff.mpr (owned row member selected)
  simp only [findVisible, same]
  apply List.map_congr_left
  intro row listed
  obtain ⟨member, selected⟩ := Table.mem_select.mp (mem_sortByText.mp listed)
  exact Db.studentView_restrict tenanted (owned row member selected)

theorem GroupsService.findVisible_restrict (tenanted : db.Tenanted) :
    findVisible platform user (db.restrict user.schoolId) = findVisible platform user db := by
  have owned : ∀ row ∈ db.groups.rows, user.owns row.schoolId row.tutorId = true →
      db.Belongs user.schoolId (.group row) := fun row member selected =>
    User.owns_school selected ▸ Db.Tenanted.belongs_own tenanted (.group row) member
      List.mem_cons_self
  have same : (db.restrict user.schoolId).groups.select
      (fun row => user.owns row.schoolId row.tutorId) = db.groups.select _ :=
    Table.select_restrict fun row member selected =>
      Db.belongsTo_iff.mpr (owned row member selected)
  simp only [findVisible, same]
  apply List.map_congr_left
  intro row listed
  obtain ⟨member, selected⟩ := Table.mem_select.mp (mem_sortByText.mp listed)
  refine Db.groupView_restrict tenanted (owned row member selected) ?_
  rw [← User.owns_school selected]
  exact Db.home_of_find Slot.groups _ rfl (Table.find_key member)

theorem GroupsService.detail_restrict (tenanted : db.Tenanted) :
    detail platform user id (db.restrict user.schoolId) = detail platform user id db := by
  simp only [detail, findOne_restrict tenanted]
  apply bind_congr_ok
  intro group found
  have home := findOne_home found
  have member := (Table.find_eq_some.mp ((findOne_ok user).mp found).1).1
  rw [Db.groupView_restrict tenanted (Db.group_belongs tenanted member home) home]

theorem LessonsService.lesson_belongs {row : Lesson} (tenanted : db.Tenanted)
    (member : row ∈ db.lessons.rows) : db.Belongs row.schoolId (.lesson row) :=
  Db.Tenanted.belongs_own tenanted (.lesson row) member List.mem_cons_self

theorem LessonsService.lesson_home {row : Lesson} {schoolId : Id} (member : row ∈ db.lessons.rows)
    (belongs : db.Belongs schoolId (.lesson row)) :
    db.home (.lesson row.id) = some schoolId := by
  rw [Db.home_of_find Slot.lessons (.lesson row.id) rfl (Table.find_key member)]
  exact congrArg some (Db.home_school.mp (Db.belongs_lesson.mp belongs).1).1

theorem LessonsService.listed_restrict {keep : Lesson → Bool} (tenanted : db.Tenanted)
    (narrow : ∀ row, keep row = true → row.schoolId = user.schoolId) :
    listed platform keep (db.restrict user.schoolId) = listed platform keep db := by
  have owned : ∀ row ∈ db.lessons.rows, keep row = true →
      db.Belongs user.schoolId (.lesson row) := fun row member selected =>
    narrow row selected ▸ lesson_belongs tenanted member
  have same : (db.restrict user.schoolId).lessons.select keep = db.lessons.select keep :=
    Table.select_restrict fun row member selected =>
      Db.belongsTo_iff.mpr (owned row member selected)
  simp only [listed, same]
  apply List.map_congr_left
  intro row member
  obtain ⟨present, selected⟩ := Table.mem_select.mp (mem_sortByTime.mp member)
  exact Db.lessonView_restrict tenanted (owned row present selected)

theorem LessonsService.findInRange_restrict {query : ListLessonsQueryDto} (tenanted : db.Tenanted) :
    findInRange platform user draw query (db.restrict user.schoolId) =
      findInRange platform user draw query db := by
  have narrow : ∀ tutors start stop row, inWindow user tutors start stop row = true →
      row.schoolId = user.schoolId := by
    intro tutors start stop row selected
    simp only [inWindow, Bool.and_eq_true, beq_iff_eq] at selected
    exact selected.1.1.1
  simp only [findInRange, listed_restrict tenanted (narrow _ _ _)]

/-- The lessons of a student of the school, alone or in a group, are the school's. -/
theorem LessonsService.taught_belongs {row : Lesson} {studentId schoolId : Id}
    (tenanted : db.Tenanted) (home : db.home (.student studentId) = some schoolId)
    (member : row ∈ db.lessons.rows)
    (taught : (row.studentId == some studentId ||
      row.groupId.any fun group => db.isMember group studentId) = true) :
    db.Belongs schoolId (.lesson row) := by
  rcases Bool.or_eq_true_iff.mp taught with alone | inGroup
  · exact Db.Tenanted.belongs_via tenanted _ member (by simp [Row.refs, beq_iff_eq.mp alone]) home
  · obtain ⟨groupId, named, enrolled⟩ := (Option.any_eq_true _ _).mp inGroup
    obtain ⟨seat, found⟩ := Option.isSome_iff_exists.mp enrolled
    obtain ⟨present, same⟩ := Table.find_eq_some.mp found
    obtain ⟨ofGroup, ofStudent⟩ := Prod.mk.inj same
    have belongs : db.Belongs schoolId (.member seat) :=
      Db.Tenanted.belongs_via tenanted _ present (List.mem_cons_of_mem _ List.mem_cons_self)
        (ofStudent ▸ home)
    exact Db.Tenanted.belongs_via tenanted _ member (by simp [Row.refs, named])
      (ofGroup ▸ (Db.belongs_member.mp belongs).1)

theorem LessonsService.taught_restrict {studentId schoolId : Id} (tenanted : db.Tenanted)
    (home : db.home (.student studentId) = some schoolId) :
    (db.restrict schoolId).lessons.select (fun row => row.studentId == some studentId ||
        row.groupId.any fun group => (db.restrict schoolId).isMember group studentId) =
      db.lessons.select fun row => row.studentId == some studentId ||
        row.groupId.any fun group => db.isMember group studentId :=
  Table.select_restrict_congr
    (fun _ member taught => Db.belongsTo_iff.mpr (taught_belongs tenanted home member taught))
    fun _ _ _ => by simp only [Db.isMember_restrict tenanted home]

theorem LessonsService.findForStudent_restrict {limit : Nat} (tenanted : db.Tenanted) :
    findForStudent platform user id limit (db.restrict user.schoolId) =
      findForStudent platform user id limit db := by
  simp only [findForStudent, StudentsService.findOne_restrict tenanted]
  apply bind_congr_ok
  intro student found
  have home := StudentsService.findOne_home found
  rw [taught_restrict tenanted home]
  congr 1
  apply List.map_congr_left
  intro row member
  obtain ⟨present, taught⟩ :=
    Table.mem_select.mp (mem_sortByTimeDesc.mp (List.mem_of_mem_take member))
  have belongs := taught_belongs tenanted home present taught
  have ofLesson := lesson_home present belongs
  have notes : (db.restrict user.schoolId).notes.select (fun note => note.lessonId == some row.id) =
      db.notes.select _ := Table.select_restrict fun note member selected =>
    Db.belongsTo_iff.mpr (Db.Tenanted.belongs_via tenanted _ member
      (Db.note_lesson_ref.mpr (beq_iff_eq.mp selected)) ofLesson)
  have marks : (db.restrict user.schoolId).attendances.select
      (fun mark => mark.lessonId == row.id && mark.studentId == student.id) =
      db.attendances.select _ := Table.select_restrict fun mark member selected =>
    Db.belongsTo_iff.mpr (Db.Tenanted.belongs_via tenanted (.attendance mark) member
      List.mem_cons_self (by
        simp only [Bool.and_eq_true, beq_iff_eq] at selected
        exact selected.1 ▸ ofLesson))
  rw [Db.lessonView_restrict tenanted belongs, notes, marks]

/-- The register rows of a lesson of the school are the school's. -/
theorem GradebookService.register_restrict {lessonId schoolId : Id} (tenanted : db.Tenanted)
    (home : db.home (.lesson lessonId) = some schoolId) :
    (db.restrict schoolId).attendances.select (fun row => row.lessonId == lessonId) =
      db.attendances.select fun row => row.lessonId == lessonId :=
  Table.select_restrict fun row member selected => Db.belongsTo_iff.mpr
    (Db.Tenanted.belongs_via tenanted (.attendance row) member List.mem_cons_self
      (beq_iff_eq.mp selected ▸ home))

theorem GradebookService.registerFor_restrict (tenanted : db.Tenanted) :
    registerFor platform user id (db.restrict user.schoolId) = registerFor platform user id db := by
  simp only [registerFor, LessonsService.findReachable_restrict tenanted]
  apply bind_congr_ok
  intro lesson found
  have home := LessonsService.findReachable_home found
  rw [register_restrict tenanted home]
  congr 2
  apply List.map_congr_left
  intro row listed
  obtain ⟨member, selected⟩ := Table.mem_select.mp listed
  have belongs : db.Belongs user.schoolId (.attendance row) :=
    Db.Tenanted.belongs_via tenanted _ member List.mem_cons_self (beq_iff_eq.mp selected ▸ home)
  rw [Db.find_student_restrict tenanted (Db.belongs_attendance.mp belongs).2]

/-- Marks picked out by a reference into the school, as they are listed. -/
theorem GradebookService.grades_restrict {hit : Grade → Bool} {schoolId : Id}
    (tenanted : db.Tenanted) (owned : ∀ row ∈ db.grades.rows, hit row = true →
      db.Belongs schoolId (.grade row)) :
    (sortByTimeDesc Grade.createdAt ((db.restrict schoolId).grades.select hit)).map
        (db.restrict schoolId).gradeView =
      (sortByTimeDesc Grade.createdAt (db.grades.select hit)).map db.gradeView := by
  have same : (db.restrict schoolId).grades.select hit = db.grades.select hit :=
    Table.select_restrict fun row member selected =>
      Db.belongsTo_iff.mpr (owned row member selected)
  rw [same]
  apply List.map_congr_left
  intro row listed
  obtain ⟨member, selected⟩ := Table.mem_select.mp (mem_sortByTimeDesc.mp listed)
  exact Db.gradeView_restrict tenanted (owned row member selected)

theorem GradebookService.listForStudent_restrict (tenanted : db.Tenanted) :
    listForStudent user id (db.restrict user.schoolId) = listForStudent user id db := by
  simp only [listForStudent, StudentsService.findOne_restrict tenanted]
  apply bind_congr_ok
  intro student found
  rw [grades_restrict tenanted fun row member selected => Db.Tenanted.belongs_via tenanted _ member
    List.mem_cons_self (beq_iff_eq.mp selected ▸ StudentsService.findOne_home found)]

theorem GradebookService.listForLesson_restrict (tenanted : db.Tenanted) :
    listForLesson user id (db.restrict user.schoolId) = listForLesson user id db := by
  simp only [listForLesson, LessonsService.findReachable_restrict tenanted]
  apply bind_congr_ok
  intro lesson found
  rw [grades_restrict tenanted fun row member selected => Db.Tenanted.belongs_via tenanted _ member
    (by simp [Row.refs, beq_iff_eq.mp selected]) (LessonsService.findReachable_home found)]

theorem GradebookService.progressForStudent_restrict (tenanted : db.Tenanted) :
    progressForStudent user id (db.restrict user.schoolId) = progressForStudent user id db := by
  simp only [progressForStudent, StudentsService.findOne_restrict tenanted]
  apply bind_congr_ok
  intro student found
  have home := StudentsService.findOne_home found
  have grades : (db.restrict user.schoolId).grades.select
      (fun row => row.studentId == student.id) = db.grades.select _ :=
    Table.select_restrict fun row member selected => Db.belongsTo_iff.mpr
      (Db.Tenanted.belongs_via tenanted (.grade row) member List.mem_cons_self
        (beq_iff_eq.mp selected ▸ home))
  have attendances : (db.restrict user.schoolId).attendances.select
      (fun row => row.studentId == student.id) = db.attendances.select _ :=
    Table.select_restrict fun row member selected => Db.belongsTo_iff.mpr
      (Db.Tenanted.belongs_via tenanted (.attendance row) member
        (List.mem_cons_of_mem _ List.mem_cons_self) (beq_iff_eq.mp selected ▸ home))
  rw [LessonsService.taught_restrict tenanted home, grades, attendances]

theorem NotesService.listed_restrict {hit : Note → Bool} {schoolId : Id} (tenanted : db.Tenanted)
    (owned : ∀ row ∈ db.notes.rows, hit row = true → db.Belongs schoolId (.note row)) :
    listed (db.restrict schoolId) hit = listed db hit := by
  have same : (db.restrict schoolId).notes.select hit = db.notes.select hit :=
    Table.select_restrict fun row member selected =>
      Db.belongsTo_iff.mpr (owned row member selected)
  simp only [listed, same]
  apply List.map_congr_left
  intro row member
  obtain ⟨present, selected⟩ := Table.mem_select.mp (mem_sortByTimeDesc.mp member)
  exact Db.noteView_restrict tenanted (owned row present selected)

theorem NotesService.listForStudent_restrict (tenanted : db.Tenanted) :
    listForStudent user id (db.restrict user.schoolId) = listForStudent user id db := by
  simp only [listForStudent, StudentsService.findOne_restrict tenanted]
  apply bind_congr_ok
  intro student found
  rw [listed_restrict tenanted fun row member selected => Db.Tenanted.belongs_via tenanted _ member
    (Db.note_student_ref.mpr (beq_iff_eq.mp selected)) (StudentsService.findOne_home found)]

theorem NotesService.listForLesson_restrict (tenanted : db.Tenanted) :
    listForLesson user id (db.restrict user.schoolId) = listForLesson user id db := by
  simp only [listForLesson, LessonsService.findReachable_restrict tenanted]
  apply bind_congr_ok
  intro lesson found
  rw [listed_restrict tenanted fun row member selected => Db.Tenanted.belongs_via tenanted _ member
    (Db.note_lesson_ref.mpr (beq_iff_eq.mp selected)) (LessonsService.findReachable_home found)]

theorem FilesService.listed_restrict {hit : File → Bool} {schoolId : Id}
    (owned : ∀ row ∈ db.files.rows, hit row = true → db.Belongs schoolId (.file row)) :
    listed (db.restrict schoolId) hit = listed db hit :=
  congrArg (sortByTimeDesc File.createdAt) (Table.select_restrict fun row member selected =>
    Db.belongsTo_iff.mpr (owned row member selected))

theorem FilesService.listForStudent_restrict (tenanted : db.Tenanted) :
    listForStudent user id (db.restrict user.schoolId) = listForStudent user id db := by
  simp only [listForStudent, StudentsService.findOne_restrict tenanted]
  apply bind_congr_ok
  intro student found
  rw [listed_restrict fun row member selected => Db.Tenanted.belongs_via tenanted _ member
    (by simp [Row.refs, beq_iff_eq.mp selected]) (StudentsService.findOne_home found)]

theorem FilesService.listForLesson_restrict (tenanted : db.Tenanted) :
    listForLesson user id (db.restrict user.schoolId) = listForLesson user id db := by
  simp only [listForLesson, LessonsService.findReachable_restrict tenanted]
  apply bind_congr_ok
  intro lesson found
  rw [listed_restrict fun row member selected => Db.Tenanted.belongs_via tenanted _ member
    (by simp [Row.refs, beq_iff_eq.mp selected]) (LessonsService.findReachable_home found)]

theorem FilesService.listOwnLibrary_restrict (tenanted : db.Tenanted) :
    listOwnLibrary user (db.restrict user.schoolId) = listOwnLibrary user db := by
  refine listed_restrict fun row member selected => ?_
  simp only [Bool.and_eq_true, beq_iff_eq] at selected
  exact selected.1.1 ▸ Db.Tenanted.belongs_own tenanted (.file row) member List.mem_cons_self

/-- A column of a row found where a reference leads, on the school's rows alone. -/
theorem Db.schoolOfUser_restrict {schoolId userId : Id} (tenanted : db.Tenanted)
    (home : db.home (.user userId) = some schoolId) :
    (db.restrict schoolId).schoolOfUser userId = db.schoolOfUser userId := by
  simp only [Db.schoolOfUser, Db.find_user_restrict tenanted home]

theorem Db.users_restrict {schoolId : Id} {hit : User → Bool} (tenanted : db.Tenanted)
    (narrow : ∀ row, hit row = true → row.schoolId = schoolId) :
    (db.restrict schoolId).users.select hit = db.users.select hit :=
  Table.select_restrict fun row member selected => Db.belongsTo_iff.mpr
    (narrow row selected ▸ Db.Tenanted.belongs_own tenanted (.user row) member
      List.mem_cons_self)

theorem AddonsService.resolveFor_restrict (tenanted : db.Tenanted) (caller : db.Caller user) :
    resolveFor user (db.restrict user.schoolId) = resolveFor user db := by
  have same : (db.restrict user.schoolId).addons.select (fun row => row.userId == user.id) =
      db.addons.select _ := Table.select_restrict fun row member selected =>
    Db.belongsTo_iff.mpr (Db.Tenanted.belongs_via tenanted (.addon row) member
      List.mem_cons_self (beq_iff_eq.mp selected ▸ caller.home))
  simp only [resolveFor, same]

theorem AddonsService.mapForSchool_restrict {schoolId : Id} (tenanted : db.Tenanted) :
    mapForSchool schoolId (db.restrict schoolId) = mapForSchool schoolId db := by
  have members : (db.restrict schoolId).users.select (fun row => row.schoolId == schoolId) =
      db.users.select _ := Db.users_restrict tenanted fun _ selected => beq_iff_eq.mp selected
  have owned : ∀ row ∈ db.addons.rows, db.schoolOfUser row.userId = some schoolId →
      db.Belongs schoolId (.addon row) := fun row member home =>
    Db.Tenanted.belongs_via tenanted _ member List.mem_cons_self home
  have rows : (db.restrict schoolId).addons.select
      (fun row => (db.restrict schoolId).schoolOfUser row.userId == some schoolId) =
      db.addons.select fun row => db.schoolOfUser row.userId == some schoolId := by
    refine Table.select_restrict_congr (fun row member selected => ?_) fun row _ kept => ?_
    · exact Db.belongsTo_iff.mpr (owned row member (beq_iff_eq.mp selected))
    · rw [Db.schoolOfUser_restrict tenanted
        (Db.belongs_addon.mp (Db.belongsTo_iff.mp kept)).1]
  simp only [mapForSchool, members, rows]

theorem SchoolsService.listTutors_restrict (tenanted : db.Tenanted) :
    listTutors platform user (db.restrict user.schoolId) = listTutors platform user db := by
  have tutors : (db.restrict user.schoolId).users.select
      (fun row => row.schoolId == user.schoolId && row.role == .tutor) = db.users.select _ :=
    Db.users_restrict tenanted fun _ selected => by
      simp only [Bool.and_eq_true, beq_iff_eq] at selected
      exact selected.1
  simp only [listTutors, tutors, AddonsService.mapForSchool_restrict tenanted]

theorem SchoolsService.findCurrent_restrict (tenanted : db.Tenanted) (caller : db.Caller user) :
    findCurrent user (db.restrict user.schoolId) = findCurrent user db := by
  have same := Slot.schools.find_restrict (fun _ => List.mem_cons_self) tenanted rfl
    (caller.school tenanted)
  exact congrArg (orNotFound · "School not found") same

theorem InvitationsService.list_restrict (tenanted : db.Tenanted) :
    list platform user draw (db.restrict user.schoolId) = list platform user draw db := by
  have same : (db.restrict user.schoolId).invitations.select
      (fun row => row.schoolId == user.schoolId) = db.invitations.select _ :=
    Table.select_restrict fun row member selected => Db.belongsTo_iff.mpr
      (beq_iff_eq.mp selected ▸ Db.Tenanted.belongs_own tenanted (.invitation row) member
        List.mem_cons_self)
  simp only [list, same]

theorem MeetingAccountsService.connectionsFor_restrict (caller : db.Caller user) :
    connectionsFor user (db.restrict user.schoolId) = connectionsFor user db := by
  have same : (db.restrict user.schoolId).meetingAccounts.select
      (fun row => row.userId == user.id) = db.meetingAccounts.select _ :=
    Table.select_restrict fun row _ selected => Db.belongsTo_iff.mpr
      (Db.belongs_meetingAccount.mpr (beq_iff_eq.mp selected ▸ caller.home))
  simp only [connectionsFor, same]

theorem ReportsService.inScope_school {schoolId : Id} {tutorId : Option Id}
    {start stop : Js.Instant} {row : Lesson}
    (covered : inScope schoolId tutorId start stop row = true) : row.schoolId = schoolId := by
  simp only [inScope, Bool.and_eq_true, beq_iff_eq] at covered
  exact covered.1.1.1

theorem ReportsService.breakdown_congr {lessons : List Lesson}
    {keyOf other : Lesson → Option Id × Option String}
    (same : ∀ lesson ∈ lessons, keyOf lesson = other lesson) :
    breakdown lessons keyOf = breakdown lessons other := by
  have rows : lessons.foldl (fun rows lesson => addToBreakdown (keyOf lesson).1 (keyOf lesson).2
        lesson.durationMinutes rows) [] =
      lessons.foldl (fun rows lesson => addToBreakdown (other lesson).1 (other lesson).2
        lesson.durationMinutes rows) [] := by
    apply List.foldl_ext
    intro _ lesson member
    rw [same lesson member]
  simp only [breakdown, rows]

theorem ReportsService.countStudentsTaught_restrict {lessons : List Lesson} {schoolId : Id}
    (tenanted : db.Tenanted) (owned : ∀ row ∈ lessons, db.Belongs schoolId (.lesson row)) :
    countStudentsTaught lessons (db.restrict schoolId) = countStudentsTaught lessons db := by
  have members : (db.restrict schoolId).members.select
      (fun row => (lessons.filterMap Lesson.groupId).contains row.groupId) = db.members.select _ :=
    Table.select_restrict fun row member selected => by
      obtain ⟨lesson, taught, named⟩ := List.mem_filterMap.mp (List.contains_iff_mem.mp selected)
      obtain ⟨-, -, -, -, group⟩ := Db.belongs_lesson.mp (owned lesson taught)
      exact Db.belongsTo_iff.mpr (Db.Tenanted.belongs_via tenanted (.member row) member
        List.mem_cons_self (group _ named))
  simp only [countStudentsTaught, members]

theorem ReportsService.tutorBreakdown_restrict {lessons : List Lesson} (tenanted : db.Tenanted) :
    tutorBreakdown user lessons (db.restrict user.schoolId) = tutorBreakdown user lessons db := by
  have names : ((db.restrict user.schoolId).users.restrict
      fun row => row.schoolId == user.schoolId) =
      db.users.restrict fun row => row.schoolId == user.schoolId :=
    Table.ext (Db.users_restrict tenanted fun _ selected => beq_iff_eq.mp selected)
  simp only [tutorBreakdown, names]

/-- A lookup of a lesson and a check on its school, on the school's rows alone. -/
theorem ReportsService.covers_restrict {schoolId lessonId : Id} {covers : Lesson → Bool}
    (tenanted : db.Tenanted) (narrow : ∀ row, covers row = true → row.schoolId = schoolId) :
    ((db.restrict schoolId).lessons.find lessonId).any covers =
      (db.lessons.find lessonId).any covers := by
  have same := Slot.lessons.filter_restrict (fun _ => List.mem_cons_self) tenanted lessonId covers
    narrow
  rw [← Option.isSome_filter, ← Option.isSome_filter]
  exact congrArg Option.isSome same

/-- The register rows a report covers hang off lessons of the school. -/
theorem ReportsService.attendances_restrict {schoolId : Id} {covers : Lesson → Bool}
    (tenanted : db.Tenanted) (narrow : ∀ row, covers row = true → row.schoolId = schoolId) :
    (db.restrict schoolId).attendances.select (fun row =>
        ((db.restrict schoolId).lessons.find row.lessonId).any covers) =
      db.attendances.select fun row => (db.lessons.find row.lessonId).any covers := by
  refine Table.select_restrict_congr (fun row member covered => ?_) fun row _ _ => ?_
  · obtain ⟨lesson, found, inside⟩ := (Option.any_eq_true _ _).mp covered
    have home : db.home (.lesson row.lessonId) = some schoolId :=
      (Db.home_of_find Slot.lessons _ rfl found).trans (congrArg some (narrow _ inside))
    exact Db.belongsTo_iff.mpr (Db.Tenanted.belongs_via tenanted (.attendance row) member
      List.mem_cons_self home)
  · exact covers_restrict tenanted narrow

/-- The grades a report covers hang off students of the school. -/
theorem ReportsService.graded_restrict {schoolId : Id} {covers : Grade → Bool}
    (tenanted : db.Tenanted) :
    (db.restrict schoolId).grades.select (fun row =>
        (db.restrict schoolId).schoolOfGrade row == some schoolId && covers row) =
      db.grades.select fun row => db.schoolOfGrade row == some schoolId && covers row := by
  refine Table.select_restrict_congr (fun row member covered => ?_) fun row _ kept => ?_
  · rw [Bool.and_eq_true, beq_iff_eq] at covered
    exact Db.belongsTo_iff.mpr (Db.Tenanted.belongs_via tenanted (.grade row) member
      List.mem_cons_self covered.1)
  · have home := (Db.belongs_grade.mp (Db.belongsTo_iff.mp kept)).1
    simp only [Db.schoolOfGrade, Db.schoolOfStudent, Db.find_student_restrict tenanted home]

theorem ReportsService.summary_restrict {query : ReportQueryDto} (tenanted : db.Tenanted) :
    summary platform user draw query (db.restrict user.schoolId) =
      summary platform user draw query db := by
  simp only [summary]
  apply bind_congr_ok
  rintro ⟨fromDate, toDate⟩ -
  apply bind_congr_ok
  intro tutorId _
  apply bind_congr_ok
  intro start _
  apply bind_congr_ok
  intro stop _
  have narrow : ∀ row, inScope user.schoolId tutorId start stop row = true →
      row.schoolId = user.schoolId := fun _ => inScope_school
  have owned : ∀ row ∈ db.lessons.rows, inScope user.schoolId tutorId start stop row = true →
      db.Belongs user.schoolId (.lesson row) := fun row member covered =>
    narrow row covered ▸ LessonsService.lesson_belongs tenanted member
  have lessons : (db.restrict user.schoolId).lessons.select
      (inScope user.schoolId tutorId start stop) = db.lessons.select _ :=
    Table.select_restrict fun row member covered =>
      Db.belongsTo_iff.mpr (owned row member covered)
  simp only [lessons, attendances_restrict tenanted narrow, Bool.and_assoc,
    graded_restrict tenanted, tutorBreakdown_restrict tenanted]
  have covered : ∀ row ∈ db.lessons.select (inScope user.schoolId tutorId start stop),
      row ∈ db.lessons.rows ∧ db.Belongs user.schoolId (.lesson row) := by
    intro row listed
    obtain ⟨member, inside⟩ := Table.mem_select.mp listed
    exact ⟨member, owned row member inside⟩
  generalize db.lessons.select (inScope user.schoolId tutorId start stop) = listed at covered ⊢
  have unwritten : (listed.filter fun row => row.status == .completed).filter (fun lesson =>
      ((db.restrict user.schoolId).attendances.select
        fun row => row.lessonId == lesson.id).length == 0) =
      (listed.filter fun row => row.status == .completed).filter fun lesson =>
        (db.attendances.select fun row => row.lessonId == lesson.id).length == 0 := by
    apply List.filter_congr
    intro lesson member
    obtain ⟨present, belongs⟩ := covered lesson (List.mem_of_mem_filter member)
    rw [GradebookService.register_restrict tenanted (LessonsService.lesson_home present belongs)]
  have bySubject : breakdown (listed.filter fun row => row.status == .completed) (fun lesson =>
      (lesson.subjectId,
        ((db.restrict user.schoolId).subjectRef lesson.subjectId).map SubjectRef.name)) =
      breakdown (listed.filter fun row => row.status == .completed) fun lesson =>
        (lesson.subjectId, (db.subjectRef lesson.subjectId).map SubjectRef.name) := by
    apply breakdown_congr
    intro lesson member
    obtain ⟨-, belongs⟩ := covered lesson (List.mem_of_mem_filter member)
    rw [Db.subjectRef_restrict tenanted (Db.belongs_lesson.mp belongs).2.2.1]
  rw [countStudentsTaught_restrict tenanted fun row member => (covered row member).2, unwritten,
    bySubject]

/-- A membership of one of the school's students is one of the school's rows. -/
theorem DebtorsService.enrolled_belongs {ids : List Id} {schoolId : Id} (tenanted : db.Tenanted)
    (homes : ∀ id ∈ ids, db.home (.student id) = some schoolId) {member : GroupMember}
    (present : member ∈ db.members.rows) (listed : ids.contains member.studentId = true) :
    db.Belongs schoolId (.member member) :=
  Db.Tenanted.belongs_via tenanted (.member member) present
    (List.mem_cons_of_mem _ List.mem_cons_self) (homes _ (List.contains_iff_mem.mp listed))

theorem DebtorsService.enrolled_restrict {ids : List Id} {schoolId group : Id}
    (tenanted : db.Tenanted) (homes : ∀ id ∈ ids, db.home (.student id) = some schoolId) :
    (db.restrict schoolId).members.rows.any (fun member =>
        member.groupId == group && ids.contains member.studentId) =
      db.members.rows.any fun member =>
        member.groupId == group && ids.contains member.studentId :=
  Table.any_restrict fun _ present selected => Db.belongsTo_iff.mpr
    (enrolled_belongs tenanted homes present (Bool.and_eq_true_iff.mp selected).2)

/-- A lesson of a group one of the school's students is in is one of the school's. -/
theorem DebtorsService.shared_belongs {ids : List Id} {schoolId : Id} {row : Lesson}
    (tenanted : db.Tenanted) (homes : ∀ id ∈ ids, db.home (.student id) = some schoolId)
    (member : row ∈ db.lessons.rows)
    (shared : row.groupId.any (fun group => db.members.rows.any fun member =>
      member.groupId == group && ids.contains member.studentId) = true) :
    db.Belongs schoolId (.lesson row) := by
  obtain ⟨group, named, enrolled⟩ := (Option.any_eq_true _ _).mp shared
  obtain ⟨seat, present, selected⟩ := List.any_eq_true.mp enrolled
  obtain ⟨ofGroup, listed⟩ := Bool.and_eq_true_iff.mp selected
  have belongs := enrolled_belongs tenanted homes present listed
  exact Db.Tenanted.belongs_via tenanted _ member (by simp [Row.refs, named])
    (beq_iff_eq.mp ofGroup ▸ (Db.belongs_member.mp belongs).1)

theorem DebtorsService.bookedPerStudent_restrict {ids : List Id} {now : Js.Instant}
    {schoolId studentId : Id} (tenanted : db.Tenanted)
    (homes : ∀ id ∈ ids, db.home (.student id) = some schoolId) :
    bookedPerStudent ids now (db.restrict schoolId) studentId =
      bookedPerStudent ids now db studentId := by
  have own : ((db.restrict schoolId).lessons.select
      (fun row => row.status == .scheduled && now ≤ row.startsAt)).filter
        (fun row => row.studentId == some studentId && ids.contains studentId) =
      (db.lessons.select _).filter _ :=
    Table.filter_restrict fun row member selected => by
      simp only [Bool.and_eq_true, beq_iff_eq] at selected
      exact Db.belongsTo_iff.mpr (Db.Tenanted.belongs_via tenanted _ member
        (by simp [Row.refs, selected.1]) (homes _ (List.contains_iff_mem.mp selected.2)))
  have inGroups : ((db.restrict schoolId).lessons.select
      (fun row => row.status == .scheduled && now ≤ row.startsAt)).filter
        (fun row => row.groupId.any fun group => db.members.rows.any fun member =>
          member.groupId == group && ids.contains member.studentId) =
      (db.lessons.select _).filter _ :=
    Table.filter_restrict fun row member shared =>
      Db.belongsTo_iff.mpr (shared_belongs tenanted homes member shared)
  simp only [bookedPerStudent, enrolled_restrict tenanted homes, own, inGroups]
  congr 3
  apply List.flatMap_congr
  intro row listed
  obtain ⟨scheduled, shared⟩ := List.mem_filter.mp listed
  have belongs := shared_belongs tenanted homes (Table.mem_select.mp scheduled).1 shared
  have seats : (db.restrict schoolId).members.select (fun seat => row.groupId == some seat.groupId) =
      db.members.select fun seat => row.groupId == some seat.groupId :=
    Table.select_restrict fun seat present selected => Db.belongsTo_iff.mpr
      (Db.Tenanted.belongs_via tenanted (.member seat) present List.mem_cons_self
        ((Db.belongs_lesson.mp belongs).2.2.2.2 _ (beq_iff_eq.mp selected)))
  rw [seats]

theorem DebtorsService.lastTaughtPerStudent_restrict {ids : List Id} {schoolId studentId : Id}
    (tenanted : db.Tenanted) (homes : ∀ id ∈ ids, db.home (.student id) = some schoolId) :
    lastTaughtPerStudent ids (db.restrict schoolId) studentId =
      lastTaughtPerStudent ids db studentId := by
  have owned : ∀ row ∈ db.attendances.rows, ids.contains row.studentId = true →
      db.Belongs schoolId (.attendance row) := fun row member selected =>
    Db.Tenanted.belongs_via tenanted _ member (List.mem_cons_of_mem _ List.mem_cons_self)
      (homes _ (List.contains_iff_mem.mp selected))
  have marks : (db.restrict schoolId).attendances.select (fun row => ids.contains row.studentId) =
      db.attendances.select fun row => ids.contains row.studentId :=
    Table.select_restrict fun row member selected => Db.belongsTo_iff.mpr (owned row member selected)
  have starts : (db.attendances.select fun row => ids.contains row.studentId).filterMap (fun row =>
      ((db.restrict schoolId).lessons.find row.lessonId).map fun lesson =>
        (row.studentId, lesson.startsAt)) =
      (db.attendances.select fun row => ids.contains row.studentId).filterMap fun row =>
        (db.lessons.find row.lessonId).map fun lesson => (row.studentId, lesson.startsAt) := by
    apply List.filterMap_congr
    intro row listed
    obtain ⟨member, selected⟩ := Table.mem_select.mp listed
    rw [Db.find_lesson_restrict tenanted (Db.belongs_attendance.mp (owned row member selected)).1]
  simp only [lastTaughtPerStudent, marks, starts]

theorem DebtorsService.list_restrict {query : DebtorQueryDto} (tenanted : db.Tenanted) :
    list platform user draw query (db.restrict user.schoolId) =
      list platform user draw query db := by
  simp only [list]
  apply bind_congr_ok
  intro tutorId _
  have owned : ∀ row ∈ db.students.rows, (row.schoolId == user.schoolId &&
      tutorId.all (fun id => row.tutorId == id) &&
      row.paidLessonsLeft ≤ query.atOrBelow.getD defaultAtOrBelow) = true →
      db.Belongs user.schoolId (.student row) := fun row member selected => by
    simp only [Bool.and_eq_true, beq_iff_eq] at selected
    exact selected.1.1 ▸ Db.Tenanted.belongs_own tenanted (.student row) member
      List.mem_cons_self
  have students : (db.restrict user.schoolId).students.select (fun row =>
      row.schoolId == user.schoolId && tutorId.all (fun id => row.tutorId == id) &&
        row.paidLessonsLeft ≤ query.atOrBelow.getD defaultAtOrBelow) = db.students.select _ :=
    Table.select_restrict fun row member selected => Db.belongsTo_iff.mpr (owned row member selected)
  have listed : ∀ row ∈ db.students.select (fun row =>
      row.schoolId == user.schoolId && tutorId.all (fun id => row.tutorId == id) &&
        row.paidLessonsLeft ≤ query.atOrBelow.getD defaultAtOrBelow),
      row ∈ db.students.rows ∧ db.Belongs user.schoolId (.student row) := by
    intro row selected
    obtain ⟨member, inside⟩ := Table.mem_select.mp selected
    exact ⟨member, owned row member inside⟩
  rw [students]
  generalize db.students.select _ = asked at listed ⊢
  have homes : ∀ id ∈ asked.map Student.id, db.home (.student id) = some user.schoolId := by
    intro id named
    obtain ⟨row, member, rfl⟩ := List.mem_map.mp named
    obtain ⟨present, belongs⟩ := listed row member
    rw [Db.home_of_find Slot.students (.student row.id) rfl
      (Table.find_key present)]
    exact congrArg some (Db.home_school.mp (Db.belongs_student.mp belongs).1).1
  have lines : asked.mapM (debtorOf (asked.map Student.id) draw.now (db.restrict user.schoolId)) =
      asked.mapM (debtorOf (asked.map Student.id) draw.now db) := by
    apply mapM_congr_mem
    intro row member
    obtain ⟨-, belongs⟩ := listed row member
    rw [debtorOf, debtorOf, Db.find_user_restrict tenanted (Db.belongs_student.mp belongs).2.1,
      bookedPerStudent_restrict tenanted homes, lastTaughtPerStudent_restrict tenanted homes]
  rw [lines]

/-- Whatever a member of a school asks for is read off the school's own rows. -/
theorem Query.read_restrict {asked : Query} (tenanted : db.Tenanted) (caller : db.Caller user) :
    asked.read platform user draw (db.restrict user.schoolId) =
      asked.read platform user draw db := by
  cases asked with
  | listSubjects includeHidden => simp only [read, SubjectsService.list_restrict tenanted]
  | subjectUsage id => simp only [read, SubjectsService.usage_restrict tenanted]
  | listStudents => simp only [read, StudentsService.findVisible_restrict tenanted]
  | showStudent id =>
      simp only [read, StudentsService.findOne_restrict tenanted]
      cases found : StudentsService.findOne user id db with
      | error reason => rfl
      | ok student =>
          obtain ⟨lookup, owned⟩ := (StudentsService.findOne_ok user).mp found
          have belongs := Db.Tenanted.belongs_own tenanted (.student student)
            (Table.find_eq_some.mp lookup).1 List.mem_cons_self
          rw [User.owns_school owned] at belongs
          simp only [Except.map, Db.studentView_restrict tenanted belongs]
  | listGroups => simp only [read, GroupsService.findVisible_restrict tenanted]
  | showGroup id => simp only [read, GroupsService.detail_restrict tenanted]
  | lessonsInRange query => simp only [read, LessonsService.findInRange_restrict tenanted]
  | lessonsForStudent studentId limit =>
      simp only [read, LessonsService.findForStudent_restrict tenanted]
  | register lessonId => simp only [read, GradebookService.registerFor_restrict tenanted]
  | gradesForStudent studentId => simp only [read, GradebookService.listForStudent_restrict tenanted]
  | gradesForLesson lessonId => simp only [read, GradebookService.listForLesson_restrict tenanted]
  | progress studentId => simp only [read, GradebookService.progressForStudent_restrict tenanted]
  | notesForStudent studentId => simp only [read, NotesService.listForStudent_restrict tenanted]
  | notesForLesson lessonId => simp only [read, NotesService.listForLesson_restrict tenanted]
  | filesForStudent studentId => simp only [read, FilesService.listForStudent_restrict tenanted]
  | filesForLesson lessonId => simp only [read, FilesService.listForLesson_restrict tenanted]
  | ownLibrary => simp only [read, FilesService.listOwnLibrary_restrict tenanted]
  | capabilities => simp only [read, AddonsService.resolveFor_restrict tenanted caller]
  | capabilityMap => simp only [read, AddonsService.mapForSchool_restrict tenanted]
  | currentSchool => simp only [read, SchoolsService.findCurrent_restrict tenanted caller]
  | listTutors => simp only [read, SchoolsService.listTutors_restrict tenanted]
  | listInvitations => simp only [read, InvitationsService.list_restrict tenanted]
  | config => rfl
  | connections => simp only [read, MeetingAccountsService.connectionsFor_restrict caller]
  | report query => simp only [read, ReportsService.summary_restrict tenanted]
  | debtors query => simp only [read, DebtorsService.list_restrict tenanted]

theorem Db.Caller.of_restrict {schoolId : Id}
    (caller : (db.restrict schoolId).users.find user.id = some user) : db.Caller user := by
  simp only [Db.restrict, Db.filter, Table.find_restrict, Option.filter_eq_some_iff] at caller
  exact caller.1

theorem Db.Caller.restrict (tenanted : db.Tenanted) (caller : db.Caller user) :
    (db.restrict user.schoolId).users.find user.id = some user :=
  (Db.find_user_restrict tenanted caller.home).trans caller

/-- In two reachable states with the same rows of a school, a member of the school reads the
same, whatever the states hold of other schools. -/
theorem reads_agree {left right : World} (reachedLeft : Reachable platform left)
    (reachedRight : Reachable platform right) (caller : left.db.Caller user)
    (agree : left.db.restrict user.schoolId = right.db.restrict user.schoolId) (asked : Query) :
    asked.read platform user draw left.db = asked.read platform user draw right.db := by
  have other : right.db.Caller user :=
    Db.Caller.of_restrict (agree ▸ caller.restrict reachedLeft.tenanted)
  rw [← Query.read_restrict reachedLeft.tenanted caller, agree,
    Query.read_restrict reachedRight.tenanted other]

/-- A school with one student, alone and beside another school. -/
theorem reads_agree_beside_another :
    let alone := World.empty.after .plain [foxSchool, enrol "a1" "k1" "Kim"]
    let beside := World.empty.after .plain
      [owlSchool, foxSchool, enrol "a2" "k2" "Lee", enrol "a1" "k1" "Kim"]
    alone.db.restrict "s1" = beside.db.restrict "s1" ∧
      beside.db.students.rows.map Student.id = ["k2", "k1"] ∧
      ∀ asked : Query, asked.read .plain foxAdmin (Outside.quiet "").draw alone.db =
        asked.read .plain foxAdmin (Outside.quiet "").draw beside.db := by
  intro alone beside
  have agree : alone.db.restrict "s1" = beside.db.restrict "s1" := by decide +kernel
  have caller : alone.db.Caller foxAdmin := by
    unfold Db.Caller
    decide
  refine ⟨agree, by decide, fun asked => ?_⟩
  exact reads_agree (.after .plain .refl _) (.after .plain .refl _) caller agree asked
end

end TutorApp
