import TutorApp.StudentsTaught
import Mathlib.Data.List.Lex

set_option autoImplicit false

namespace TutorApp

open Relational
open Js (Instant)

/-- The scheduled lessons from an instant on that a student is to attend. -/
def Db.bookedLessons (db : Db) (now : Instant) (studentId : Id) : Set Lesson :=
  {lesson | lesson ∈ db.lessons.rows ∧ lesson.status = .scheduled ∧ now ≤ lesson.startsAt ∧
    db.Attends lesson studentId}

/-- When the lessons started that a student has a mark of some kind for. -/
def Db.startsMarked (db : Db) (keep : AttendanceStatus → Bool) (studentId : Id) : Set Instant :=
  {start | ∃ row ∈ db.attendances.rows, row.studentId = studentId ∧ keep row.status = true ∧
    ∃ lesson, db.lessons.find row.lessonId = some lesson ∧ lesson.startsAt = start}

def AttendanceStatus.attended : AttendanceStatus → Bool
  | .present | .late => true
  | _ => false

/-- The figures of a row against the database. -/
structure Debtor.Reports (row : Debtor) (db : Db) (now : Instant) (student : Student) : Prop where
  named : row.studentId = student.id ∧ row.name = student.name
  balance : row.paidLessonsLeft = student.paidLessonsLeft
  owed : row.lessonsOwed = max 0 (-student.paidLessonsLeft)
  booked : row.lessonsBooked = (db.bookedLessons now student.id).ncard

/-- What is relied on of `localeCompare`: by its sign, names are in a total preorder. -/
structure Platform.OrdersNames (platform : Platform) : Prop where
  total : ∀ a b, platform.localeCompare a b ≤ 0 ∨ platform.localeCompare b a ≤ 0
  trans : ∀ a b c, platform.localeCompare a b ≤ 0 → platform.localeCompare b c ≤ 0 →
    platform.localeCompare a c ≤ 0

section

variable {platform : Platform} {user : User} {draw : Draw} {db : Db} {now : Instant}
  {ids : List Id} {studentId : Id}

theorem countP_or {α : Type} {p q : α → Bool} {rows : List α}
    (apart : ∀ row ∈ rows, p row = true → q row = false) :
    rows.countP (fun row => p row || q row) = rows.countP p + rows.countP q := by
  induction rows with
  | nil => rfl
  | cons row rest ih =>
      rw [List.countP_cons, List.countP_cons, List.countP_cons,
        ih fun other member => apart other (List.mem_cons_of_mem row member)]
      have here := apart row List.mem_cons_self
      cases own : p row with
      | true =>
          rw [here own]
          simp only [Bool.or_false, if_true, Bool.false_eq_true, if_false]
          omega
      | false =>
          simp only [Bool.false_or, Bool.false_eq_true, if_false]
          omega

theorem sum_map_ite {α : Type} (p : α → Bool) (rows : List α) :
    (rows.map fun row => if p row then 1 else 0).sum = rows.countP p := by
  induction rows with
  | nil => rfl
  | cons row rest ih =>
      rw [List.map_cons, List.sum_cons, ih, List.countP_cons]
      omega

theorem ncard_select {table : Table Lesson} {p : Lesson → Bool} {wanted : Set Lesson}
    (same : ∀ row, row ∈ table.rows.filter p ↔ row ∈ wanted) :
    wanted.ncard = table.rows.countP p := by
  have once : (table.rows.filter p).Nodup := (List.Nodup.of_map _ table.unique).filter p
  rw [← length_dedup_eq_ncard same, once.dedup, List.countP_eq_length_filter]

/-- Whether a student is in the room when a group's lesson is given. -/
def Db.inRoom (db : Db) (studentId : Id) (lesson : Lesson) : Bool :=
  db.members.rows.any fun row => lesson.groupId == some row.groupId && row.studentId == studentId

theorem Db.inRoom_iff {lesson : Lesson} : db.inRoom studentId lesson = true ↔
    ∃ row ∈ db.members.rows, lesson.groupId = some row.groupId ∧ row.studentId = studentId := by
  simp only [inRoom, List.any_eq_true, Bool.and_eq_true, beq_iff_eq]

/-- A student is in a group once. -/
theorem Db.countP_room (db : Db) (studentId : Id) (lesson : Lesson) :
    db.members.rows.countP
        (fun row => lesson.groupId == some row.groupId && row.studentId == studentId) =
      if db.inRoom studentId lesson then 1 else 0 := by
  split
  · rename_i present
    obtain ⟨row, member, grouped, named⟩ := inRoom_iff.mp present
    have once : (db.members.rows.map key).count (row.groupId, studentId) = 1 :=
      List.count_eq_one_of_mem db.members.unique (named ▸ List.mem_map_of_mem member)
    rw [← once, List.count_eq_countP, List.countP_map]
    apply List.countP_congr
    intro other _
    simp only [grouped, Function.comp_apply, Bool.and_eq_true, beq_iff_eq, Option.some.injEq]
    constructor
    · intro same
      exact Prod.ext same.1.symm same.2
    · intro same
      obtain ⟨home, named⟩ := Prod.mk.inj same
      exact ⟨home.symm, named⟩
  · rename_i absent
    rw [List.countP_eq_zero]
    intro row member here
    rw [Bool.and_eq_true, beq_iff_eq, beq_iff_eq] at here
    exact absent (inRoom_iff.mpr ⟨row, member, here⟩)

/-- Both queries together count every booked lesson once. -/
theorem DebtorsService.bookedPerStudent_eq (owned : db.Owned) (listed : studentId ∈ ids) :
    bookedPerStudent ids now db studentId = (db.bookedLessons now studentId).ncard := by
  have wanted : ids.contains studentId = true := List.contains_iff_mem.mpr listed
  let upcoming (row : Lesson) : Bool := row.status == .scheduled && now ≤ row.startsAt
  let own (row : Lesson) : Bool := row.studentId == some studentId && upcoming row
  let grouped (row : Lesson) : Bool := db.inRoom studentId row && upcoming row
  have apart : ∀ row ∈ db.lessons.rows, own row = true → grouped row = false := by
    intro row member mine
    rw [Bool.and_eq_true, beq_iff_eq] at mine
    have ungrouped := (owned.lessons row member).mp (Option.isSome_of_eq_some mine.1)
    have outside : db.inRoom studentId row = false := by
      rw [Bool.eq_false_iff, ne_eq, Db.inRoom_iff, ungrouped]
      rintro ⟨_, -, none, -⟩
      cases none
    rw [Bool.and_eq_false_iff]
    exact .inl outside
  have whole : (db.bookedLessons now studentId).ncard =
      db.lessons.rows.countP fun row => own row || grouped row := by
    apply ncard_select
    intro row
    simp only [List.mem_filter, own, grouped, upcoming, Bool.or_eq_true, Bool.and_eq_true,
      ← or_and_right, Db.inRoom_iff, beq_iff_eq, decide_eq_true_eq]
    constructor
    · rintro ⟨member, attends, planned, ahead⟩
      exact ⟨member, planned, ahead, attends⟩
    · rintro ⟨member, planned, ahead, attends⟩
      exact ⟨member, attends, planned, ahead⟩
  rw [whole, countP_or apart]
  unfold bookedPerStudent
  dsimp only
  congr 1
  · rw [Table.select, List.filter_filter, ← List.countP_eq_length_filter]
    apply List.countP_congr
    intro row _
    simp only [own, upcoming, wanted, Bool.and_true]
  · rw [length_filter_flatMap]
    have each (row : Lesson) : (((db.members.select fun member =>
        row.groupId == some member.groupId).map GroupMember.studentId).filter fun id =>
          ids.contains id && id == studentId).length = if db.inRoom studentId row then 1 else 0 := by
      rw [← Db.countP_room, ← List.countP_eq_length_filter, List.countP_map, Table.select,
        List.countP_filter]
      apply List.countP_congr
      intro member _
      simp only [Function.comp_apply, Bool.and_eq_true, beq_iff_eq]
      constructor
      · rintro ⟨⟨-, named⟩, home⟩
        exact ⟨home, named⟩
      · rintro ⟨home, named⟩
        exact ⟨⟨named ▸ wanted, named⟩, home⟩
    rw [List.map_congr_left fun row _ => each row, sum_map_ite, Table.select, List.countP_filter,
      List.countP_filter]
    apply List.countP_congr
    intro row _
    simp only [grouped, upcoming, Bool.and_eq_true]
    constructor
    · rintro ⟨⟨here, -⟩, ahead⟩
      exact ⟨here, ahead⟩
    · rintro ⟨here, ahead⟩
      refine ⟨⟨here, ?_⟩, ahead⟩
      obtain ⟨member, present, group, named⟩ := Db.inRoom_iff.mp here
      rw [group, Option.any_some, List.any_eq_true]
      refine ⟨member, present, ?_⟩
      rw [beq_self_eq_true, Bool.true_and, named, wanted]

theorem DebtorsService.byUrgency_le {left right : Debtor} :
    byUrgency platform left right ≤ 0 ↔ right.lessonsOwed < left.lessonsOwed ∨
      right.lessonsOwed = left.lessonsOwed ∧ (right.lessonsBooked < left.lessonsBooked ∨
        right.lessonsBooked = left.lessonsBooked ∧
          platform.localeCompare left.name right.name ≤ 0) := by
  unfold byUrgency
  split
  · omega
  · split
    · omega
    · omega

theorem DebtorsService.byUrgency_total (names : platform.OrdersNames) (left right : Debtor) :
    byUrgency platform left right ≤ 0 ∨ byUrgency platform right left ≤ 0 := by
  rw [byUrgency_le, byUrgency_le]
  have either := names.total left.name right.name
  omega

theorem DebtorsService.byUrgency_trans (names : platform.OrdersNames) (left middle right : Debtor)
    (first : byUrgency platform left middle ≤ 0) (second : byUrgency platform middle right ≤ 0) :
    byUrgency platform left right ≤ 0 := by
  rw [byUrgency_le] at first second ⊢
  have through := names.trans left.name middle.name right.name
  omega

theorem DebtorsService.sorted_list (names : platform.OrdersNames) (rows : List Debtor) :
    (rows.insertionSort fun left right => byUrgency platform left right ≤ 0).Pairwise
      fun left right => byUrgency platform left right ≤ 0 := by
  have total : Std.Total fun left right => byUrgency platform left right ≤ 0 :=
    ⟨byUrgency_total names⟩
  have trans : IsTrans Debtor fun left right => byUrgency platform left right ≤ 0 :=
    ⟨byUrgency_trans names⟩
  exact List.pairwise_insertionSort _ rows

/-- Whether a debtor list with a scope and a threshold covers a student. -/
structure Student.Covered (student : Student) (user : User) (covered : Option Id) (atOrBelow : Int) :
    Prop where
  school : student.schoolId = user.schoolId
  tutor : ∀ tutorId ∈ covered, student.tutorId = tutorId
  balance : student.paidLessonsLeft ≤ atOrBelow

/-- The row of a student. -/
def DebtorsService.rowOf (ids : List Id) (now : Instant) (db : Db) (student : Student) : Debtor where
  studentId := student.id
  name := student.name
  tutorId := student.tutorId
  tutorName := (db.users.find student.tutorId).map User.name
  paidLessonsLeft := student.paidLessonsLeft
  lessonsOwed := max 0 (-student.paidLessonsLeft)
  lessonsBooked := bookedPerStudent ids now db student.id
  lastTaughtAt := lastTaughtPerStudent ids db student.id

/-- The date of a student's line can be printed. -/
def DebtorsService.printable (ids : List Id) (db : Db) (student : Student) : Bool :=
  (lastTaughtPerStudent ids db student.id).all fun start => (readDate start).isSome

theorem readDate_some {stored read : Instant} (same : readDate stored = some read) :
    stored = read := by
  unfold readDate at same
  split at same
  · exact Option.some.inj same
  · cases same

theorem readDate_isSome {stored : Instant} :
    (readDate stored).isSome = true ↔ stored < 253402300800000 := by
  unfold readDate
  split
  · rename_i early
    exact iff_of_true rfl early
  · rename_i late
    exact iff_of_false Bool.false_ne_true late

theorem DebtorsService.debtorOf_eq (student : Student) :
    debtorOf ids now db student =
      (require (printable ids db student) .internal).map fun _ => rowOf ids now db student := by
  unfold debtorOf printable rowOf
  cases lastTaughtPerStudent ids db student.id with
  | none => rfl
  | some start =>
      rw [Option.all_some, isoOrNull]
      cases read : readDate start with
      | none => rfl
      | some same =>
          obtain rfl : start = same := readDate_some read
          rfl

/-- What the list is put together from. -/
structure DebtorsService.ListOf (rows : List Debtor) (platform : Platform) (user : User)
    (now : Instant) (covered : Option Id) (atOrBelow : Int) (ids : List Id) (db : Db) : Prop where
  asked : ∀ id, id ∈ ids ↔ ∃ student ∈ db.students.rows, student.id = id ∧
    student.Covered user covered atOrBelow
  listed : ∀ row, row ∈ rows ↔ ∃ student ∈ db.students.rows, student.Covered user covered atOrBelow ∧
    row = rowOf ids now db student ∧ (0 < row.lessonsOwed ∨ 0 < row.lessonsBooked)
  once : (rows.map Debtor.studentId).Nodup
  sorted : platform.OrdersNames → rows.Pairwise fun left right => byUrgency platform left right ≤ 0

/-- The students a list covers, as the query finds them. -/
def DebtorsService.selected (user : User) (covered : Option Id) (atOrBelow : Int) (db : Db) :
    List Student :=
  db.students.select fun row => row.schoolId == user.schoolId &&
    covered.all (fun id => row.tutorId == id) && row.paidLessonsLeft ≤ atOrBelow

theorem DebtorsService.mem_selected {student : Student} {covered : Option Id} {atOrBelow : Int} :
    student ∈ selected user covered atOrBelow db ↔
      student ∈ db.students.rows ∧ student.Covered user covered atOrBelow := by
  simp only [selected, Table.mem_select, Bool.and_eq_true, beq_iff_eq, decide_eq_true_eq,
    Option.all_eq_true]
  constructor
  · rintro ⟨member, ⟨school, tutor⟩, balance⟩
    exact ⟨member, school, tutor, balance⟩
  · rintro ⟨member, school, tutor, balance⟩
    exact ⟨member, ⟨school, tutor⟩, balance⟩

/-- The rows in the order of the answer. -/
def DebtorsService.rowsOf (platform : Platform) (now : Instant) (db : Db) (students : List Student) :
    List Debtor :=
  ((students.map (rowOf (students.map Student.id) now db)).filter fun row =>
    0 < row.lessonsOwed || 0 < row.lessonsBooked).insertionSort fun left right =>
      byUrgency platform left right ≤ 0

/-- The list is answered exactly when the date of every student it covers can be printed. -/
theorem DebtorsService.list_eq {query : DebtorQueryDto} {covered : Option Id} {students : List Student}
    (allowed : tutorScope user query.tutorId "Only an admin can ask about another tutor" =
      .ok covered)
    (chosen : selected user covered (query.atOrBelow.getD defaultAtOrBelow) db = students) :
    list platform user draw query db =
      (require (students.all (printable (students.map Student.id) db)) .internal).map
        fun _ => rowsOf platform draw.now db students := by
  subst chosen
  simp only [list, allowed, ok_bind]
  rw [← selected, mapM_checked debtorOf_eq]
  cases (selected user covered (query.atOrBelow.getD defaultAtOrBelow) db).all _ <;> rfl

theorem DebtorsService.rowsOf_selected {covered : Option Id} {atOrBelow : Int}
    {students : List Student} (chosen : selected user covered atOrBelow db = students) :
    ListOf (rowsOf platform now db students) platform user now covered atOrBelow
      (students.map Student.id) db := by
  subst chosen
  constructor
  · intro id
    simp only [List.mem_map, mem_selected]
    constructor
    · rintro ⟨student, ⟨member, covered⟩, named⟩
      exact ⟨student, member, named, covered⟩
    · rintro ⟨student, member, named, covered⟩
      exact ⟨student, ⟨member, covered⟩, named⟩
  · intro row
    simp only [rowsOf, List.mem_insertionSort, List.mem_filter, List.mem_map, mem_selected,
      Bool.or_eq_true, decide_eq_true_eq]
    constructor
    · rintro ⟨⟨student, ⟨member, covered⟩, rfl⟩, shown⟩
      exact ⟨student, member, covered, rfl, shown⟩
    · rintro ⟨student, member, covered, rfl, shown⟩
      exact ⟨⟨student, ⟨member, covered⟩, rfl⟩, shown⟩
  · rw [rowsOf, ((List.perm_insertionSort _ _).map _).nodup_iff]
    refine List.Nodup.sublist (List.filter_sublist.map _) ?_
    rw [List.map_map]
    exact db.students.unique.sublist (List.filter_sublist.map _)
  · exact fun names => sorted_list names _

theorem DebtorsService.list_ok {query : DebtorQueryDto} {rows : List Debtor}
    (given : list platform user draw query db = .ok rows) :
    ∃ covered ids, tutorScope user query.tutorId "Only an admin can ask about another tutor" =
        .ok covered ∧
      ListOf rows platform user draw.now covered (query.atOrBelow.getD defaultAtOrBelow) ids db := by
  have answered := given
  rw [list, bind_ok] at answered
  obtain ⟨covered, allowed, -⟩ := answered
  rw [list_eq allowed rfl, map_ok] at given
  obtain ⟨_, -, rfl⟩ := given
  exact ⟨covered, _, allowed, rowsOf_selected rfl⟩

/-- The latest of some starts, if there is one. -/
structure Latest (starts : Set Instant) (found : Option Instant) : Prop where
  some : ∀ start, found = some start ↔ IsGreatest starts start
  none : found = none ↔ starts = ∅

theorem latest_of_greatest {starts : Set Instant} {last : Instant}
    (greatest : IsGreatest starts last) : Latest starts (some last) where
  some start := by
    rw [Option.some.injEq]
    exact ⟨fun same => same ▸ greatest, fun other => greatest.unique other⟩
  none := by
    constructor
    · intro none
      cases none
    · intro empty
      exact absurd (empty ▸ greatest.1) (Set.notMem_empty last)

theorem latest_of_empty {starts : Set Instant} (empty : starts = ∅) : Latest starts none where
  some start := by
    rw [empty]
    exact ⟨fun some => (by cases some), fun greatest => absurd greatest.1 (Set.notMem_empty start)⟩
  none := ⟨fun _ => empty, fun _ => rfl⟩

/-- The latest of a larger set is the latest of a smaller one when that one keeps up with it. -/
theorem latest_subset_iff {part whole : Set Instant} {found : Option Instant} (inside : part ⊆ whole)
    (latest : Latest whole found) :
    Latest part found ↔ ∀ start ∈ whole, ∃ later ∈ part, start ≤ later := by
  cases found with
  | none =>
      have empty := latest.none.mp rfl
      obtain rfl : part = ∅ := Set.subset_eq_empty inside empty
      subst empty
      exact ⟨fun _ start member => absurd member (Set.notMem_empty start), fun _ => latest⟩
  | some last =>
      have greatest := (latest.some last).mp rfl
      constructor
      · intro latest' start member
        exact ⟨last, ((latest'.some last).mp rfl).1, greatest.2 member⟩
      · intro keepsUp
        obtain ⟨later, member, after⟩ := keepsUp last greatest.1
        obtain rfl : last = later := le_antisymm after (greatest.2 (inside member))
        exact latest_of_greatest ⟨member, fun start here => greatest.2 (inside here)⟩

theorem find?_sortByTimeDesc {α : Type} {column : α → Instant} {rows : List α} {p : α → Bool}
    {row : α} (found : (sortByTimeDesc column rows).find? p = some row) :
    row ∈ rows ∧ p row = true ∧ ∀ other ∈ rows, p other = true → column other ≤ column row := by
  have total : Std.Total fun left right : α => column right ≤ column left :=
    ⟨fun left right => le_total (column right) (column left)⟩
  have trans : IsTrans α fun left right : α => column right ≤ column left :=
    ⟨fun _ _ _ first second => le_trans second first⟩
  have sorted : (sortByTimeDesc column rows).Pairwise fun left right => column right ≤ column left :=
    List.pairwise_insertionSort _ rows
  obtain ⟨hit, before, after, whole, passed⟩ := List.find?_eq_some_iff_append.mp found
  refine ⟨mem_sortByTimeDesc.mp (List.mem_of_find?_eq_some found), hit, fun other member here => ?_⟩
  rw [← mem_sortByTimeDesc, whole, List.mem_append, List.mem_cons] at member
  rw [whole, List.pairwise_append, List.pairwise_cons] at sorted
  rcases member with early | rfl | late
  · have missed := passed other early
    rw [here] at missed
    cases missed
  · exact le_refl _
  · exact sorted.2.1.1 other late

/-- The query answers with the latest start of any mark, whatever the mark says. -/
theorem DebtorsService.lastTaughtPerStudent_latest (listed : studentId ∈ ids) :
    Latest (db.startsMarked (fun _ => true) studentId) (lastTaughtPerStudent ids db studentId) := by
  have wanted : ids.contains studentId = true := List.contains_iff_mem.mpr listed
  let rows := (db.attendances.select fun row => ids.contains row.studentId).filterMap fun row =>
    (db.lessons.find row.lessonId).map fun lesson => (row.studentId, lesson.startsAt)
  have marked (start : Instant) :
      start ∈ db.startsMarked (fun _ => true) studentId ↔ (studentId, start) ∈ rows := by
    simp only [rows, Db.startsMarked, Set.mem_ofPred_eq, List.mem_filterMap, Table.mem_select,
      Option.map_eq_some_iff, Prod.mk.injEq, true_and]
    constructor
    · rintro ⟨row, member, rfl, lesson, found, starts⟩
      exact ⟨row, ⟨member, wanted⟩, lesson, found, rfl, starts⟩
    · rintro ⟨row, ⟨member, -⟩, lesson, found, named, starts⟩
      exact ⟨row, member, named, lesson, found, starts⟩
  show Latest _ (((sortByTimeDesc Prod.snd rows).find? fun row => row.1 == studentId).map Prod.snd)
  cases found : (sortByTimeDesc Prod.snd rows).find? fun row => row.1 == studentId with
  | none =>
      apply latest_of_empty
      rw [Set.eq_empty_iff_forall_notMem]
      intro start member
      have missed := List.find?_eq_none.mp found _ (mem_sortByTimeDesc.mpr ((marked start).mp member))
      exact missed (beq_self_eq_true studentId)
  | some row =>
      obtain ⟨member, named, first⟩ := find?_sortByTimeDesc found
      rw [beq_iff_eq] at named
      apply latest_of_greatest
      constructor
      · rw [marked, ← named]
        exact member
      · intro start other
        exact first _ ((marked start).mp other) (beq_self_eq_true studentId)

theorem Latest.below_iff {starts : Set Instant} {found : Option Instant} {bound : Instant}
    (latest : Latest starts found) : (∀ last ∈ found, last < bound) ↔ ∀ start ∈ starts, start < bound := by
  constructor
  · intro early start member
    cases found with
    | none => exact absurd (latest.none.mp rfl ▸ member) (Set.notMem_empty start)
    | some last => exact (((latest.some last).mp rfl).2 member).trans_lt (early last rfl)
  · intro early last found
    exact early last ((latest.some last).mp found).1

/-- The date of a student covered can be printed while all of their register is before the year
10000. -/
theorem DebtorsService.printable_iff {student : Student} (listed : student.id ∈ ids) :
    printable ids db student = true ↔
      ∀ start ∈ db.startsMarked (fun _ => true) student.id, start < 253402300800000 := by
  rw [← (lastTaughtPerStudent_latest listed).below_iff, printable, Option.all_eq_true]
  exact forall₂_congr fun start _ => readDate_isSome

/-- A debtor list as it should be. -/
structure DebtorsService.Exact (rows : List Debtor) (platform : Platform) (user : User)
    (now : Instant) (covered : Option Id) (atOrBelow : Int) (db : Db) : Prop where
  once : (rows.map Debtor.studentId).Nodup
  listed : ∀ id, id ∈ rows.map Debtor.studentId ↔ ∃ student ∈ db.students.rows, student.id = id ∧
    student.Covered user covered atOrBelow ∧
      (0 < max 0 (-student.paidLessonsLeft) ∨ 0 < (db.bookedLessons now id).ncard)
  figures : ∀ row ∈ rows, ∃ student ∈ db.students.rows, row.Reports db now student
  sorted : rows.Pairwise fun left right => byUrgency platform left right ≤ 0
  total : ∀ left right, byUrgency platform left right ≤ 0 ∨ byUrgency platform right left ≤ 0
  trans : ∀ left middle right, byUrgency platform left middle ≤ 0 →
    byUrgency platform middle right ≤ 0 → byUrgency platform left right ≤ 0

theorem DebtorsService.ListOf.exact {rows : List Debtor} {covered : Option Id} {atOrBelow : Int}
    (whole : ListOf rows platform user now covered atOrBelow ids db) (owned : db.Owned)
    (names : platform.OrdersNames) : Exact rows platform user now covered atOrBelow db := by
  have booked {student : Student} (member : student ∈ db.students.rows)
      (covers : student.Covered user covered atOrBelow) :
      bookedPerStudent ids now db student.id = (db.bookedLessons now student.id).ncard :=
    bookedPerStudent_eq owned ((whole.asked student.id).mpr ⟨student, member, rfl, covers⟩)
  refine ⟨whole.once, fun id => ?_, fun row shown => ?_, whole.sorted names, byUrgency_total names,
    byUrgency_trans names⟩
  · rw [List.mem_map]
    constructor
    · rintro ⟨row, shown, rfl⟩
      obtain ⟨student, member, covers, rfl, owing⟩ := (whole.listed row).mp shown
      refine ⟨student, member, rfl, covers, ?_⟩
      dsimp only [rowOf] at owing ⊢
      rwa [booked member covers] at owing
    · rintro ⟨student, member, rfl, covers, owing⟩
      refine ⟨rowOf ids now db student, ?_, rfl⟩
      refine (whole.listed _).mpr ⟨student, member, covers, rfl, ?_⟩
      dsimp only [rowOf]
      rwa [booked member covers]
  · obtain ⟨student, member, covers, rfl, -⟩ := (whole.listed row).mp shown
    exact ⟨student, member, ⟨rfl, rfl⟩, rfl, rfl, booked member covers⟩

/-- A caller gets the list as it should be exactly when no student it covers has a register entry at
a lesson that starts in the year 10000 or later. -/
theorem debtor_list_exact {world : World} {query : DebtorQueryDto} {covered : Option Id}
    (reachable : Reachable platform world) (names : platform.OrdersNames)
    (allowed : tutorScope user query.tutorId "Only an admin can ask about another tutor" =
      .ok covered) :
    (∃ rows, DebtorsService.list platform user draw query world.db = .ok rows ∧
      DebtorsService.Exact rows platform user draw.now covered (query.atOrBelow.getD 0) world.db) ↔
      ∀ student ∈ world.db.students.rows, student.Covered user covered (query.atOrBelow.getD 0) →
        ∀ start ∈ world.db.startsMarked (fun _ => true) student.id, start < 253402300800000 := by
  have answer := @DebtorsService.list_eq platform user draw world.db query covered _ allowed rfl
  constructor
  · rintro ⟨rows, given, -⟩ student member covers
    rw [answer, map_ok] at given
    obtain ⟨_, checked, -⟩ := given
    rw [require_ok, List.all_eq_true] at checked
    have chosen := DebtorsService.mem_selected.mpr ⟨member, covers⟩
    exact (DebtorsService.printable_iff (List.mem_map_of_mem chosen)).mp (checked student chosen)
  · intro early
    refine ⟨_, ?_, (DebtorsService.rowsOf_selected rfl).exact reachable.owned names⟩
    rw [answer, map_ok]
    refine ⟨(), require_ok.mpr (List.all_eq_true.mpr fun student chosen => ?_), rfl⟩
    obtain ⟨member, covers⟩ := DebtorsService.mem_selected.mp chosen
    exact (DebtorsService.printable_iff (List.mem_map_of_mem chosen)).mpr
      (early student member covers)

/-- A listed student's date is that of the last lesson attended exactly when no absence of theirs is
at a later one. -/
theorem last_taught_iff {query : DebtorQueryDto} {rows : List Debtor}
    (given : DebtorsService.list platform user draw query db = .ok rows) {row : Debtor}
    (shown : row ∈ rows) :
    Latest (db.startsMarked AttendanceStatus.attended row.studentId) row.lastTaughtAt ↔
      ∀ entry ∈ db.attendances.rows, entry.studentId = row.studentId →
        entry.status.attended = false → ∀ lesson, db.lessons.find entry.lessonId = some lesson →
          ∃ start ∈ db.startsMarked AttendanceStatus.attended row.studentId,
            lesson.startsAt ≤ start := by
  obtain ⟨covered, ids, -, whole⟩ := DebtorsService.list_ok given
  obtain ⟨student, member, covers, rfl, -⟩ := (whole.listed row).mp shown
  have asked := (whole.asked student.id).mpr ⟨student, member, rfl, covers⟩
  have latest := @DebtorsService.lastTaughtPerStudent_latest db ids student.id asked
  have inside : db.startsMarked AttendanceStatus.attended student.id ⊆
      db.startsMarked (fun _ => true) student.id := by
    rintro start ⟨entry, listed, named, -, starts⟩
    exact ⟨entry, listed, named, rfl, starts⟩
  refine (latest_subset_iff inside latest).trans ?_
  constructor
  · intro keepsUp entry listed named _ lesson found
    exact keepsUp lesson.startsAt ⟨entry, listed, named, rfl, lesson, found, rfl⟩
  · rintro keepsUp start ⟨entry, listed, named, -, lesson, found, rfl⟩
    cases attended : entry.status.attended with
    | true => exact ⟨lesson.startsAt, ⟨entry, listed, named, attended, lesson, found, rfl⟩, le_rfl⟩
    | false => exact keepsUp entry listed named attended lesson found

end

theorem precedes_iff {left right : String} :
    precedes left right = true ↔
      left.toList.map Char.toNat < right.toList.map Char.toNat := by
  rw [precedes, List.lex_eq_true_iff_lex]
  simp only [Nat.blt_eq]
  rfl

theorem Platform.plain_ordersNames : Platform.plain.OrdersNames := by
  have order (left right : String) : Platform.plain.localeCompare left right ≤ 0 ↔
      left.toList.map Char.toNat ≤ right.toList.map Char.toNat := by
    show (if precedes left right then (-1 : Int) else if precedes right left then 1 else 0) ≤ 0 ↔ _
    have apart : ¬ precedes right left = true ↔
        left.toList.map Char.toNat ≤ right.toList.map Char.toNat := by rw [precedes_iff, not_lt]
    rw [← apart]
    by_cases before : precedes left right = true
    · have after : ¬ precedes right left = true := fun after =>
        lt_asymm (precedes_iff.mp before) (precedes_iff.mp after)
      rw [if_pos before]
      exact ⟨fun _ => after, fun _ => by decide⟩
    · rw [if_neg before]
      split
      · rename_i after
        exact ⟨fun one => absurd one (by decide), fun level => absurd after level⟩
      · rename_i level
        exact ⟨fun _ => level, fun _ => le_rfl⟩
  constructor
  · intro a b
    rw [order, order]
    exact le_total _ _
  · intro a b c
    rw [order, order, order]
    exact le_trans

def nearlyOut : DebtorQueryDto := ⟨none, some 5⟩

/-- A pair with a lesson ahead of them. -/
theorem pair_listed : ∃ rows,
    DebtorsService.list .plain foxAdmin (Outside.quiet "").draw nearlyOut pairLesson.db = .ok rows ∧
    rows.length = 2 ∧ DebtorsService.Exact rows .plain foxAdmin (Outside.quiet "").draw.now none 5
      pairLesson.db := by
  have two : (DebtorsService.list .plain foxAdmin (Outside.quiet "").draw nearlyOut
      pairLesson.db).map List.length = .ok 2 := by decide +kernel
  have early : ∀ lesson ∈ pairLesson.db.lessons.rows, lesson.startsAt < 253402300800000 := by decide
  obtain ⟨rows, given, exact⟩ := (@debtor_list_exact .plain foxAdmin (Outside.quiet "").draw
    pairLesson nearlyOut none (.after .plain .refl _) Platform.plain_ordersNames rfl).mpr
    fun student _ _ start marked => by
      obtain ⟨entry, -, -, -, lesson, found, rfl⟩ := marked
      exact early lesson (Table.find_eq_some.mp found).1
  rw [given] at two
  exact ⟨rows, given, Except.ok.inj two, exact⟩

/-- A deployment that reads the last evening of the year 9999 in Greenland as one of the next year. -/
def Platform.lateReader : Platform :=
  { Platform.plain with
    parseDate := fun text =>
      if text == "9999-12-31T23:00:00-02:00" then some 253402304400000
      else Platform.plain.parseDate text }

/-- Kim was ticked off at a lesson of the year 10000 and has one to come. -/
def taughtLate : World := World.empty.after .lateReader [
  foxSchool,
  enrol "a1" "k1" "Kim",
  (.quiet "l1", .command "a1" (.createLesson
    ⟨.given "k1", .absent, .absent, "9999-12-31T23:00:00-02:00", 60⟩)),
  (.quiet "", .command "a1" (.writeJournal "l1" (taps [("k1", .present)]))),
  (.quiet "l2", .command "a1" (.createLesson
    ⟨.given "k1", .absent, .absent, "2026-03-01T10:00:00.000Z", 60⟩))]

/-- The date of the late lesson cannot be printed, and nobody is listed. -/
theorem late_lesson_breaks_list : Reachable .lateReader taughtLate ∧
    tutorScope foxAdmin nearlyOut.tutorId "Only an admin can ask about another tutor" = .ok none ∧
    (∃ student ∈ taughtLate.db.students.rows, student.Covered foxAdmin none 5 ∧
      ∃ lesson, lesson ∈ taughtLate.db.bookedLessons (Outside.quiet "").draw.now student.id) ∧
    DebtorsService.list .lateReader foxAdmin (Outside.quiet "").draw nearlyOut taughtLate.db =
      .error .internal := by
  refine ⟨.after .lateReader .refl _, rfl, ?_, by decide +kernel⟩
  have kim : ∃ student ∈ taughtLate.db.students.rows, student.id = "k1" ∧
      student.schoolId = "s1" ∧ student.paidLessonsLeft ≤ 5 := by decide
  have ahead : ∃ lesson ∈ taughtLate.db.lessons.rows, lesson.status = .scheduled ∧
      (Outside.quiet "").draw.now ≤ lesson.startsAt ∧ lesson.studentId = some "k1" := by decide
  obtain ⟨student, member, named, school, balance⟩ := kim
  obtain ⟨lesson, planned, scheduled, later, own⟩ := ahead
  refine ⟨student, member, ⟨school, fun _ none => (by cases none), balance⟩, lesson, planned,
    scheduled, later, ?_⟩
  rw [named]
  exact .inl own

/-- One lesson attended and one to come. -/
def taughtOnce : World := World.empty.after .plain [
  foxSchool,
  enrol "a1" "k1" "Kim",
  (.quiet "l1", .command "a1" (.createLesson
    ⟨.given "k1", .absent, .absent, "2026-03-01T10:00:00.000Z", 60⟩)),
  (.quiet "", .command "a1" (.writeJournal "l1" (taps [("k1", .present)]))),
  (.quiet "l2", .command "a1" (.createLesson
    ⟨.given "k1", .absent, .absent, "2026-03-01T10:00:00.000Z", 60⟩))]

/-- The same, but the lesson was called off in time. -/
def excusedOnce : World := World.empty.after .plain [
  foxSchool,
  enrol "a1" "k1" "Kim",
  (.quiet "l1", .command "a1" (.createLesson
    ⟨.given "k1", .absent, .absent, "2026-03-01T10:00:00.000Z", 60⟩)),
  (.quiet "", .command "a1" (.writeJournal "l1" (taps [("k1", .absentExcused)]))),
  (.quiet "l2", .command "a1" (.createLesson
    ⟨.given "k1", .absent, .absent, "2026-03-01T10:00:00.000Z", 60⟩))]

/-- A student was there, and the date of that lesson is shown. -/
theorem attended_lesson_shown : ∃ rows row,
    DebtorsService.list .plain foxAdmin (Outside.quiet "").draw nearlyOut taughtOnce.db = .ok rows ∧
    row ∈ rows ∧
    (Latest (taughtOnce.db.startsMarked AttendanceStatus.attended row.studentId) row.lastTaughtAt ↔
      ∀ entry ∈ taughtOnce.db.attendances.rows, entry.studentId = row.studentId →
        entry.status.attended = false →
          ∀ lesson, taughtOnce.db.lessons.find entry.lessonId = some lesson →
            ∃ start ∈ taughtOnce.db.startsMarked AttendanceStatus.attended row.studentId,
              lesson.startsAt ≤ start) := by
  have given : DebtorsService.list .plain foxAdmin (Outside.quiet "").draw nearlyOut taughtOnce.db =
      .ok [⟨"k1", "Kim", "a1", some "Ann", 4, 0, 1, some 1772359200000⟩] := by decide +kernel
  exact ⟨_, _, given, List.mem_cons_self, last_taught_iff given List.mem_cons_self⟩

/-- A lesson called off in time is shown as the last one taught. -/
theorem excused_lesson_shown : Reachable .plain excusedOnce ∧ ∃ rows, ∃ row ∈ rows,
    DebtorsService.list .plain foxAdmin (Outside.quiet "").draw nearlyOut excusedOnce.db = .ok rows ∧
    row.lastTaughtAt = some 1772359200000 ∧
    excusedOnce.db.startsMarked AttendanceStatus.attended row.studentId = ∅ ∧
    ¬ Latest (excusedOnce.db.startsMarked AttendanceStatus.attended row.studentId)
      row.lastTaughtAt := by
  have given : DebtorsService.list .plain foxAdmin (Outside.quiet "").draw nearlyOut excusedOnce.db =
      .ok [⟨"k1", "Kim", "a1", some "Ann", 5, 0, 1, some 1772359200000⟩] := by decide +kernel
  have excused : ∀ entry ∈ excusedOnce.db.attendances.rows, entry.status.attended = false := by
    decide
  have never : excusedOnce.db.startsMarked AttendanceStatus.attended "k1" = ∅ := by
    rw [Set.eq_empty_iff_forall_notMem]
    rintro start ⟨entry, listed, -, attended, -⟩
    rw [excused entry listed] at attended
    cases attended
  refine ⟨.after .plain .refl _, _, _, List.mem_cons_self, given, rfl, never, fun latest => ?_⟩
  have none := latest.none.mpr never
  cases none

end TutorApp
