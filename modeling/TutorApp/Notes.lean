import TutorApp.Gradebook

set_option autoImplicit false

namespace TutorApp

open Relational

structure NoteWithAuthor where
  note : Note
  author : Option NamedRef
  deriving Repr, DecidableEq

def Db.noteView (db : Db) (note : Note) : NoteWithAuthor := ⟨note, db.authorRef note.authorId⟩

namespace NotesService

variable (user : User)

/-- Newest first. -/
def listed (db : Db) (keep : Note → Bool) : List NoteWithAuthor :=
  (sortByTimeDesc Note.createdAt (db.notes.select keep)).map db.noteView

def listForStudent (studentId : Id) (db : Db) : Service (List NoteWithAuthor) := do
  let student ← StudentsService.findOne user studentId db
  return listed db fun row => row.studentId == some student.id

def addForStudent (draw : Draw) (studentId : Id) (text : String) (db : Db) :
    Service (NoteWithAuthor × Db) := do
  let student ← StudentsService.findOne user studentId db
  let row : Note := ⟨draw.id, Js.trim text, draw.now, user.id, some student.id, none⟩
  let db ← db.createNote row
  return (db.noteView row, db)

def listForLesson (lessonId : Id) (db : Db) : Service (List NoteWithAuthor) := do
  let lesson ← LessonsService.findReachable user lessonId db
  return listed db fun row => row.lessonId == some lesson.id

def addForLesson (draw : Draw) (lessonId : Id) (text : String) (db : Db) :
    Service (NoteWithAuthor × Db) := do
  let lesson ← LessonsService.findReachable user lessonId db
  let row : Note := ⟨draw.id, Js.trim text, draw.now, user.id, none, some lesson.id⟩
  let db ← db.createNote row
  return (db.noteView row, db)

/-- Only its author, or an admin. -/
def remove (id : Id) (db : Db) : Service Db := do
  let note ← orNotFound (db.notes.find id) "Note not found"
  LessonsService.reachesStudent user note.studentId db
  LessonsService.reachesLesson user note.lessonId db
  require (note.authorId == user.id || user.isAdmin)
    (.forbidden "Only the author can remove this note")
  db.deleteNote note.id

section

variable {user} {draw : Draw} {id studentId lessonId : Id} {text : String} {db next : Db}
  {view : NoteWithAuthor}

theorem addForStudent_ok : addForStudent user draw studentId text db = .ok (view, next) ↔
    ∃ student, StudentsService.findOne user studentId db = .ok student ∧
      db.createNote ⟨draw.id, Js.trim text, draw.now, user.id, some student.id, none⟩ = .ok next ∧
        next.noteView ⟨draw.id, Js.trim text, draw.now, user.id, some student.id, none⟩ = view := by
  simp only [addForStudent, bind_ok, pure_ok, Prod.mk.injEq, exists_eq_right_right]

theorem addForLesson_ok : addForLesson user draw lessonId text db = .ok (view, next) ↔
    ∃ lesson, LessonsService.findReachable user lessonId db = .ok lesson ∧
      db.createNote ⟨draw.id, Js.trim text, draw.now, user.id, none, some lesson.id⟩ = .ok next ∧
        next.noteView ⟨draw.id, Js.trim text, draw.now, user.id, none, some lesson.id⟩ = view := by
  simp only [addForLesson, bind_ok, pure_ok, Prod.mk.injEq, exists_eq_right_right]

theorem remove_ok : remove user id db = .ok next ↔
    ∃ note, db.notes.find id = some note ∧
      LessonsService.reachesStudent user note.studentId db = .ok () ∧
        LessonsService.reachesLesson user note.lessonId db = .ok () ∧
          (note.authorId == user.id || user.isAdmin) = true ∧ db.deleteNote note.id = .ok next := by
  simp only [remove, bind_ok, exists_unit_ok, orNotFound_ok, require_ok, exists_const]

end

end NotesService

end TutorApp
