import TutorApp.Founders
import TutorApp.Words

set_option autoImplicit false

namespace TutorApp

open Relational

/-- `^[a-z0-9]+(?:-[a-z0-9]+)*$`. -/
def slugPattern : Language Char := Words.phrase (Words.run SchoolsService.isSlugChar) '-'

/-- What the validators of a registration ask of an explicit slug. -/
def IsSlug (slug : String) : Prop := slug.toList ∈ slugPattern ∧ slug.length ≤ 60

theorem hyphen_apart : SchoolsService.isSlugChar '-' = false := by decide

theorem mem_slugPattern {text : List Char} : text ∈ slugPattern ↔
    ((text.splitOn '-').all fun piece =>
      !piece.isEmpty && piece.all SchoolsService.isSlugChar) = true := by
  rw [slugPattern, Words.mem_phrase_run hyphen_apart, List.all_eq_true]
  refine forall₂_congr fun piece _ => ?_
  rw [Bool.and_eq_true, List.all_eq_true, Bool.not_eq_true', List.isEmpty_eq_false_iff]
  rfl

instance (slug : String) : Decidable (IsSlug slug) :=
  decidable_of_iff _ (and_congr_left' mem_slugPattern.symm)

def RegisterSchoolDto.SlugAdmitted (dto : RegisterSchoolDto) : Prop :=
  ∀ slug, dto.slug = .given slug → IsSlug slug

/-- What `Math.random().toString(36).slice(2, 8)` can be. -/
def Draw.Base36 (draw : Draw) : Prop :=
  draw.random.toList.all SchoolsService.isSlugChar = true ∧ draw.random.length ≤ 6

instance (draw : Draw) : Decidable draw.Base36 := inferInstanceAs (Decidable (_ ∧ _))

namespace SchoolsService

variable (platform : Platform) (draw : Draw)

/-- The words of a name, lower-cased and decomposed, that are left in a slug. -/
def nameWords (name : String) : List (List Char) :=
  Words.words isSlugChar (platform.normalize (platform.toLowerCase name)).toList

/-- A name that has no such words needs the suffix drawn to have a character, and one that has
must not end a word, with a hyphen behind it, at the last place of sixty. -/
def Sluggable (name : String) : Prop :=
  (nameWords platform name = [] → draw.random ≠ "") ∧ ¬ Words.EndsAt 60 (nameWords platform name)

instance (name : String) : Decidable (Sluggable platform draw name) :=
  inferInstanceAs (Decidable (_ ∧ _))

variable {platform draw}

theorem hyphenate_eq (text : List Char) : hyphenate text = Words.collapse isSlugChar '-' text := by
  induction text with
  | nil => rfl
  | cons c rest ih =>
      rw [hyphenate, Words.collapse, ih]
      split
      · rfl
      · split
        · rename_i others hyphen
          rw [hyphen, List.dropWhile_cons_of_pos (by decide),
            Words.dropWhile_collapse hyphen_apart hyphen]
        · rename_i other
          cases left : Words.collapse isSlugChar '-' rest with
          | nil => rfl
          | cons first others =>
              rw [List.dropWhile_cons_of_neg]
              rw [beq_iff_eq]
              rintro rfl
              exact other others left

theorem trimHyphens_eq (text : List Char) :
    trimHyphens text = Trimming.trimmed (· == '-') text := rfl

theorem slugify_eq (name : String) :
    slugify platform draw name =
      if nameWords platform name = [] then "school-" ++ draw.random
      else String.ofList ((['-'].intercalate (nameWords platform name)).take 60) := by
  have base : trimHyphens (hyphenate (platform.normalize (platform.toLowerCase name)).toList) =
      ['-'].intercalate (nameWords platform name) := by
    rw [hyphenate_eq, trimHyphens_eq]
    exact Words.trimmed_collapse hyphen_apart
  simp only [slugify, base, List.isEmpty_iff, List.take_eq_nil_iff, OfNat.ofNat_ne_zero, false_or]
  by_cases none : nameWords platform name = []
  · rw [if_pos none, none, if_pos List.intercalate_nil]
  · rw [if_neg none, if_neg (Words.intercalate_ne_nil none Words.words_run)]

theorem school_run : "school".toList ∈ Words.run isSlugChar :=
  ⟨by decide, List.all_eq_true.mp (by decide)⟩

theorem suffixed_isSlug (drawn : draw.Base36) :
    IsSlug ("school-" ++ draw.random) ↔ draw.random ≠ "" := by
  have text : ("school-" ++ draw.random).toList = "school".toList ++ '-' :: draw.random.toList := by
    rw [String.toList_append]
    rfl
  have short : ("school-" ++ draw.random).length ≤ 60 := by
    have few := drawn.2
    rw [String.length_append]
    have seven : "school-".length = 7 := by decide
    omega
  rw [IsSlug, and_iff_left short, text, slugPattern,
    Words.append_mem_phrase hyphen_apart school_run]
  constructor
  · intro fair none
    rw [none] at fair
    exact Words.nil_not_mem_phrase hyphen_apart fair
  · intro some
    exact Words.run_mem_phrase hyphen_apart ⟨by simpa using some, List.all_eq_true.mp drawn.1⟩

theorem slugify_isSlug (drawn : draw.Base36) (name : String) :
    IsSlug (slugify platform draw name) ↔ Sluggable platform draw name := by
  rw [slugify_eq, Sluggable]
  split
  · rename_i none
    rw [suffixed_isSlug drawn, none, and_iff_left Words.not_endsAt_nil]
    exact ⟨fun some _ => some, fun some => some rfl⟩
  · rename_i some
    rw [IsSlug, String.toList_ofList, String.length_ofList, and_iff_left (List.length_take_le _ _),
      and_iff_right fun none => absurd none some]
    exact Words.take_mem_phrase hyphen_apart some Words.words_run (by decide)

theorem register_school {dto : RegisterSchoolDto} {db next : Db} {admin : User}
    (success : register platform draw dto db = .ok (admin, next)) :
    ∃ schools, db.schools.insert? (newSchool platform draw dto) = some schools ∧
      next.schools = schools := by
  obtain ⟨-, -, _, founded, joined, -⟩ := register_ok.mp success
  obtain ⟨-, schools, inserted, rfl⟩ := Db.createSchool_ok.mp founded
  obtain ⟨-, -, users, -, rfl⟩ := Db.createUser_ok.mp joined
  exact ⟨schools, inserted, rfl⟩

theorem newSchool_isSlug {dto : RegisterSchoolDto} (drawn : draw.Base36)
    (admitted : dto.SlugAdmitted) :
    IsSlug (newSchool platform draw dto).slug ↔
      (dto.slug.toOption = none → Sluggable platform draw dto.schoolName) := by
  rw [newSchool]
  cases sent : dto.slug with
  | given slug => exact iff_of_true (admitted slug sent) fun none => by cases none
  | absent =>
      rw [Js.Field.getD_absent, slugify_isSlug drawn]
      exact ⟨fun fair _ => fair, fun fair => fair rfl⟩
  | null =>
      rw [Js.Field.getD_null, slugify_isSlug drawn]
      exact ⟨fun fair _ => fair, fun fair => fair rfl⟩

end SchoolsService

section

variable {platform : Platform} {outside : Outside} {world : World} {dto : RegisterSchoolDto}

/-- A registration that is refused leaves everything as it was. One that is not adds one school,
whose slug is as the validators would have it exactly where it was sent, or where the name sent
can be made into one. -/
theorem stored_slug_iff (admitted : dto.SlugAdmitted) (drawn : outside.draw.Base36)
    {outcome : Outcome}
    (ran : (PublicCall.registerSchool dto).run platform outside world = outcome) :
    (∀ reason, outcome.result = .error reason → outcome.world = world) ∧
      ∀ response, outcome.result = .ok response →
        ∃ school ∉ world.db.schools.rows,
          (∀ row, row ∈ outcome.world.db.schools.rows ↔
            row ∈ world.db.schools.rows ∨ row = school) ∧
          (IsSlug school.slug ↔
            (dto.slug.toOption = none →
              SchoolsService.Sluggable platform outside.draw dto.schoolName)) := by
  rcases registerSchool_run dto with ⟨reason, refused⟩ | ⟨admin, next, registered, made⟩
  · obtain rfl := ran.symm.trans refused
    refine ⟨fun _ _ => rfl, fun _ served => ?_⟩
    cases served
  · obtain rfl := ran.symm.trans made
    refine ⟨fun _ failed => ?_, fun _ _ => ?_⟩
    · cases failed
    · obtain ⟨schools, inserted, same⟩ := SchoolsService.register_school registered
      refine ⟨SchoolsService.newSchool platform outside.draw dto, ?_, fun row => ?_, ?_⟩
      · intro held
        have free := (Table.insert?_eq_some.mp inserted).1
        exact Table.find_eq_none.mp free _ held rfl
      · rw [← Table.mem_insert inserted, ← same]
      · exact SchoolsService.newSchool_isSlug drawn admitted

end

/-- A registration that leaves the slug to be made of the name. -/
def named (name : String) : RegisterSchoolDto := ⟨name, .absent, .absent, "Ann", "ann@x.io"⟩

theorem named_admitted (name : String) : (named name).SlugAdmitted := by
  intro slug sent
  cases sent

/-- The first school of all. -/
def registered (name : String) : Outcome :=
  (PublicCall.registerSchool (named name)).run .plain (.quiet "s1" "a1") .empty

theorem foxAcademy_slug : ∃ school,
    (registered "Fox Academy Demo").world.db.schools.rows = [school] ∧
      school.slug = "fox-academy-demo" ∧ IsSlug school.slug := by
  have made : (registered "Fox Academy Demo").result.toOption.isSome ∧
      (registered "Fox Academy Demo").world.db.schools.rows.map School.slug =
        ["fox-academy-demo"] := by
    decide +kernel
  obtain ⟨done, slugs⟩ := made
  obtain ⟨school, rows, slug⟩ := List.map_eq_singleton_iff.mp slugs
  obtain ⟨-, stored⟩ := stored_slug_iff (named_admitted "Fox Academy Demo")
    (by decide +kernel : (Outside.quiet "s1" "a1").draw.Base36) (rfl : _ = registered "Fox Academy Demo")
  cases served : (registered "Fox Academy Demo").result with
  | error reason =>
      rw [served] at done
      cases done
  | ok response =>
      obtain ⟨other, -, listed, fair⟩ := stored response served
      obtain rfl : other = school := by
        rw [← List.mem_singleton, ← rows, listed]
        exact .inr rfl
      exact ⟨other, rows, slug, fair.mpr fun _ => by decide +kernel⟩

/-- Its first word and a hyphen fill sixty places. -/
def longName : String := String.ofList (List.replicate 59 'a') ++ " b"

theorem longName_hyphenated :
    (named longName).SlugAdmitted ∧ (Outside.quiet "s1" "a1").draw.Base36 ∧
      (registered longName).result.toOption.isSome ∧
      ∃ school, (registered longName).world.db.schools.rows = [school] ∧
        school.slug = String.ofList (List.replicate 59 'a') ++ "-" ∧ ¬ IsSlug school.slug := by
  have slugs : (registered longName).world.db.schools.rows.map School.slug =
      [String.ofList (List.replicate 59 'a') ++ "-"] := by
    decide +kernel
  have refused : ¬ IsSlug (String.ofList (List.replicate 59 'a') ++ "-") := by decide +kernel
  obtain ⟨school, rows, slug⟩ := List.map_eq_singleton_iff.mp slugs
  exact ⟨named_admitted longName, by decide +kernel, by decide +kernel, school, rows, slug,
    slug ▸ refused⟩

end TutorApp
