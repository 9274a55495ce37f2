import Mathlib.Data.List.Basic

set_option autoImplicit false

/-! Paths of a POSIX system as the path module of Node works on them: segments between slashes,
and what is left of an absolute path once `.` and `..` are followed. -/

namespace PosixPath

abbrev Segment := List Char

/-- A name: not empty, no slash, and none of the two that stand for a directory. -/
structure Plain (segment : Segment) : Prop where
  nonempty : segment ≠ []
  whole : '/' ∉ segment
  notHere : segment ≠ ['.']
  notUp : segment ≠ ['.', '.']

instance (segment : Segment) : Decidable (Plain segment) :=
  decidable_of_iff (segment ≠ [] ∧ '/' ∉ segment ∧ segment ≠ ['.'] ∧ segment ≠ ['.', '.'])
    ⟨fun ⟨nonempty, whole, notHere, notUp⟩ => ⟨nonempty, whole, notHere, notUp⟩,
      fun ⟨nonempty, whole, notHere, notUp⟩ => ⟨nonempty, whole, notHere, notUp⟩⟩

/-- One segment, from the directory the ones before it lead to; nothing is above the root. -/
def enter (place : List Segment) (segment : Segment) : List Segment :=
  if segment = [] ∨ segment = ['.'] then place
  else if segment = ['.', '.'] then place.dropLast
  else place ++ [segment]

def walk (place segments : List Segment) : List Segment := segments.foldl enter place

def segments (path : List Char) : List Segment := path.splitOn '/'

/-- Where an absolute path leads. -/
def normalized (path : List Char) : List Segment := walk [] (segments path)

def render (place : List Segment) : List Char := '/' :: ['/'].intercalate place

/-- `path.normalize` of an absolute path, which keeps a slash at the end. -/
def normalize (path : List Char) : List Char :=
  let name := ['/'].intercalate (normalized path)
  if name = [] then ['/']
  else '/' :: name ++ if path.getLast? = some '/' then ['/'] else []

/-- `path.join` of an absolute path and another. -/
def join (base path : List Char) : List Char :=
  normalize (if path = [] then base else base ++ '/' :: path)

/-- `path.resolve` of one path, in a working directory. -/
def resolve (cwd path : List Char) : List Char :=
  render (normalized (if path.head? = some '/' then path else cwd ++ '/' :: path))

variable {place other left right : List Segment} {path rest : List Char}

theorem enter_plain {segment : Segment} (plain : Plain segment) :
    enter place segment = place ++ [segment] := by
  rw [enter, if_neg (not_or.mpr ⟨plain.nonempty, plain.notHere⟩), if_neg plain.notUp]

theorem walk_append (place left right : List Segment) :
    walk place (left ++ right) = walk (walk place left) right := List.foldl_append

theorem walk_plain (plain : ∀ segment ∈ right, Plain segment) :
    walk place right = place ++ right := by
  induction right generalizing place with
  | nil => exact (List.append_nil place).symm
  | cons segment rest ih =>
      rw [walk, List.foldl_cons, enter_plain (plain segment List.mem_cons_self)]
      have later : walk (place ++ [segment]) rest = place ++ [segment] ++ rest :=
        ih fun other member => plain other (List.mem_cons_of_mem _ member)
      rw [walk] at later
      rw [later, List.append_assoc, List.singleton_append]

/-- Whatever path is followed, what it leads through are names. -/
theorem enter_keeps {segment : Segment} (plain : ∀ name ∈ place, Plain name)
    (whole : '/' ∉ segment) : ∀ name ∈ enter place segment, Plain name := by
  intro name member
  unfold enter at member
  split at member
  · exact plain name member
  · rename_i given
    rw [not_or] at given
    split at member
    · exact plain name (List.dropLast_subset place member)
    · rename_i down
      rcases List.mem_append.mp member with old | new
      · exact plain name old
      · rw [List.mem_singleton.mp new]
        exact ⟨given.1, whole, given.2, down⟩

theorem walk_keeps (plain : ∀ name ∈ place, Plain name) (whole : ∀ segment ∈ right, '/' ∉ segment) :
    ∀ name ∈ walk place right, Plain name := by
  induction right generalizing place with
  | nil => exact plain
  | cons segment rest ih =>
      exact ih (enter_keeps plain (whole segment List.mem_cons_self)) fun other member =>
        whole other (List.mem_cons_of_mem _ member)

theorem segments_whole (path : List Char) : ∀ segment ∈ segments path, '/' ∉ segment := by
  induction path with
  | nil =>
      intro segment member
      rw [segments, List.splitOn_nil, List.mem_singleton] at member
      rw [member]
      exact List.not_mem_nil
  | cons c tail ih =>
      intro segment member
      obtain ⟨first, more, pieces⟩ := List.exists_cons_of_ne_nil (List.splitOn_ne_nil '/' tail)
      rw [segments, pieces] at ih
      rw [segments, List.splitOn_cons_eq_if_modifyHead, pieces] at member
      split at member
      · rcases List.mem_cons.mp member with rfl | later
        · exact List.not_mem_nil
        · exact ih segment later
      · rename_i other
        rw [List.modifyHead_cons] at member
        rcases List.mem_cons.mp member with rfl | later
        · rw [List.mem_cons, not_or]
          exact ⟨fun same => other (beq_iff_eq.mpr same.symm), ih first List.mem_cons_self⟩
        · exact ih segment (List.mem_cons_of_mem _ later)

theorem normalized_plain (path : List Char) : ∀ name ∈ normalized path, Plain name :=
  walk_keeps (fun _ none => absurd none List.not_mem_nil) (segments_whole path)

theorem segments_render (plain : ∀ name ∈ place, Plain name) (some : place ≠ []) :
    segments (render place) = [] :: place := by
  rw [segments, render, List.splitOn_cons_eq_if_modifyHead, if_pos (beq_self_eq_true _),
    List.splitOn_intercalate '/' (fun name member => (plain name member).whole) some]

/-- An absolute path that is in order leads where it says. -/
theorem normalized_render (plain : ∀ name ∈ place, Plain name) :
    normalized (render place) = place := by
  by_cases none : place = []
  · rw [none]
    rfl
  · rw [normalized, segments_render plain none, walk, List.foldl_cons]
    exact (walk_plain plain).trans (List.nil_append place)

theorem render_injective (left_plain : ∀ name ∈ left, Plain name)
    (right_plain : ∀ name ∈ right, Plain name) (same : render left = render right) :
    left = right := by
  rw [← normalized_render left_plain, same, normalized_render right_plain]

theorem normalized_slash (path rest : List Char) :
    normalized (path ++ '/' :: rest) = walk (normalized path) (segments rest) := by
  rw [normalized, segments, List.splitOn_append_cons_self, walk_append]
  rfl

/-- Putting a path in order leads nowhere else. -/
theorem normalized_normalize (path : List Char) :
    normalized (normalize path) = normalized path := by
  have plain := normalized_plain path
  have ordered := normalized_render plain
  unfold normalize
  dsimp only
  split
  · rename_i none
    rw [render, none] at ordered
    rw [← ordered]
  · split
    · show normalized (render (normalized path) ++ ['/']) = _
      rw [normalized_slash, ordered]
      rfl
    · rw [List.append_nil]
      exact ordered

theorem intercalate_append (left_some : left ≠ []) (right_some : right ≠ []) :
    ['/'].intercalate (left ++ right) = ['/'].intercalate left ++ '/' :: ['/'].intercalate right := by
  induction left with
  | nil => exact absurd rfl left_some
  | cons first more ih =>
      by_cases last : more = []
      · rw [last, List.singleton_append, List.intercalate_cons_of_ne_nil right_some,
          List.intercalate_singleton, List.append_assoc, List.singleton_append]
      · rw [List.cons_append, List.intercalate_cons_of_ne_nil last,
          List.intercalate_cons_of_ne_nil (List.append_ne_nil_of_left_ne_nil last right), ih last,
          List.append_assoc, List.append_assoc, List.append_assoc]

/-- No path in order starts with two slashes. -/
theorem not_slash_slash (plain : ∀ name ∈ other, Plain name) :
    ¬render [] ++ ['/'] <+: render other := by
  rintro ⟨tail, goes⟩
  cases other with
  | nil =>
      have short := congrArg List.length goes
      simp [render] at short
  | cons name more =>
      have first := plain name List.mem_cons_self
      obtain ⟨c, letters, rfl⟩ := List.exists_cons_of_ne_nil first.nonempty
      have starts : ∃ after, render ((c :: letters) :: more) = '/' :: c :: after := by
        cases more with
        | nil => exact ⟨letters, by rw [render, List.intercalate_singleton]⟩
        | cons second others => exact ⟨_, by rw [render, List.intercalate_cons_cons]; rfl⟩
      obtain ⟨after, shape⟩ := starts
      rw [shape] at goes
      have slash : '/' = c := (List.cons.inj (List.cons.inj goes).2).1
      exact first.whole (slash ▸ List.mem_cons_self)

/-- One place is below another if and only if its path goes on where the other's ends; below the
top, where every path is, none does. -/
theorem render_below_iff (plain : ∀ name ∈ place, Plain name)
    (other_plain : ∀ name ∈ other, Plain name) : render place ++ ['/'] <+: render other ↔
      place ≠ [] ∧ ∃ rest, rest ≠ [] ∧ other = place ++ rest := by
  constructor
  · intro inside
    have some : place ≠ [] := fun top => not_slash_slash other_plain (top ▸ inside)
    obtain ⟨tail, goes⟩ := inside
    rw [List.append_assoc, List.singleton_append] at goes
    have nonempty : other ≠ [] := by
      rintro rfl
      have short := congrArg List.length goes
      simp [render] at short
    have pieces := congrArg segments goes
    rw [segments, List.splitOn_append_cons_self, ← segments, ← segments, segments_render plain some,
      segments_render other_plain nonempty, List.cons_append] at pieces
    exact ⟨some, segments tail, List.splitOn_ne_nil '/' tail, (List.cons.inj pieces).2.symm⟩
  · rintro ⟨some, rest, nonempty, rfl⟩
    refine ⟨['/'].intercalate rest, ?_⟩
    rw [render, render, intercalate_append some nonempty, List.append_assoc,
      List.singleton_append, List.cons_append]

end PosixPath
