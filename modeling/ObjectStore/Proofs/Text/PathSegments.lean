import Mathlib

/-! # Segments of paths

A path from the root is a list of segments, each with a slash before it. Before a path is used, its
dot segments are removed: one dot stands for nothing, two dots take back the segment before them,
and a dot segment at the end leaves an empty segment there. A path without dot segments is left as
it is.

* `rooted`: the path of some segments, which are read back by `splitOn_rooted`.
* `removeDots`: a path without its dot segments.
* `removeDots_eq_self`, `removeDots_rooted_dot`, `removeDots_rooted_dots`: what is left of a path,
  by its last segment. -/

namespace ObjectStore.Text.Path

variable {segments front : List (List Char)}

/-! ## Paths and their segments -/

/-- The path from the root along `segments`. -/
def rooted (segments : List (List Char)) : List Char := '/' :: ['/'].intercalate segments

/-- `(rooted segments).splitOn '/' = [] :: segments`: the segments of a path are read back behind
the root. -/
theorem splitOn_rooted (hne : segments ≠ []) (h : ∀ s ∈ segments, '/' ∉ s) :
    (rooted segments).splitOn '/' = [] :: segments := by
  have hsplit := List.splitOn_intercalate '/' h hne
  rw [rooted, ← List.nil_append ('/' :: _),
    List.splitOn_append_cons_self_of_not_mem List.not_mem_nil, hsplit]

/-! ## Dot segments -/

/-- Whether `segment` is a dot segment. -/
def isDots (segment : List Char) : Bool := segment = ['.'] || segment = ['.', '.']

/-- The segments that are `kept`, the last one first, with `segment` looked at. -/
def keep (kept : List (List Char)) (segment : List Char) : List (List Char) :=
  if segment = ['.'] then kept
  else if segment = ['.', '.'] then kept.tail
  else segment :: kept

/-- The `segments` without the dot segments. -/
def withoutDots (segments : List (List Char)) : List (List Char) :=
  let kept := (segments.foldl keep []).reverse
  if segments.getLast?.any isDots then kept ++ [[]] else kept

/-- A path from the root without its dot segments. -/
def removeDots : List Char → List Char
  | '/' :: path => rooted (withoutDots (path.splitOn '/'))
  | path => path

/-- `keep kept segment = segment :: kept` for a segment that is no dot segment. -/
theorem keep_of_isDots_eq_false {segment : List Char} (h : isDots segment = false)
    (kept : List (List Char)) : keep kept segment = segment :: kept := by
  have hne : segment ≠ ['.'] ∧ segment ≠ ['.', '.'] := by simpa [isDots] using h
  rw [keep, if_neg hne.1, if_neg hne.2]

/-- `segments.foldl keep kept = segments.reverse ++ kept`: segments other than dot segments are all
kept. -/
theorem foldl_keep (h : ∀ s ∈ segments, isDots s = false) (kept : List (List Char)) :
    segments.foldl keep kept = segments.reverse ++ kept := by
  induction segments generalizing kept with
  | nil => rfl
  | cons s segments ih =>
    obtain ⟨hs, hrest⟩ := List.forall_mem_cons.mp h
    rw [List.foldl_cons, keep_of_isDots_eq_false hs, ih hrest, List.reverse_cons,
      List.append_assoc, List.singleton_append]

/-- `withoutDots segments = segments` if there are no dot segments. -/
theorem withoutDots_eq_self (h : ∀ s ∈ segments, isDots s = false) :
    withoutDots segments = segments := by
  have hlast : segments.getLast?.any isDots = false := by
    rw [Option.any_eq_false]
    exact fun s hs => h s (List.mem_of_getLast? hs)
  rw [withoutDots, hlast, foldl_keep h]
  simp

/-- `withoutDots (front ++ [['.']]) = front ++ [[]]`: of a single dot at the end an empty segment is
left. -/
theorem withoutDots_dot (h : ∀ s ∈ front, isDots s = false) :
    withoutDots (front ++ [['.']]) = front ++ [[]] := by
  rw [withoutDots, List.foldl_append, foldl_keep h]
  simp [keep, isDots]

/-- `withoutDots (front ++ [last] ++ [['.', '.']]) = front ++ [[]]`: two dots take back the segment
before them. -/
theorem withoutDots_dots {last : List Char} (h : ∀ s ∈ front ++ [last], isDots s = false) :
    withoutDots (front ++ [last] ++ [['.', '.']]) = front ++ [[]] := by
  rw [withoutDots, List.foldl_append, foldl_keep h]
  simp [keep, isDots]

/-- `removeDots (rooted segments) = rooted (withoutDots segments)` for segments without slashes. -/
theorem removeDots_rooted (hne : segments ≠ []) (hslash : ∀ s ∈ segments, '/' ∉ s) :
    removeDots (rooted segments) = rooted (withoutDots segments) := by
  rw [rooted, removeDots, List.splitOn_intercalate '/' hslash hne]

example : removeDots "/a/b/c/./../../g".toList = "/a/g".toList := by decide

/-- `removeDots (rooted segments) = rooted segments`: A path without dot segments is left as it
is. -/
theorem removeDots_eq_self (hne : segments ≠ []) (hslash : ∀ s ∈ segments, '/' ∉ s)
    (hdots : ∀ s ∈ segments, isDots s = false) :
    removeDots (rooted segments) = rooted segments := by
  rw [removeDots_rooted hne hslash, withoutDots_eq_self hdots]

/-- `removeDots`: of one dot at the end an empty segment is left. -/
theorem removeDots_rooted_dot (hslash : ∀ s ∈ front, '/' ∉ s)
    (hdots : ∀ s ∈ front, isDots s = false) :
    removeDots (rooted (front ++ [['.']])) = rooted (front ++ [[]]) := by
  have hall : ∀ s ∈ front ++ [['.']], '/' ∉ s :=
    List.forall_mem_append.mpr ⟨hslash, by simp⟩
  rw [removeDots_rooted (by simp) hall, withoutDots_dot hdots]

/-- `removeDots`: of two dots at the end and the segment before them an empty segment is left. -/
theorem removeDots_rooted_dots {last : List Char} (hslash : ∀ s ∈ front ++ [last], '/' ∉ s)
    (hdots : ∀ s ∈ front ++ [last], isDots s = false) :
    removeDots (rooted (front ++ [last] ++ [['.', '.']])) = rooted (front ++ [[]]) := by
  have hall : ∀ s ∈ front ++ [last] ++ [['.', '.']], '/' ∉ s :=
    List.forall_mem_append.mpr ⟨hslash, by simp⟩
  rw [removeDots_rooted (by simp) hall, withoutDots_dots hdots]

end ObjectStore.Text.Path
