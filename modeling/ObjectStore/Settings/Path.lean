import ObjectStore.Failure.Basic

/-! # Paths

The normal form of a path: empty and single-dot segments are dropped, the empty path is a single
dot. One or exactly two slashes at the front are kept, more count as one. A path leads segment by
segment from the current directory, of whose files the paths are known, or from the root.

* `Path.normal`: the normal form of a path.
* `Path.target`: where a path in normal form leads. -/

namespace ObjectStore.Path

/-- A text cut at its slashes. -/
def segments : List Char → List (List Char)
  | [] => [[]]
  | '/' :: cs => [] :: segments cs
  | c :: cs =>
    match segments cs with
    | [] => [[c]]
    | s :: later => (c :: s) :: later

/-- Whether a segment says something. -/
def isProper (segment : List Char) : Bool := !segment.isEmpty && segment != ['.']

/-- The slashes that a path keeps at its front. -/
def root (cs : List Char) : List Char :=
  match (cs.takeWhile (· == '/')).length with
  | 0 => []
  | 2 => ['/', '/']
  | _ => ['/']

/-- The segments of a path that say something. -/
def proper (path : String) : List (List Char) := (segments path.toList).filter isProper

/-- The normal form of a path. -/
def normal (path : String) : String :=
  let start := root path.toList
  if start.isEmpty && (proper path).isEmpty then "."
  else String.ofList (start ++ List.intercalate ['/'] (proper path))

/-- Where a path leads. -/
inductive Target
  /-- A file or a directory below the current one, or that itself. -/
  | below (segments : List (List Char))
  | root
  /-- A directory of which only the one above it is known. -/
  | elsewhere
  | nowhere
deriving DecidableEq, Repr

/-- The segment that leads to the directory above. -/
def upward : List Char := ['.', '.']

/-- The directories that every root has. -/
def topDirectories : List String :=
  ["bin", "boot", "dev", "etc", "home", "lib", "media", "mnt", "opt", "proc", "root", "run", "sbin",
   "srv", "sys", "tmp", "usr", "var"]

/-- The greatest number of bytes of a segment. -/
def maxSegment : Nat := 255

/-- The greatest number of bytes of a path. -/
def maxPath : Nat := 4095

/-- Whether some segments lead to a directory, which some of the files are below. -/
def isDirectory (files : List (List (List Char))) (segments : List (List Char)) : Bool :=
  segments.isEmpty || files.any fun f => segments.isPrefixOf f && segments.length < f.length

/-- Where a segment leads from a directory. -/
def enter (files : List (List (List Char))) (segment : List Char) : Target → Target
  | .below segments =>
    let deeper := segments ++ [segment]
    if files.contains deeper || isDirectory files deeper then .below deeper else .nowhere
  | .root => if topDirectories.contains (String.ofList segment) then .elsewhere else .nowhere
  | _ => .nowhere

/-- Where one leads by going up from a directory. -/
def above : Target → Target
  | .below segments => if segments.isEmpty then .elsewhere else .below segments.dropLast
  | t => t

/-- Whether a target is a directory. -/
def Target.isDirectory (files : List (List (List Char))) : Target → Bool
  | .below segments => Path.isDirectory files segments
  | .nowhere => false
  | _ => true

/-- Where one more segment leads; only a directory is left, and for a name of any length asked. -/
def step (files : List (List (List Char))) (t : Target) (segment : List Char) :
    Except Failure Target :=
  if !t.isDirectory files then .ok .nowhere
  else if segment == upward then .ok (above t)
  else if maxSegment < (String.ofList segment).utf8ByteSize then .error .nameTooLong
  else .ok (enter files segment t)

/-- Where a path in normal form leads; a path with a null character leads nowhere. -/
def target (files : List (List (List Char))) (path : String) : Except Failure Target :=
  if path.toList.contains '\x00' then .ok .nowhere
  else if maxPath < path.utf8ByteSize then .error .nameTooLong
  else
    let start : Target := if (root path.toList).isEmpty then .below [] else .root
    (proper path).foldlM (step files) start

end ObjectStore.Path
