import ObjectStore.Yaml.Token

/-! # Tags in full

A handle stands for what the tags with it start with. Two handles are always known; the directives
in front of a document may give others, each once, or give these another meaning. They may also ask
for a version of the format, of which the first number has to be one.

* `Handles.ofDirectives`: the handles that some directives leave.
* `Handles.complete`: tokens with all tags in full. -/

namespace ObjectStore.Yaml

/-- What the tags with some handles start with. -/
abbrev Handles := List (String × String)

namespace Handles

/-- The handles that are always known. -/
def standard : Handles := [("!", "!"), ("!!", Kind.tagStart)]

/-- The handles that some directives leave. -/
def ofDirectives (directives : List Token) : Except Failure Handles :=
  let versions := directives.filterMap fun t =>
    match t with
    | .version major => some major
    | _ => none
  let handles := directives.filterMap fun t =>
    match t with
    | .handle name start => some (name, start)
    | _ => none
  if 1 < versions.length || versions.any (· != 1) then malformed
  else if (handles.map Prod.fst).eraseDups.length < handles.length then malformed
  else .ok (handles ++ standard)

/-- A token; its tag, if it is one, in full. -/
def completeToken (handles : Handles) : Token → Except Failure Token
  | .tag (some handle) name =>
    match handles.lookup handle with
    | some start => .ok (.tag none (start ++ name))
    | none => malformed
  | t => .ok t

/-- Some tokens with all tags in full. -/
def complete (handles : Handles) (ts : List Token) : Except Failure (List Token) :=
  ts.mapM handles.completeToken

end Handles

/-- Whether a token is a directive. -/
def Token.isDirective : Token → Bool
  | version _ => true
  | handle _ _ => true
  | directive => true
  | _ => false

/-- The tokens of a document with all tags in full, after the directives in front. -/
def Token.withTags (ts : List Token) : Except Failure (List Token) := do
  let directives := ts.takeWhile isDirective
  let rest := ts.drop directives.length
  if directives.isEmpty || rest.head? == some documentStart then
    let handles ← Handles.ofDirectives directives
    handles.complete rest
  else malformed

end ObjectStore.Yaml
