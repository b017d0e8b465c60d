import ObjectStore.Settings.Path
import ObjectStore.Settings.Reader
import ObjectStore.Yaml.Reader

/-! # Configuration files

A configuration is read from the file at a given path, else at the path that the environment names,
else at the default path. A file that does not exist or says nothing gives the standard
configuration. -/

namespace ObjectStore

/-- What configurations are read from: the files of the current directory and a path from the
environment. -/
structure ConfigSource where
  /-- Paths with the texts of the files. -/
  files : List (String × String)
  environment : Option String
deriving Repr

namespace ConfigSource

/-- The name of the environment's variable for the path. -/
def variableName : String := "VECTORCLIENT_CONFIG"

/-- The path of the file in use unless another is asked for. -/
def standardPath : String := "./vectorclient.yaml"

/-- The path in use unless another is asked for, in normal form: the one in the environment of
`source`, or else `standardPath`. -/
def defaultPath (source : ConfigSource) : String :=
  match source.environment with
  | none => Path.normal standardPath
  | some path => if path.isEmpty then Path.normal standardPath else Path.normal path

/-- The path that a value asks for, in normal form. -/
def pathOf (source : ConfigSource) : Value → Except Failure String
  | .null => .ok source.defaultPath
  | .text s => .ok (Path.normal s)
  | v => .error (.misuse (.notText v.typeName))

/-- The text of the file at `path`, which is in normal form; nothing if there is none. -/
def textAt? (source : ConfigSource) (path : String) : Except Failure (Option String) := do
  let files := source.files.map fun file => (Path.proper file.1, file.2)
  let paths := files.map Prod.fst
  match ← Path.target paths path with
  | .nowhere => .ok none
  | .below segments =>
    match files.lookup segments with
    | some text => .ok (some text)
    | none => .error .isDirectory
  | _ => .error .isDirectory

/-- The configuration at the `path` that is asked for. -/
def load (source : ConfigSource) (path : Value) : Except Failure Settings := do
  let path ← source.pathOf path
  match ← source.textAt? path with
  | none => .ok Settings.standard
  | some text =>
    let v ← Yaml.read Settings.sections text
    match v with
    | .null => .ok Settings.standard
    | .dict es => Settings.ofValue (.dict es)
    | _ => .error (.invalid (.configurationNotMapping path))

end ConfigSource

end ObjectStore
