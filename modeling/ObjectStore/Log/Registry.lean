import ObjectStore.Log.Format
import ObjectStore.Text.Capital

/-! # Loggers

Loggers are known by dotted names, and a logger has one above it, whose name is in front of a dot in
its own, or the root. A logger passes a record on if the record's level is positive and not below
the logger's own level, or that of the nearest one above that has one. The record then goes to the
handlers of the logger and of all those above it. The loggers of this library's parts have no
handlers of their own.

* `Registry.make`: a registry with a logger of a name, and the loggers below it.
* `Registry.setup`, `Registry.get`, `Registry.setLevel`: making, finding and adjusting loggers.
* `Registry.emit`: logging a record. -/

namespace ObjectStore

/-- Where a handler writes. -/
inductive LogTarget
  | console
  | file
deriving DecidableEq, Repr

/-- A handler writes lines in a format to a target. -/
structure LogHandler where
  target : LogTarget
  format : LogFormat
deriving DecidableEq, Repr

/-- A logger; level zero leaves the decision to those above it. -/
structure Logger where
  name : String
  /-- The name of the logger above it; the root has none. -/
  above : Option String
  level : Int
  handlers : List LogHandler
deriving DecidableEq, Repr

/-- The loggers that there are, those that were set up, and what was written to the file. -/
structure Registry where
  loggers : List Logger
  configured : List String
  /-- The contents of the log file, once there is one. -/
  file : Option String
deriving Repr

namespace Registry

/-- The name of the logger above all others. -/
def rootName : String := "root"

/-- The name of this library's logger. -/
def packageName : String := "vectorclient"

/-- The loggers at the start: the root lets warnings pass, this library's everything from debug. -/
def initial : Registry :=
  ⟨[⟨rootName, none, Level.warning.number, []⟩,
    ⟨packageName, some rootName, Level.debug.number, []⟩], [], none⟩

/-- The name under which a logger is kept; the empty name is the root's. -/
def keyOf (name : String) : String := if name.isEmpty then rootName else name

/-- Whether there is a logger of a name. -/
def known (r : Registry) (name : String) : Bool := r.loggers.any (·.name == name)

/-- The names in which a logger may be found above a name whose letters are given from the last to
the first, nearest first: what is in front of its last dot, and so on before the last letter of
that. The fuel bounds the number of cuts. -/
def namesAbove : Nat → List Char → List String
  | 0, _ => []
  | fuel + 1, reversed =>
    match (reversed.dropWhile (· != '.')).drop 1 with
    | [] => []
    | last :: before => String.ofList (last :: before).reverse :: namesAbove fuel before

/-- The names in which a logger may be found above another. -/
def above (name : String) : List String := namesAbove name.length name.toList.reverse

/-- A logger with a new one above it, if that belongs between it and the one above it so far. It
does not if the name of the latter starts with its own. -/
def adopt (key : String) (l : Logger) : Logger :=
  let isNearer := (l.above.map fun name => !key.toList.isPrefixOf name.toList).getD false
  if isNearer && (above l.name).contains key then { l with above := some key } else l

/-- A registry with a logger of a name; a new one has no level and no handlers. -/
def make (r : Registry) (name : String) : Registry :=
  let key := keyOf name
  if r.known key then r
  else
    let nearest := ((above key).find? r.known).getD rootName
    { r with loggers := ⟨key, some nearest, 0, []⟩ :: r.loggers.map (adopt key) }

/-- The logger of a name. -/
def logger (r : Registry) (name : String) : Logger :=
  (r.loggers.find? (·.name == keyOf name)).getD ⟨keyOf name, some rootName, 0, []⟩

/-- The registry with a logger put in the place of the one of its name. -/
def store (r : Registry) (l : Logger) : Registry :=
  { r with loggers := l :: r.loggers.filter (·.name != l.name) }

/-- The attributes that a level's name can stand for, by number. -/
def levelNumbers : List (String × Int) :=
  [("CRITICAL", 50), ("FATAL", 50), ("ERROR", 40), ("WARNING", 30), ("WARN", 30), ("INFO", 20),
   ("DEBUG", 10), ("NOTSET", 0)]

/-- The number of the level that a value names, in letters of any case. -/
def levelOf (v : Value) : Except Failure Int :=
  match v with
  | .text s =>
    let name := Text.capital s
    match levelNumbers.lookup name with
    | some n => .ok n
    | none =>
      if name = "BASIC_FORMAT" then
        .error (.badValue (.unknownLevel "%(levelname)s:%(name)s:%(message)s"))
      else if name = "_STYLES" then .error (.misuse .levelNotNumber)
      else .error .missingAttribute
  | .bytes _ => .error (.misuse (.notText "bytes"))
  | _ => .error .missingAttribute

/-- A logger set up anew: its level, and handlers for the console and maybe for the file. What goes
wrong on the way leaves undone what comes after it. -/
def setup (r : Registry) (name : String) (level : Value) (format : Option String) (toFile : Bool) :
    Except Failure Logger × Registry :=
  let r := r.make name
  let l := r.logger name
  match levelOf level with
  | .error e => (.error e, r)
  | .ok n =>
    let l := { l with level := n, handlers := [] }
    match LogFormat.ofOptional format with
    | .error e => (.error e, r.store l)
    | .ok f =>
      let handlers := ⟨.console, f⟩ :: (if toFile then [⟨.file, f⟩] else [])
      let l := { l with handlers := handlers }
      let file := if toFile then some (r.file.getD "") else r.file
      (.ok l, { r.store l with configured := name :: r.configured, file := file })

/-- The logger of a name. One that is neither set up nor below this library's is set up now. -/
def get (r : Registry) (name : String) : Except Failure Logger × Registry :=
  if r.configured.contains name then (.ok (r.logger name), r)
  else if (packageName ++ ".").toList.isPrefixOf name.toList then
    let r := r.make name
    (.ok (r.logger name), r)
  else r.setup name (.text Level.info.name) none false

/-- The level of a logger changed; the logger is set up first if it has to be. -/
def setLevel (r : Registry) (level : Value) (name : String) : Except Failure Unit × Registry :=
  match r.get name with
  | (.error e, r) => (.error e, r)
  | (.ok l, r) =>
    match levelOf level with
    | .error e => (.error e, r)
    | .ok n => (.ok (), r.store { l with level := n })

/-- A logger and those above it, nearest first. The fuel bounds their number. -/
def lineage (r : Registry) : Nat → String → List Logger
  | 0, _ => []
  | fuel + 1, name =>
    let l := r.logger name
    l :: (l.above.map (lineage r fuel)).getD []

/-- A logger and those above it, nearest first. -/
def ancestors (r : Registry) (name : String) : List Logger := r.lineage r.loggers.length name

/-- The level that decides for a logger: its own or the nearest above it that is not zero. -/
def effectiveLevel (r : Registry) (name : String) : Int :=
  (((r.ancestors name).map Logger.level).find? (· != 0)).getD 0

/-- What the handlers for a target write of a line. -/
def written (handlers : List LogHandler) (target : LogTarget) (line : LogLine) : String :=
  String.join ((handlers.filter (·.target == target)).map fun h => h.format.render line)

/-- A record logged: what is written to the console, and the registry afterwards. -/
def emit (r : Registry) (name : String) (level : Int) (message : String) :
    Except Failure String × Registry :=
  match r.get name with
  | (.error e, r) => (.error e, r)
  | (.ok l, r) =>
    if level ≤ 0 || level < r.effectiveLevel l.name then (.ok "", r)
    else
      let line : LogLine := ⟨level, l.name, message⟩
      let handlers := (r.ancestors l.name).flatMap Logger.handlers
      let file := r.file.map (· ++ written handlers .file line)
      (.ok (written handlers .console line), { r with file := file })

end Registry

end ObjectStore
