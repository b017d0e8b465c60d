import ObjectStore.Settings.Basic
import ObjectStore.Text.Capital
import ObjectStore.Value.Mapping

/-! # Reading settings

A configuration from a mapping of up to three sections and a log level. A section that is missing or
counts as false is standard; every section and every field of a section has to be known. What cannot
be used as a section or compared with zero is objected to like any other bad setting.

* `Settings.ofValue`: the configuration of a value. -/

namespace ObjectStore.Settings

/-- The name by which the connection section is known. -/
def connectionSection : String := "ConnectionConfig"

/-- The name by which the retry section is known. -/
def retrySection : String := "RetryConfig"

/-- The name by which the query section is known. -/
def querySection : String := "QueryConfig"

/-- The name by which the whole configuration is known. -/
def wholeSection : String := "Settings"

/-- The keys of the sections. -/
def sections : List String := ["connection", "retry", "query"]

/-- The first key of `es` that is none of the `known` names. -/
def firstUnknown? (known : List String) (es : Entries) : Option String :=
  (es.filterMap fun e => e.1.text?).find? fun key => !known.contains key

/-- The name under which every section already has itself as a field. -/
def ownName : String := "self"

/-- The fields `es` of the section `name`, if each has a `known` name. -/
def knownFields (name : String) (known : List String) (es : Entries) : Except Failure Entries :=
  if es.any fun e => e.1.text?.isNone then .error (.misuse .argumentNameNotText)
  else
    match firstUnknown? known es with
    | some key =>
      .error (.misuse
        (if key == ownName then .repeatedArgument name key else .unexpectedArgument name key))
    | none => .ok es

/-- The fields of the section in `v`; its `home` is where it is known by its `name`. -/
def sectionFields (home name : String) (known : List String) (v : Value) :
    Except Failure Entries :=
  if v.truthy then
    match v with
    | .dict es => knownFields name known es
    | v => .error (.misuse (.argumentsNotMapping (home ++ "." ++ name) v.qualifiedTypeName))
  else .ok []

/-- The field `key` of `es`, or `standard` without one. -/
def fieldOr (es : Entries) (key : String) (standard : Value) : Value :=
  (Entries.getText? key es).getD standard

/-- The time limit that `v` gives: a number that is not below or equal to zero. -/
def timeoutOf (v : Value) : Except Failure Number :=
  match v.number? with
  | none => .error (.misuse (.unordered "<=" v.qualifiedTypeName "int"))
  | some x => if x.le (.int 0) then .error (.rejected v (.timeoutNotPositive x)) else .ok x

/-- The way to reach the store that a section gives. -/
def connectionOf (section? : Value) : Except Failure ConnectionSettings := do
  let es ← sectionFields "vectorclient.config.settings" connectionSection
    ["url", "api_key", "timeout", "headers"] section?
  let url := fieldOr es "url" standardConnection.url
  if !url.truthy then .error (.invalid .urlEmpty)
  else
    let timeout ← timeoutOf (fieldOr es "timeout" (.ofNumber standardConnection.timeout))
    .ok ⟨url, fieldOr es "api_key" standardConnection.apiKey, timeout,
      fieldOr es "headers" standardConnection.headers⟩

/-- The way to try again that the fields `es` give. -/
def retryOfFields (es : Entries) : Except Failure RetrySettings := do
  let standard := standardRetry
  let policy ← RetryPolicy.make (fieldOr es "max_retries" (.int standard.policy.maxRetries))
    (fieldOr es "base_delay" (.ofNumber standard.policy.baseDelay))
    (fieldOr es "max_delay" (.ofNumber standard.policy.maxDelay))
  .ok ⟨policy, fieldOr es "enabled" standard.enabled⟩

/-- The way to try again that a section gives. -/
def retryOf (section? : Value) : Except Failure RetrySettings := do
  let es ← sectionFields "vectorclient.retry.executor" retrySection
    ["max_retries", "base_delay", "max_delay", "enabled"] section?
  retryOfFields es

/-- What to do without fields, as a section gives it. -/
def emptySelectionOf (section? : Value) : Except Failure EmptySelection := do
  let es ← sectionFields "vectorclient.config.settings" querySection ["empty_selection"] section?
  let v := fieldOr es "empty_selection" (.text EmptySelection.idOnly.name)
  match EmptySelection.ofValue v with
  | .ok p => .ok p
  | .error e => .error ((Failure.rejected v (.badEmptySelection v)).causedBy e)

/-- The log level that `v` names, in letters of any case. -/
def logLevelOf (v : Value) : Except Failure Level :=
  match v.text?.bind fun s => Level.ofName? (Text.capital s) with
  | some l => .ok l
  | none => .error (.rejected v (.badLogLevel v logLevels))

/-- A misuse met on the way, as an objection to the configuration. -/
def objection : Failure → Failure
  | .misuse m => (Failure.invalid (.badConfiguration m.message)).causedBy (.misuse m)
  | e => e

/-- The configuration that the entries `es` give. -/
def ofEntries (es : Entries) : Except Failure Settings := do
  let connection ← connectionOf (fieldOr es "connection" .null)
  let retry ← retryOf (fieldOr es "retry" .null)
  let emptySelection ← emptySelectionOf (fieldOr es "query" .null)
  let rest := sections.foldl (fun es key => Entries.eraseText key es) es
  let rest ← knownFields wholeSection ["log_level"] rest
  let logLevel ← logLevelOf (fieldOr rest "log_level" (.text standard.logLevel.name))
  .ok ⟨connection, retry, emptySelection, logLevel⟩

/-- The configuration of `v`: a mapping or a sequence of pairs. -/
def ofValue (v : Value) : Except Failure Settings := do
  let es ← Entries.ofValue v
  (ofEntries es).mapError objection

end ObjectStore.Settings
