import ObjectStore.Log.Level
import ObjectStore.Query.EmptySelection
import ObjectStore.Retry.Policy
import ObjectStore.Value.Unfolded

/-! # Settings

The configuration of a client: how to reach the store, how to try again, how to query and what to
log. -/

namespace ObjectStore

/-- How to reach the store. -/
structure ConnectionSettings where
  /-- The address; any value that counts as true. -/
  url : Value
  apiKey : Value
  /-- The time limit of a request, in seconds; not below or equal to zero. -/
  timeout : Number
  headers : Value
deriving Repr

/-- How to try again. -/
structure RetrySettings where
  policy : RetryPolicy
  /-- Whether to try again at all. -/
  enabled : Value
deriving Repr

/-- The configuration of a client. -/
structure Settings where
  connection : ConnectionSettings
  retry : RetrySettings
  emptySelection : EmptySelection
  logLevel : Level
deriving Repr

namespace Settings

/-- The names of the levels that the log can be set to. -/
def logLevels : List String := Level.all.map Level.name

/-- The standard way to reach the store. -/
def standardConnection : ConnectionSettings :=
  ⟨.text "http://localhost:8080", .null, RetryPolicy.seconds 30 1, .dict []⟩

/-- The standard way to try again. -/
def standardRetry : RetrySettings := ⟨RetryPolicy.standard, .bool true⟩

/-- The standard configuration. -/
def standard : Settings := ⟨standardConnection, standardRetry, .idOnly, .info⟩

/-- The entries of the way `c` to reach the store. -/
def connectionEntries (c : ConnectionSettings) : Except Failure Entries := do
  let url ← c.url.unfolded
  let apiKey ← c.apiKey.unfolded
  let headers ← c.headers.unfolded
  .ok [(.text "url", url), (.text "api_key", apiKey), (.text "timeout", .ofNumber c.timeout),
    (.text "headers", headers)]

/-- The entries of the way `r` to try again. -/
def retryEntries (r : RetrySettings) : Except Failure Entries := do
  let enabled ← r.enabled.unfolded
  .ok [(.text "max_retries", .int r.policy.maxRetries),
    (.text "base_delay", .ofNumber r.policy.baseDelay),
    (.text "max_delay", .ofNumber r.policy.maxDelay), (.text "enabled", enabled)]

/-- The entries of the configuration `s`, if each of its values can be unfolded. -/
def entries (s : Settings) : Except Failure Entries := do
  let connection ← connectionEntries s.connection
  let retry ← retryEntries s.retry
  .ok [(.text "connection", .dict connection), (.text "retry", .dict retry),
    (.text "query", .dict [(.text "empty_selection", .text s.emptySelection.name)]),
    (.text "log_level", .text s.logLevel.name)]

end Settings

end ObjectStore
