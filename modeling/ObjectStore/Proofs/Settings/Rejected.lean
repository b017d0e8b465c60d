import Mathlib
import ObjectStore.Proofs.Settings.Parts

/-! # Configurations that are refused

Whatever a mapping holds, reading it as a configuration gives settings or an objection: what is
unknown, of the wrong kind or not to be compared is objected to like what is out of range. One way
out is left. An objection to a value shows that value, and a whole number of too many digits cannot
be written, so that the objection itself fails.

* `Settings.IsRefusal`: how the readers of the parts fail, one lemma for each of them.
* `Settings.ofValue_accepts_or_objects`: what comes of any mapping. -/

namespace ObjectStore

namespace Settings

variable {shown more : List Value} {e : Failure} {v : Value}

/-! ## Failures of readers -/

/-- How a reader fails that shows the values `shown` in its objections: by a misuse, which is
objected to in the end, by an objection, or because one of the values cannot be written. -/
inductive IsRefusal (shown : List Value) : Failure → Prop
  | misuse (m : Misuse) : IsRefusal shown (.misuse m)
  | objection {e : Failure} (h : e.className = "ValidationError") : IsRefusal shown e
  | unwritten {v : Value} (hv : v ∈ shown) (h : v.isWritable = false) :
      IsRefusal shown (.badValue .numberTooLong)

/-- `IsRefusal more e`: A refusal that shows some values is one that shows more. -/
theorem IsRefusal.mono (h : IsRefusal shown e) (hsub : shown ⊆ more) : IsRefusal more e := by
  cases h with
  | misuse m => exact .misuse m
  | objection h => exact .objection h
  | unwritten hv h => exact .unwritten (hsub hv) h

/-- An objection that shows `v` is a refusal, also where `v` cannot be written. -/
theorem isRefusal_rejected (hv : v ∈ shown) (i : Invalid) :
    IsRefusal shown (.rejected v i) := by
  unfold Failure.rejected
  split
  · exact .objection rfl
  · next h => exact .unwritten hv (by simpa using h)

/-- `IsRefusal shown (e.causedBy cause)`: A refusal with a cause is a refusal. -/
theorem IsRefusal.causedBy (h : IsRefusal shown e) (cause : Failure) :
    IsRefusal shown (e.causedBy cause) := by
  cases h with
  | misuse m => exact .misuse m
  | objection h => exact .objection (by rw [Failure.className_causedBy, h])
  | unwritten hv h => exact .unwritten hv h

/-- `knownFields name known es = .error e`: fields that are not known are a misuse. -/
theorem exists_misuse_of_knownFields {name : String} {known : List String} {es : Entries}
    (h : knownFields name known es = .error e) : ∃ m, e = .misuse m := by
  unfold knownFields at h
  split at h
  · cases h
    exact ⟨_, rfl⟩
  · split at h <;> cases h
    exact ⟨_, rfl⟩

/-- `sectionFields home name known v = .error e`: A section that cannot be read, or has fields that
are not known, is a misuse. -/
theorem exists_misuse_of_sectionFields {home name : String} {known : List String}
    (h : sectionFields home name known v = .error e) : ∃ m, e = .misuse m := by
  unfold sectionFields at h
  split at h
  · split at h
    · exact exists_misuse_of_knownFields h
    · cases h
      exact ⟨_, rfl⟩
  · cases h

/-- `timeoutOf` refuses, showing the timeout. -/
theorem isRefusal_timeoutOf (h : timeoutOf v = .error e) : IsRefusal [v] e := by
  unfold timeoutOf at h
  split at h
  · cases h
    exact .misuse _
  · split at h
    · cases h
      exact isRefusal_rejected List.mem_cons_self _
    · cases h

/-- `RetryPolicy.retriesOf` refuses, showing the number of retries. -/
theorem isRefusal_retriesOf (h : RetryPolicy.retriesOf v = .error e) : IsRefusal [v] e := by
  unfold RetryPolicy.retriesOf at h
  split at h
  · split at h
    · cases h
      exact isRefusal_rejected List.mem_cons_self _
    · cases h
  · cases h
    exact .objection rfl

/-- `RetryPolicy.delayOf` refuses, showing the delay. -/
theorem isRefusal_delayOf {objection : Number → Invalid}
    (h : RetryPolicy.delayOf objection v = .error e) : IsRefusal [v] e := by
  unfold RetryPolicy.delayOf at h
  split at h
  · cases h
    exact .misuse _
  · split at h
    · cases h
      exact isRefusal_rejected List.mem_cons_self _
    · cases h

/-- `RetryPolicy.make maxRetries baseDelay maxDelay = .error e`: A policy that is not made is
refused, showing one of its values. -/
theorem isRefusal_make {maxRetries baseDelay maxDelay : Value}
    (h : RetryPolicy.make maxRetries baseDelay maxDelay = .error e) :
    IsRefusal [maxRetries, baseDelay, maxDelay] e := by
  rcases bind_eq_error h with h | ⟨_, -, h⟩
  · exact (isRefusal_retriesOf h).mono (by simp)
  rcases bind_eq_error h with h | ⟨_, -, h⟩
  · exact (isRefusal_delayOf h).mono (by simp)
  rcases bind_eq_error h with h | ⟨_, -, h⟩
  · exact (isRefusal_delayOf h).mono (by simp)
  · cases h

/-- `logLevelOf` refuses, showing the level. -/
theorem isRefusal_logLevelOf (h : logLevelOf v = .error e) : IsRefusal [v] e := by
  unfold logLevelOf at h
  split at h
  · cases h
  · cases h
    exact isRefusal_rejected List.mem_cons_self _

/-! ## Failures on a configuration -/

/-- The values that `es` configures for the checked fields of sections, and the log level. -/
def shownValues (es : Entries) : List Value :=
  [configured es "connection" "timeout" (.ofNumber standardConnection.timeout),
    configured es "retry" "max_retries" (.int standardRetry.policy.maxRetries),
    configured es "retry" "base_delay" (.ofNumber standardRetry.policy.baseDelay),
    configured es "retry" "max_delay" (.ofNumber standardRetry.policy.maxDelay),
    configured es "query" "empty_selection" (.text EmptySelection.idOnly.name),
    fieldOr es "log_level" (.text standard.logLevel.name)]

variable {es : Entries}

/-- `connectionOf v = .error e`: the connection section is refused, showing configured values. -/
theorem isRefusal_connectionOf (h : connectionOf (fieldOr es "connection" .null) = .error e) :
    IsRefusal (shownValues es) e := by
  unfold connectionOf at h
  rcases bind_eq_error h with h | ⟨fields, hfields, h⟩
  · obtain ⟨m, rfl⟩ := exists_misuse_of_sectionFields h
    exact .misuse m
  dsimp only at h
  split at h
  · cases h
    exact .objection rfl
  · rcases bind_eq_error h with h | ⟨_, -, h⟩
    · rw [← configured_eq_of_sectionFields hfields] at h
      exact (isRefusal_timeoutOf h).mono (by simp [shownValues])
    · cases h

/-- `retryOf v = .error e`: the retry section is refused, showing configured values. -/
theorem isRefusal_retryOf (h : retryOf (fieldOr es "retry" .null) = .error e) :
    IsRefusal (shownValues es) e := by
  unfold retryOf retryOfFields at h
  rcases bind_eq_error h with h | ⟨fields, hfields, h⟩
  · obtain ⟨m, rfl⟩ := exists_misuse_of_sectionFields h
    exact .misuse m
  rcases bind_eq_error h with h | ⟨_, -, h⟩
  · simp only [← configured_eq_of_sectionFields hfields] at h
    exact (isRefusal_make h).mono (by simp [shownValues])
  · cases h

/-- `emptySelectionOf v = .error e`: the query section is refused, showing configured values. -/
theorem isRefusal_emptySelectionOf (h : emptySelectionOf (fieldOr es "query" .null) = .error e) :
    IsRefusal (shownValues es) e := by
  unfold emptySelectionOf at h
  rcases bind_eq_error h with h | ⟨fields, hfields, h⟩
  · obtain ⟨m, rfl⟩ := exists_misuse_of_sectionFields h
    exact .misuse m
  dsimp only at h
  split at h
  · cases h
  · cases h
    rw [← configured_eq_of_sectionFields hfields]
    exact (isRefusal_rejected (by simp [shownValues]) _).causedBy _

/-- `ofEntries es = .error e`: entries that are not accepted are refused, showing configured
values. -/
theorem isRefusal_ofEntries (h : ofEntries es = .error e) : IsRefusal (shownValues es) e := by
  unfold ofEntries at h
  rcases bind_eq_error h with h | ⟨_, -, h⟩
  · exact isRefusal_connectionOf h
  rcases bind_eq_error h with h | ⟨_, -, h⟩
  · exact isRefusal_retryOf h
  rcases bind_eq_error h with h | ⟨_, -, h⟩
  · exact isRefusal_emptySelectionOf h
  rcases bind_eq_error h with h | ⟨rest, hrest, h⟩
  · obtain ⟨m, rfl⟩ := exists_misuse_of_knownFields h
    exact .misuse m
  rcases bind_eq_error h with h | ⟨_, -, h⟩
  · rw [eq_of_knownFields hrest, fieldOr_logLevel_rest] at h
    exact (isRefusal_logLevelOf h).mono (by simp [shownValues])
  · cases h

/-- `Settings.objection e`: an objection to a refused configuration, unless it cannot be written. -/
theorem IsRefusal.objected (h : IsRefusal shown e) :
    (Settings.objection e).className = "ValidationError" ∨
      Settings.objection e = .badValue .numberTooLong ∧ ∃ v ∈ shown, v.isWritable = false := by
  cases h with
  | misuse m => exact .inl rfl
  | objection h =>
    left
    cases e with
    | misuse m => rfl
    | _ => exact h
  | unwritten hv h => exact .inr ⟨rfl, _, hv, h⟩

/-! ## What comes of a configuration -/

/-- What is known of the checked fields of settings `s` that `es` is accepted as: the number of
retries is a whole number, the policy for empty selections and the log level are known ones, and all
are those that are configured, the log level in capital letters. -/
structure Normalised (es : Entries) (s : Settings) : Prop where
  maxRetries : .int s.retry.policy.maxRetries =
    configured es "retry" "max_retries" (.int standardRetry.policy.maxRetries)
  emptySelection : .text s.emptySelection.name =
    configured es "query" "empty_selection" (.text EmptySelection.idOnly.name)
  logLevel : ∃ written, fieldOr es "log_level" (.text standard.logLevel.name) = .text written ∧
    Text.capital written = s.logLevel.name
  logLevel_mem : s.logLevel.name ∈ logLevels

/-- `Normalised es s` for the settings `s` that the entries `es` are accepted as. -/
theorem normalised_of_accepted {s : Settings} (h : ofValue (.dict es) = .ok s) :
    Normalised es s := by
  have hread := ofValue_dict_eq_ok_iff.mp h
  obtain ⟨fields, hfields, hname⟩ := emptySelectionOf_eq_ok_iff.mp hread.emptySelection
  exact {
    maxRetries := (holds_of_accepted h).maxRetries
    emptySelection := by rw [configured_eq_of_sectionFields hfields, hname]
    logLevel := logLevelOf_eq_ok_iff.mp hread.logLevel
    logLevel_mem := by cases s.logLevel <;> decide }

/-- `ofValue (.dict es)`: any mapping gives settings or an objection, unless a value that is
objected to is, or holds, a whole number of too many digits. -/
theorem ofValue_accepts_or_objects (es : Entries) :
    (∃ s, ofValue (.dict es) = .ok s ∧ Normalised es s) ∨
      ∃ e, ofValue (.dict es) = .error e ∧
        (e.className = "ValidationError" ∨
          e = .badValue .numberTooLong ∧ ∃ v ∈ shownValues es, v.isWritable = false) := by
  cases h : ofEntries es with
  | ok s =>
    have haccepted := ofValue_dict_eq_ok_iff.mpr (ofEntries_eq_ok_iff.mp h)
    exact .inl ⟨s, haccepted, normalised_of_accepted haccepted⟩
  | error e =>
    refine .inr ⟨objection e, ?_, (isRefusal_ofEntries h).objected⟩
    show (ofEntries es).mapError objection = _
    rw [h]
    rfl

/-- The entries of a configuration that has the number `maxRetries` only. -/
def retriesEntries (maxRetries : Value) : Entries :=
  [(.text "retry", .dict [(.text "max_retries", maxRetries)])]

/-- `ofValue (.dict (retriesEntries v))`: A configuration is refused as its number of retries is. -/
theorem ofValue_retriesEntries_of_error (h : RetryPolicy.retriesOf v = .error e) :
    ofValue (.dict (retriesEntries v)) = .error (objection e) := by
  have hconnection : fieldOr (retriesEntries v) "connection" .null = .null := by
    simp [retriesEntries]
  have hsection : fieldOr (retriesEntries v) "retry" .null =
      .dict [(.text "max_retries", v)] := by
    simp [retriesEntries]
  have hretries : fieldOr [(.text "max_retries", v)] "max_retries"
      (.int standardRetry.policy.maxRetries) = v := by
    simp
  -- The number of retries is the first of the section that is looked at.
  have hretry : retryOf (.dict [(.text "max_retries", v)]) = .error e := by
    have hfields : sectionFields "vectorclient.retry.executor" retrySection
        ["max_retries", "base_delay", "max_delay", "enabled"] (.dict [(.text "max_retries", v)]) =
          .ok [(.text "max_retries", v)] := rfl
    rw [retryOf, hfields]
    show ((RetryPolicy.retriesOf (fieldOr _ "max_retries" _) >>= _) >>= _) = _
    rw [hretries, h]
    rfl
  show (ofEntries (retriesEntries v)).mapError objection = _
  rw [ofEntries, hconnection, connectionOf_null, hsection, hretry]
  rfl

/-- A number of retries below zero that is too long to be written is not objected to. -/
theorem ofValue_retriesTooLong :
    ∃ e, ofValue (.dict (retriesEntries (.int (-(Text.firstUnwritten : Int))))) = .error e ∧
      e.className = "ValueError" := by
  have hpos : 0 < Text.firstUnwritten := by decide +kernel
  have hwritable : Value.isWritable (.int (-(Text.firstUnwritten : Int))) = false := by
    simp [Value.isWritable, Text.isWritable]
  refine ⟨objection (.badValue .numberTooLong), ofValue_retriesEntries_of_error ?_, rfl⟩
  rw [RetryPolicy.retriesOf, if_pos (by omega), Failure.rejected, hwritable]
  rfl

end Settings

end ObjectStore
