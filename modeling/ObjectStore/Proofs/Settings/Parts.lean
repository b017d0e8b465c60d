import Mathlib
import ObjectStore.Proofs.Settings.Accepted
import ObjectStore.Proofs.Value.Entries

/-! # The parts of accepted settings

What each reader of a configuration has seen where it returns: the fields of its section, the checks
that they passed and the values that it took from them. Reading goes through exactly if all of that
is so, which tells both what accepted settings are like and what is accepted.

* `Settings.connectionOf_eq_ok_iff`, `Settings.retryOf_eq_ok_iff`,
  `Settings.emptySelectionOf_eq_ok_iff`, `Settings.logLevelOf_eq_ok_iff`: the readers of the parts.
* `Settings.ofEntries_eq_ok_iff`: the reader of the whole. -/

namespace ObjectStore

/-! ## Names -/

/-- `ofName? name = some p ↔ name = p.name`. -/
theorem EmptySelection.ofName?_eq_some_iff {name : String} {p : EmptySelection} :
    ofName? name = some p ↔ name = p.name := by
  constructor
  · intro h
    have := List.find?_some h
    simpa using (beq_iff_eq.mp this).symm
  · rintro rfl
    exact ofName?_name p

/-- `ofName? name = some l ↔ name = l.name`. -/
theorem Level.ofName?_eq_some_iff {name : String} {l : Level} :
    ofName? name = some l ↔ name = l.name := by
  constructor
  · intro h
    have := List.find?_some h
    simpa using (beq_iff_eq.mp this).symm
  · rintro rfl
    exact ofName?_name l

/-- `Text.capital l.name = l.name`: the names of levels are in capital letters. -/
theorem Level.capital_name (l : Level) : Text.capital l.name = l.name := by
  cases l <;> decide

/-- `ofValue v = .ok p ↔ v = .text p.name`. -/
theorem EmptySelection.ofValue_eq_ok_iff {v : Value} {p : EmptySelection} :
    ofValue v = .ok p ↔ v = .text p.name := by
  unfold ofValue
  constructor
  · intro h
    split at h
    · next hname =>
      cases h
      obtain ⟨name, hv, hname⟩ := Option.bind_eq_some_iff.mp hname
      rw [Value.text?_eq_some_iff.mp hv, ofName?_eq_some_iff.mp hname]
    · cases h
  · rintro rfl
    simp [Value.text?, ofName?_name]

namespace Settings

/-! ## Fields -/

/-- `fieldOr [] key standard = standard`. -/
@[simp] theorem fieldOr_nil (key : String) (standard : Value) :
    fieldOr [] key standard = standard :=
  rfl

/-- `fieldOr` takes the first entry if its key is `key`. -/
@[simp] theorem fieldOr_cons_text (k key : String) (v standard : Value) (es : Entries) :
    fieldOr ((.text k, v) :: es) key standard =
      if k = key then v else fieldOr es key standard := by
  rw [fieldOr, Entries.getText?_cons_text]
  split <;> rfl

/-- `eraseText`: a log level is not lost when the sections are taken out. -/
theorem fieldOr_logLevel_rest (es : Entries) (standard : Value) :
    fieldOr (sections.foldl (fun es key => Entries.eraseText key es) es) "log_level" standard =
      fieldOr es "log_level" standard := by
  simp only [sections, List.foldl_cons, List.foldl_nil, fieldOr]
  rw [Entries.getText?_eraseText_of_ne (by decide), Entries.getText?_eraseText_of_ne (by decide),
    Entries.getText?_eraseText_of_ne (by decide)]

/-! ## Readers of the parts -/

/-- What `c` takes from the `fields` of a connection section, and the checks that it passed. -/
structure ConnectionRead (fields : Entries) (c : ConnectionSettings) : Prop where
  url : fieldOr fields "url" standardConnection.url = c.url
  truthy : c.url.truthy = true
  apiKey : fieldOr fields "api_key" standardConnection.apiKey = c.apiKey
  timeout :
    timeoutOf (fieldOr fields "timeout" (.ofNumber standardConnection.timeout)) = .ok c.timeout
  headers : fieldOr fields "headers" standardConnection.headers = c.headers

/-- `connectionOf v = .ok c`: the section has known fields only, and `c` is read from them. -/
theorem connectionOf_eq_ok_iff {v : Value} {c : ConnectionSettings} :
    connectionOf v = .ok c ↔
      ∃ fields, sectionFields "vectorclient.config.settings" connectionSection
        ["url", "api_key", "timeout", "headers"] v = .ok fields ∧ ConnectionRead fields c := by
  unfold connectionOf
  constructor
  · intro h
    obtain ⟨fields, hfields, h⟩ := bind_eq_ok h
    dsimp only at h
    split at h
    · cases h
    · next htruthy =>
      -- The address counts as true, and the time limit has passed its check.
      obtain ⟨timeout, htimeout, h⟩ := bind_eq_ok h
      cases h
      exact ⟨fields, hfields, rfl, by simpa using htruthy, rfl, htimeout, rfl⟩
  · rintro ⟨fields, hfields, hread⟩
    rw [hfields]
    show (if !(fieldOr fields "url" standardConnection.url).truthy then _ else
      (timeoutOf (fieldOr fields "timeout" (.ofNumber standardConnection.timeout)) >>= _)) = _
    rw [hread.url, hread.truthy, hread.timeout, hread.apiKey, hread.headers]
    rfl

/-- `connectionOf .null = .ok standardConnection`: the standard way to reach the store passes its
own check. -/
theorem connectionOf_null : connectionOf .null = .ok standardConnection :=
  connectionOf_eq_ok_iff.mpr ⟨[], rfl, rfl, rfl, rfl, timeoutOf_standard, rfl⟩

/-- What `r` takes from the `fields` of a retry section. -/
structure RetryRead (fields : Entries) (r : RetrySettings) : Prop where
  policy : RetryPolicy.make
    (fieldOr fields "max_retries" (.int standardRetry.policy.maxRetries))
    (fieldOr fields "base_delay" (.ofNumber standardRetry.policy.baseDelay))
    (fieldOr fields "max_delay" (.ofNumber standardRetry.policy.maxDelay)) = .ok r.policy
  enabled : fieldOr fields "enabled" standardRetry.enabled = r.enabled

/-- `retryOf v = .ok r`: the section has known fields only, and `r` is read from them. -/
theorem retryOf_eq_ok_iff {v : Value} {r : RetrySettings} :
    retryOf v = .ok r ↔
      ∃ fields, sectionFields "vectorclient.retry.executor" retrySection
        ["max_retries", "base_delay", "max_delay", "enabled"] v = .ok fields ∧
          RetryRead fields r := by
  unfold retryOf retryOfFields
  constructor
  · intro h
    obtain ⟨fields, hfields, h⟩ := bind_eq_ok h
    obtain ⟨policy, hpolicy, h⟩ := bind_eq_ok h
    cases h
    exact ⟨fields, hfields, hpolicy, rfl⟩
  · rintro ⟨fields, hfields, hread⟩
    rw [hfields]
    show (RetryPolicy.make _ _ _ >>= _) = _
    rw [hread.policy, hread.enabled]
    rfl

/-- `emptySelectionOf v = .ok p`: the section has known fields only, and names the policy `p`. -/
theorem emptySelectionOf_eq_ok_iff {v : Value} {p : EmptySelection} :
    emptySelectionOf v = .ok p ↔
      ∃ fields, sectionFields "vectorclient.config.settings" querySection ["empty_selection"] v =
        .ok fields ∧
          fieldOr fields "empty_selection" (.text EmptySelection.idOnly.name) = .text p.name := by
  unfold emptySelectionOf
  constructor
  · intro h
    obtain ⟨fields, hfields, h⟩ := bind_eq_ok h
    refine ⟨fields, hfields, ?_⟩
    dsimp only at h
    split at h
    · next hname =>
      cases h
      exact EmptySelection.ofValue_eq_ok_iff.mp hname
    · cases h
  · rintro ⟨fields, hfields, hname⟩
    rw [hfields]
    dsimp only [bind, Except.bind]
    rw [EmptySelection.ofValue_eq_ok_iff.mpr hname]

/-- `logLevelOf v = .ok l`: `v` names the level `l`, in capital letters or small ones. -/
theorem logLevelOf_eq_ok_iff {v : Value} {l : Level} :
    logLevelOf v = .ok l ↔ ∃ written, v = .text written ∧ Text.capital written = l.name := by
  unfold logLevelOf
  constructor
  · intro h
    split at h
    · next hname =>
      cases h
      obtain ⟨written, hwritten, hlevel⟩ := Option.bind_eq_some_iff.mp hname
      exact ⟨written, Value.text?_eq_some_iff.mp hwritten, Level.ofName?_eq_some_iff.mp hlevel⟩
    · cases h
  · rintro ⟨written, rfl, hlevel⟩
    simp [Value.text?, Level.ofName?_eq_some_iff.mpr hlevel]

/-! ## The whole -/

/-- What `s` takes from the entries `es` of a configuration. -/
structure WholeRead (es : Entries) (s : Settings) : Prop where
  connection : connectionOf (fieldOr es "connection" .null) = .ok s.connection
  retry : retryOf (fieldOr es "retry" .null) = .ok s.retry
  emptySelection : emptySelectionOf (fieldOr es "query" .null) = .ok s.emptySelection
  known : ∃ rest, knownFields wholeSection ["log_level"]
    (sections.foldl (fun es key => Entries.eraseText key es) es) = .ok rest
  logLevel : logLevelOf (fieldOr es "log_level" (.text standard.logLevel.name)) = .ok s.logLevel

/-- `ofEntries es = .ok s ↔ WholeRead es s`. -/
theorem ofEntries_eq_ok_iff {es : Entries} {s : Settings} :
    ofEntries es = .ok s ↔ WholeRead es s := by
  unfold ofEntries
  constructor
  · intro h
    obtain ⟨connection, hconnection, h⟩ := bind_eq_ok h
    obtain ⟨retry, hretry, h⟩ := bind_eq_ok h
    obtain ⟨emptySelection, hempty, h⟩ := bind_eq_ok h
    obtain ⟨rest, hrest, h⟩ := bind_eq_ok h
    obtain ⟨logLevel, hlevel, h⟩ := bind_eq_ok h
    cases h
    refine ⟨hconnection, hretry, hempty, ⟨rest, hrest⟩, ?_⟩
    -- The level is looked up among what is left of the entries without the sections.
    rw [eq_of_knownFields hrest, fieldOr_logLevel_rest] at hlevel
    exact hlevel
  · rintro ⟨hconnection, hretry, hempty, ⟨rest, hrest⟩, hlevel⟩
    rw [hconnection, hretry, hempty]
    show (knownFields wholeSection ["log_level"]
      (sections.foldl (fun es key => Entries.eraseText key es) es) >>= _) = _
    rw [hrest]
    show (logLevelOf (fieldOr rest "log_level" (.text standard.logLevel.name)) >>= _) = _
    rw [eq_of_knownFields hrest, fieldOr_logLevel_rest, hlevel]
    rfl

/-- `ofValue (.dict es) = .ok s ↔ WholeRead es s`. -/
theorem ofValue_dict_eq_ok_iff {es : Entries} {s : Settings} :
    ofValue (.dict es) = .ok s ↔ WholeRead es s := by
  rw [← ofEntries_eq_ok_iff]
  show (ofEntries es).mapError objection = .ok s ↔ _
  constructor
  · exact mapError_eq_ok
  · intro h
    rw [h]
    rfl

end Settings

end ObjectStore
