import Mathlib
import ObjectStore.Proofs.Settings.Parts

/-! # Settings that are written and read again

Accepted settings have passed every check, and the checks look at nothing but what the settings
hold. So the entries of accepted settings are accepted and give the same settings, as long as they
show what the settings hold: plain data is unfolded to itself, whereas a filter or the record of an
attempt is written out as a mapping.

* `Value.IsPlain`: data that a configuration file can hold, `Value.IsPlain.unfolded_eq`: which
  unfolds to itself.
* `Settings.IsChecked`: what the checks leave, `Settings.ofValue_plainEntries`: which is read back.
* `Settings.entries_readBack`: what accepted plain data gives is written and read again. -/

namespace ObjectStore

namespace Value

/-! ## Plain data -/

/-- Plain data: nothing, scalars, texts, dates, and lists and mappings of plain data. -/
inductive IsPlain : Value → Prop
  | null : IsPlain .null
  | bool (b : Bool) : IsPlain (.bool b)
  | int (n : Int) : IsPlain (.int n)
  | double (x : Double) : IsPlain (.double x)
  | text (s : String) : IsPlain (.text s)
  | date (d : Date) : IsPlain (.date d)
  | datetime (t : DateTime) : IsPlain (.datetime t)
  | list {xs : List Value} (items : ∀ x ∈ xs, IsPlain x) : IsPlain (.list xs)
  | dict {es : Entries} (keys : ∀ e ∈ es, IsPlain e.1)
      (hashable : ∀ e ∈ es, e.1.hashable = true) (values : ∀ e ∈ es, IsPlain e.2) :
      IsPlain (.dict es)

/-- `unfoldedItems xs = .ok xs`: items that unfold to themselves do so as a list. -/
theorem unfoldedItems_eq_self {xs : List Value} (h : ∀ x ∈ xs, x.unfolded = .ok x) :
    unfoldedItems xs = .ok xs := by
  induction xs with
  | nil => rfl
  | cons x xs ih =>
    obtain ⟨hx, hxs⟩ := List.forall_mem_cons.mp h
    rw [unfoldedItems, hx, ih hxs]
    rfl

/-- `unfoldedEntries es = .ok es`: entries whose keys and values unfold to themselves do so. -/
theorem unfoldedEntries_eq_self {es : Entries} (hkeys : ∀ e ∈ es, e.1.unfolded = .ok e.1)
    (hhashable : ∀ e ∈ es, e.1.hashable = true) (hvalues : ∀ e ∈ es, e.2.unfolded = .ok e.2) :
    unfoldedEntries es = .ok es := by
  induction es with
  | nil => rfl
  | cons e es ih =>
    obtain ⟨hk, hks⟩ := List.forall_mem_cons.mp hkeys
    obtain ⟨hh, hhs⟩ := List.forall_mem_cons.mp hhashable
    obtain ⟨hv, hvs⟩ := List.forall_mem_cons.mp hvalues
    rw [unfoldedEntries, hk, hv, ih hks hhs hvs]
    exact if_pos hh

/-- `v.unfolded = .ok v`: plain data unfolds to itself. -/
theorem IsPlain.unfolded_eq {v : Value} (h : v.IsPlain) : v.unfolded = .ok v := by
  induction h with
  | list _ ih => rw [unfolded, unfoldedItems_eq_self ih, Except.map]
  | dict _ hhashable _ hkeys hvalues =>
    rw [unfolded, unfoldedEntries_eq_self hkeys hhashable hvalues, Except.map]
  | _ => simp [unfolded, copyable]

/-- `(dict es).IsPlain`: the values of a plain mapping are plain. -/
theorem IsPlain.values {es : Entries} (h : (Value.dict es).IsPlain) : ∀ e ∈ es, e.2.IsPlain := by
  cases h with
  | dict _ _ hvalues => exact hvalues

/-- `(ofNumber x).IsPlain`. -/
theorem isPlain_ofNumber (x : Number) : (ofNumber x).IsPlain := by
  cases x with
  | bool b => exact .bool b
  | int n => exact .int n
  | double y => exact .double y

/-- `(dict es).IsPlain`: A mapping from texts is plain if its values are. -/
theorem isPlain_dict_of_text {es : Entries} (h : ∀ e ∈ es, (∃ key, e.1 = .text key) ∧ e.2.IsPlain) :
    (dict es).IsPlain := by
  refine .dict (fun e he => ?_) (fun e he => ?_) fun e he => (h e he).2
  · obtain ⟨⟨key, hkey⟩, -⟩ := h e he
    rw [hkey]
    exact .text key
  · obtain ⟨⟨key, hkey⟩, -⟩ := h e he
    rw [hkey]
    rfl

end Value

namespace Settings

/-- `(fieldOr es key standard).IsPlain`: A field of plain entries is plain, if the standard value
is. -/
theorem isPlain_fieldOr {es : Entries} (h : ∀ e ∈ es, e.2.IsPlain) {standard : Value}
    (hstandard : standard.IsPlain) (key : String) : (fieldOr es key standard).IsPlain := by
  rw [fieldOr]
  cases hget : Entries.getText? key es with
  | none => exact hstandard
  | some v =>
    obtain ⟨e, he, rfl⟩ := Entries.exists_mem_of_get? hget
    exact h e he

/-- The fields of a plain section are plain. -/
theorem forall_isPlain_of_sectionFields {home name : String} {known : List String} {v : Value}
    {fields : Entries} (hv : v.IsPlain) (h : sectionFields home name known v = .ok fields) :
    ∀ e ∈ fields, e.2.IsPlain := by
  unfold sectionFields at h
  split at h
  · split at h
    · rw [eq_of_knownFields h]
      exact hv.values
    · cases h
  · cases h
    simp

/-! ## Settings that hold plain data -/

/-- That what settings hold unchecked is plain data. -/
structure IsPlain (s : Settings) : Prop where
  url : s.connection.url.IsPlain
  apiKey : s.connection.apiKey.IsPlain
  headers : s.connection.headers.IsPlain
  enabled : s.retry.enabled.IsPlain

/-- Accepted plain data gives settings that hold plain data. -/
theorem isPlain_of_accepted {es : Entries} {s : Settings} (hplain : (Value.dict es).IsPlain)
    (h : ofValue (.dict es) = .ok s) : s.IsPlain := by
  have hvalues := hplain.values
  have hread := ofValue_dict_eq_ok_iff.mp h
  obtain ⟨fields, hfields, hconnection⟩ := connectionOf_eq_ok_iff.mp hread.connection
  obtain ⟨fields', hfields', hretry⟩ := retryOf_eq_ok_iff.mp hread.retry
  have hconnectionPlain := forall_isPlain_of_sectionFields
    (isPlain_fieldOr hvalues .null _) hfields
  have hretryPlain := forall_isPlain_of_sectionFields (isPlain_fieldOr hvalues .null _) hfields'
  -- Each value is an entry of the given data or a standard one.
  exact {
    url := by
      rw [← hconnection.url]
      exact isPlain_fieldOr hconnectionPlain (.text _) _
    apiKey := by
      rw [← hconnection.apiKey]
      exact isPlain_fieldOr hconnectionPlain .null _
    headers := by
      rw [← hconnection.headers]
      exact isPlain_fieldOr hconnectionPlain
        (Value.isPlain_dict_of_text (by simp)) _
    enabled := by
      rw [← hretry.enabled]
      exact isPlain_fieldOr hretryPlain (.bool _) _ }

/-- The entries of a way to reach the store as `c` holds it. -/
def plainConnection (c : ConnectionSettings) : Entries :=
  [(.text "url", c.url), (.text "api_key", c.apiKey), (.text "timeout", .ofNumber c.timeout),
    (.text "headers", c.headers)]

/-- The entries of a way to try again as `r` holds it. -/
def plainRetry (r : RetrySettings) : Entries :=
  [(.text "max_retries", .int r.policy.maxRetries),
    (.text "base_delay", .ofNumber r.policy.baseDelay),
    (.text "max_delay", .ofNumber r.policy.maxDelay), (.text "enabled", r.enabled)]

/-- The entries of `s` as they are held. -/
def plainEntries (s : Settings) : Entries :=
  [(.text "connection", .dict (plainConnection s.connection)),
    (.text "retry", .dict (plainRetry s.retry)),
    (.text "query", .dict [(.text "empty_selection", .text s.emptySelection.name)]),
    (.text "log_level", .text s.logLevel.name)]

/-- `s.entries = .ok s.plainEntries`: settings that hold plain data are written as they are held. -/
theorem IsPlain.entries_eq {s : Settings} (h : s.IsPlain) : s.entries = .ok s.plainEntries := by
  rw [entries, connectionEntries, retryEntries, h.url.unfolded_eq, h.apiKey.unfolded_eq,
    h.headers.unfolded_eq, h.enabled.unfolded_eq]
  rfl

/-- `(dict s.plainEntries).IsPlain`: the entries of settings with plain values are plain. -/
theorem IsPlain.isPlain_plainEntries {s : Settings} (h : s.IsPlain) :
    (Value.dict s.plainEntries).IsPlain := by
  have hconnection : (Value.dict (plainConnection s.connection)).IsPlain :=
    Value.isPlain_dict_of_text (by
      simp [plainConnection, h.url, h.apiKey, h.headers, Value.isPlain_ofNumber])
  have hretry : (Value.dict (plainRetry s.retry)).IsPlain :=
    Value.isPlain_dict_of_text (by
      simp [plainRetry, h.enabled, Value.isPlain_ofNumber, Value.IsPlain.int])
  have hquery : (Value.dict [(.text "empty_selection", .text s.emptySelection.name)]).IsPlain :=
    Value.isPlain_dict_of_text (by simp [Value.IsPlain.text])
  exact Value.isPlain_dict_of_text (by
    simp [plainEntries, hconnection, hretry, hquery, Value.IsPlain.text])

/-! ## Checked settings -/

/-- That what `s` holds passes the checks and is left as it is by them. -/
structure IsChecked (s : Settings) : Prop where
  url : s.connection.url.truthy = true
  timeout : timeoutOf (.ofNumber s.connection.timeout) = .ok s.connection.timeout
  policy : RetryPolicy.make (.int s.retry.policy.maxRetries) (.ofNumber s.retry.policy.baseDelay)
    (.ofNumber s.retry.policy.maxDelay) = .ok s.retry.policy

/-- `s.IsChecked`: accepted settings have passed all checks. -/
theorem isChecked_of_accepted {es : Entries} {s : Settings} (h : ofValue (.dict es) = .ok s) :
    s.IsChecked := by
  have hread := ofValue_dict_eq_ok_iff.mp h
  obtain ⟨fields, -, hconnection⟩ := connectionOf_eq_ok_iff.mp hread.connection
  obtain ⟨fields', -, hretry⟩ := retryOf_eq_ok_iff.mp hread.retry
  refine ⟨hconnection.truthy, ?_, ?_⟩
  · rw [timeoutOf_eq_ok hconnection.timeout]
    exact hconnection.timeout
  · -- Each of the three values is the one that its check has left in the policy.
    have hpolicy := hretry.policy
    obtain ⟨retries, hretries, hrest⟩ := bind_eq_ok hpolicy
    obtain ⟨base, hbase, hrest⟩ := bind_eq_ok hrest
    obtain ⟨greatest, hgreatest, hrest⟩ := bind_eq_ok hrest
    rw [← retriesOf_eq_ok hretries, ← delayOf_eq_ok hbase, ← delayOf_eq_ok hgreatest] at hpolicy
    rw [← Except.ok.inj hrest] at hpolicy ⊢
    exact hpolicy

/-- `ofValue (.dict s.plainEntries) = .ok s`: checked settings are read back from their entries. -/
theorem ofValue_plainEntries {s : Settings} (h : s.IsChecked) :
    ofValue (.dict s.plainEntries) = .ok s := by
  have hconnection : fieldOr s.plainEntries "connection" .null =
      .dict (plainConnection s.connection) := by
    simp [plainEntries]
  have hretry : fieldOr s.plainEntries "retry" .null = .dict (plainRetry s.retry) := by
    simp [plainEntries]
  have hquery : fieldOr s.plainEntries "query" .null =
      .dict [(.text "empty_selection", .text s.emptySelection.name)] := by
    simp [plainEntries]
  -- Section by section: each check passes again what it has passed before.
  refine ofValue_dict_eq_ok_iff.mpr {
    connection := ?_, retry := ?_, emptySelection := ?_, known := ?_, logLevel := ?_ }
  · rw [hconnection]
    refine connectionOf_eq_ok_iff.mpr ⟨plainConnection s.connection, rfl, ?_, h.url, ?_, ?_, ?_⟩
    · simp [plainConnection]
    · simp [plainConnection]
    · simpa [plainConnection] using h.timeout
    · simp [plainConnection]
  · rw [hretry]
    refine retryOf_eq_ok_iff.mpr ⟨plainRetry s.retry, rfl, ?_, ?_⟩
    · simpa [plainRetry] using h.policy
    · simp [plainRetry]
  · rw [hquery]
    exact emptySelectionOf_eq_ok_iff.mpr ⟨_, rfl, by simp⟩
  · have hrest : sections.foldl (fun es key => Entries.eraseText key es) s.plainEntries =
        [(.text "log_level", .text s.logLevel.name)] := by
      simp [sections, plainEntries, Entries.eraseText, Entries.erase]
    rw [hrest]
    exact ⟨_, rfl⟩
  · refine logLevelOf_eq_ok_iff.mpr ⟨s.logLevel.name, ?_, Level.capital_name _⟩
    simp [plainEntries]

/-- Settings `s` from plain data are written as plain data, which is accepted and gives `s`
again. -/
theorem entries_readBack {es : Entries} {s : Settings} (hplain : (Value.dict es).IsPlain)
    (h : ofValue (.dict es) = .ok s) :
    ∃ out, s.entries = .ok out ∧ (Value.dict out).IsPlain ∧ ofValue (.dict out) = .ok s := by
  have hs := isPlain_of_accepted hplain h
  exact ⟨s.plainEntries, hs.entries_eq, hs.isPlain_plainEntries,
    ofValue_plainEntries (isChecked_of_accepted h)⟩

/-- Entries with a section that is nothing, a section with one field, a section that is missing and
a level in small letters. -/
def partialEntries : Entries :=
  [(.text "connection", .null), (.text "retry", .dict [(.text "enabled", .list [.double .nan])]),
    (.text "log_level", .text "warning")]

/-- `partialEntries` are plain. -/
theorem isPlain_partialEntries : (Value.dict partialEntries).IsPlain := by
  have henabled : (Value.list [.double .nan]).IsPlain := .list (by simp [Value.IsPlain.double])
  have hretry : (Value.dict [(.text "enabled", .list [.double .nan])]).IsPlain :=
    Value.isPlain_dict_of_text (by simp [henabled])
  exact Value.isPlain_dict_of_text (by
    simp [partialEntries, hretry, Value.IsPlain.null, Value.IsPlain.text])

/-- `partialEntries` are accepted, and what is missing there is standard. -/
theorem ofValue_partialEntries :
    ofValue (.dict partialEntries) =
      .ok { standard with
        retry := { standardRetry with enabled := .list [.double .nan] },
        logLevel := .warning } := by
  refine ofValue_dict_eq_ok_iff.mpr {
    connection := ?_, retry := ?_, emptySelection := ?_, known := ?_, logLevel := ?_ }
  · have : fieldOr partialEntries "connection" .null = .null := by
      simp [partialEntries]
    rw [this]
    exact connectionOf_null
  · have : fieldOr partialEntries "retry" .null =
        .dict [(.text "enabled", .list [.double .nan])] := by
      simp [partialEntries]
    rw [this]
    refine retryOf_eq_ok_iff.mpr ⟨_, rfl, ?_, ?_⟩
    · simpa using make_standardPolicy
    · simp
  · have : fieldOr partialEntries "query" .null = .null := by
      simp [partialEntries]
    rw [this]
    exact emptySelectionOf_eq_ok_iff.mpr ⟨[], rfl, rfl⟩
  · have hrest : sections.foldl (fun es key => Entries.eraseText key es) partialEntries =
        [(.text "log_level", .text "warning")] := by
      simp [sections, partialEntries, Entries.eraseText, Entries.erase]
    rw [hrest]
    exact ⟨_, rfl⟩
  · refine logLevelOf_eq_ok_iff.mpr ⟨"warning", ?_, by decide⟩
    simp [partialEntries]

/-- The level comes back in capital letters, the missing sections with all their fields. -/
theorem entries_readBack_partial :
    ∃ s, (Value.dict partialEntries).IsPlain ∧ ofValue (.dict partialEntries) = .ok s ∧
      ∃ out, s.entries = .ok out ∧ (Value.dict out).IsPlain ∧ ofValue (.dict out) = .ok s :=
  ⟨_, isPlain_partialEntries, ofValue_partialEntries,
    entries_readBack isPlain_partialEntries ofValue_partialEntries⟩

end Settings

end ObjectStore
