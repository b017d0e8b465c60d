import Mathlib
import ObjectStore.Client
import ObjectStore.Proofs.Except

/-! # Settings that are accepted

What accepted settings hold is what the configuration says, or the standard value where it says
nothing. That is enough for the time limit and for the policy of trying again, which are checked.
The address, the headers and the key are not: a client can be made from accepted settings exactly if
the address is a text, the headers, if there are any, are a mapping or a sequence of pairs, and the
key, if there is one, can be written.

* `Settings.configured`: what a configuration gives to a field.
* `Settings.Holds`: that settings hold what is configured, which `Settings.holds_of_accepted` proves
  of those that are accepted.
* `Client.ofSettings_of_accepted`: when a client can be made, and what its connection is like. -/

namespace ObjectStore

namespace Settings

/-! ## What is configured -/

/-- The value that `es` gives to the field `key` of the section `part`, or the `standard` one. A
section that is no mapping gives none. -/
def configured (es : Entries) (part key : String) (standard : Value) : Value :=
  match fieldOr es part .null with
  | .dict fields => fieldOr fields key standard
  | _ => standard

/-- That `s` holds what is configured by `es`. -/
structure Holds (es : Entries) (s : Settings) : Prop where
  url : s.connection.url = configured es "connection" "url" standardConnection.url
  apiKey : s.connection.apiKey = configured es "connection" "api_key" standardConnection.apiKey
  timeout : .ofNumber s.connection.timeout =
    configured es "connection" "timeout" (.ofNumber standardConnection.timeout)
  headers : s.connection.headers = configured es "connection" "headers" standardConnection.headers
  enabled : s.retry.enabled = configured es "retry" "enabled" standardRetry.enabled
  maxRetries : .int s.retry.policy.maxRetries =
    configured es "retry" "max_retries" (.int standardRetry.policy.maxRetries)
  baseDelay : .ofNumber s.retry.policy.baseDelay =
    configured es "retry" "base_delay" (.ofNumber standardRetry.policy.baseDelay)
  maxDelay : .ofNumber s.retry.policy.maxDelay =
    configured es "retry" "max_delay" (.ofNumber standardRetry.policy.maxDelay)

/-- `knownFields name known es = .ok es` if it accepts the fields at all. -/
theorem eq_of_knownFields {name : String} {known : List String} {es fields : Entries}
    (h : knownFields name known es = .ok fields) : fields = es := by
  unfold knownFields at h
  split at h
  · cases h
  · split at h <;> cases h
    rfl

/-- `configured es part key`: the fields of a section are those that are configured. -/
theorem configured_eq_of_sectionFields {home name part : String} {known : List String}
    {es fields : Entries} (h : sectionFields home name known (fieldOr es part .null) = .ok fields)
    (key : String) (standard : Value) :
    configured es part key standard = fieldOr fields key standard := by
  rw [configured]
  generalize fieldOr es part .null = v at h ⊢
  unfold sectionFields at h
  split at h
  · split at h
    · rw [eq_of_knownFields h]
    · cases h
  · next hfalse =>
    cases h
    -- What counts as false is no mapping with fields.
    cases v with
    | dict es' =>
      have hnil : es' = [] := by simpa [Value.truthy] using hfalse
      rw [hnil]
    | _ => rfl

/-- `.ofNumber x = v` if `v` is the number `x`. -/
theorem number?_eq_some {v : Value} {x : Number} (h : v.number? = some x) : .ofNumber x = v := by
  cases v <;> cases h <;> rfl

/-- `timeoutOf v = .ok x` only if `.ofNumber x = v`. -/
theorem timeoutOf_eq_ok {v : Value} {x : Number} (h : timeoutOf v = .ok x) : .ofNumber x = v := by
  unfold timeoutOf at h
  split at h
  · cases h
  · next y hy =>
    split at h
    · cases h
    · cases h
      exact number?_eq_some hy

/-- `RetryPolicy.delayOf objection v = .ok x` only if `.ofNumber x = v`. -/
theorem delayOf_eq_ok {objection : Number → Invalid} {v : Value} {x : Number}
    (h : RetryPolicy.delayOf objection v = .ok x) : .ofNumber x = v := by
  unfold RetryPolicy.delayOf at h
  split at h
  · cases h
  · next y hy =>
    split at h
    · cases h
    · cases h
      exact number?_eq_some hy

/-- `RetryPolicy.retriesOf v = .ok n` only if `.int n = v`. -/
theorem retriesOf_eq_ok {v : Value} {n : Nat} (h : RetryPolicy.retriesOf v = .ok n) :
    .int n = v := by
  unfold RetryPolicy.retriesOf at h
  split at h
  · next m =>
    split at h
    · cases h
    · next hm =>
      cases h
      rw [Int.toNat_of_nonneg (not_lt.mp hm)]
  · cases h

/-- `Holds es s`: accepted settings hold what is configured. -/
theorem holds_of_accepted {es : Entries} {s : Settings} (h : ofValue (.dict es) = .ok s) :
    Holds es s := by
  obtain ⟨es', hes, h⟩ := bind_eq_ok h
  cases hes
  obtain ⟨connection, hconnection, h⟩ := bind_eq_ok (mapError_eq_ok h)
  obtain ⟨retry, hretry, h⟩ := bind_eq_ok h
  -- What is read after the two sections does not change them.
  obtain ⟨_, -, h⟩ := bind_eq_ok h
  obtain ⟨_, -, h⟩ := bind_eq_ok h
  obtain ⟨_, -, h⟩ := bind_eq_ok h
  cases h
  obtain ⟨fields, hfields, hconnection⟩ := bind_eq_ok hconnection
  have hconfigured := configured_eq_of_sectionFields hfields
  dsimp only at hconnection
  split at hconnection
  · cases hconnection
  · obtain ⟨timeout, htimeout, hconnection⟩ := bind_eq_ok hconnection
    cases hconnection
    obtain ⟨fields', hfields', hretry⟩ := bind_eq_ok hretry
    have hconfigured' := configured_eq_of_sectionFields hfields'
    obtain ⟨policy, hpolicy, hretry⟩ := bind_eq_ok hretry
    cases hretry
    obtain ⟨retries, hretries, hpolicy⟩ := bind_eq_ok hpolicy
    obtain ⟨base, hbase, hpolicy⟩ := bind_eq_ok hpolicy
    obtain ⟨greatest, hgreatest, hpolicy⟩ := bind_eq_ok hpolicy
    cases hpolicy
    exact {
      url := (hconfigured _ _).symm
      apiKey := (hconfigured _ _).symm
      timeout := (timeoutOf_eq_ok htimeout).trans (hconfigured _ _).symm
      headers := (hconfigured _ _).symm
      enabled := (hconfigured' _ _).symm
      maxRetries := (retriesOf_eq_ok hretries).trans (hconfigured' _ _).symm
      baseDelay := (delayOf_eq_ok hbase).trans (hconfigured' _ _).symm
      maxDelay := (delayOf_eq_ok hgreatest).trans (hconfigured' _ _).symm }

/-! ## What is accepted -/

/-- `timeoutOf standardConnection.timeout`: the standard timeout passes its own check. -/
theorem timeoutOf_standard :
    timeoutOf (.ofNumber standardConnection.timeout) = .ok standardConnection.timeout := by
  have hpositive : standardConnection.timeout.le (.int 0) = false := by decide +kernel
  unfold timeoutOf
  simp only [Value.number?_ofNumber, hpositive]
  rfl

/-- The standard policy passes its own checks. -/
theorem make_standardPolicy :
    RetryPolicy.make (.int standardRetry.policy.maxRetries)
      (.ofNumber standardRetry.policy.baseDelay) (.ofNumber standardRetry.policy.maxDelay) =
        .ok standardRetry.policy := by
  have hbase : standardRetry.policy.baseDelay.lt (.int 0) = false := by decide +kernel
  have hgreatest : standardRetry.policy.maxDelay.lt (.int 0) = false := by decide +kernel
  unfold RetryPolicy.make RetryPolicy.delayOf
  simp only [Value.number?_ofNumber, hbase, hgreatest]
  rfl

/-- `retryOf .null = .ok standardRetry`: the standard way to try again passes its own checks. -/
theorem retryOf_null : retryOf .null = .ok standardRetry := by
  show (RetryPolicy.make (.int standardRetry.policy.maxRetries)
    (.ofNumber standardRetry.policy.baseDelay) (.ofNumber standardRetry.policy.maxDelay) >>= _) = _
  rw [make_standardPolicy]
  rfl

/-- The entries of a configuration that has the address `url` only. -/
def addressEntries (url : Value) : Entries :=
  [(.text "connection", .dict [(.text "url", url)])]

/-- The standard settings with the address `url`. -/
def withAddress (url : Value) : Settings :=
  { standard with connection := { standardConnection with url := url } }

/-- `connectionOf (.dict [(.text "url", url)])`: A section with an address only has the standard
values for all else. -/
theorem connectionOf_address {url : Value} (h : url.truthy = true) :
    connectionOf (.dict [(.text "url", url)]) = .ok { standardConnection with url := url } := by
  have hfields : sectionFields "vectorclient.config.settings" connectionSection
      ["url", "api_key", "timeout", "headers"] (.dict [(.text "url", url)]) =
        .ok [(.text "url", url)] := rfl
  have hurl : fieldOr [(.text "url", url)] "url" standardConnection.url = url := by
    simp [fieldOr, Entries.getText?_cons_text]
  have hother : ∀ key, key ≠ "url" → ∀ standard,
      fieldOr [(.text "url", url)] key standard = standard := by
    intro key hkey standard
    simp [fieldOr, Entries.getText?, Entries.get?, hkey.symm]
  unfold connectionOf
  rw [hfields]
  show (if !(fieldOr [(.text "url", url)] "url" standardConnection.url).truthy then _ else
    (timeoutOf (fieldOr [(.text "url", url)] "timeout" (.ofNumber standardConnection.timeout)) >>=
      _)) = _
  rw [hurl, h, hother "timeout" (by decide), timeoutOf_standard, hother "api_key" (by decide),
    hother "headers" (by decide)]
  rfl

/-- `ofValue (.dict (addressEntries url)) = .ok (withAddress url)`: whatever counts as true is
accepted as an address. -/
theorem ofValue_addressEntries {url : Value} (h : url.truthy = true) :
    ofValue (.dict (addressEntries url)) = .ok (withAddress url) := by
  have hconnection : fieldOr (addressEntries url) "connection" .null =
      .dict [(.text "url", url)] := by
    simp [fieldOr, addressEntries, Entries.getText?_cons_text]
  have hother : ∀ key, key ≠ "connection" → fieldOr (addressEntries url) key .null = .null := by
    intro key hkey
    simp [fieldOr, addressEntries, Entries.getText?, Entries.get?, hkey.symm]
  -- Nothing is left once the sections are taken out.
  have hrest : knownFields wholeSection ["log_level"]
      (sections.foldl (fun es key => Entries.eraseText key es) (addressEntries url)) = .ok [] := by
    simp [sections, addressEntries, Entries.eraseText, Entries.erase, knownFields, firstUnknown?]
  show (ofEntries (addressEntries url)).mapError objection = _
  unfold ofEntries
  rw [hconnection, connectionOf_address h, hother "retry" (by decide), retryOf_null,
    hother "query" (by decide)]
  show (knownFields wholeSection ["log_level"]
    (sections.foldl (fun es key => Entries.eraseText key es) (addressEntries url)) >>=
      _).mapError objection = _
  rw [hrest]
  rfl

end Settings

/-! ## Connections and clients -/

namespace HttpConnection

/-- That a connection can be made with `url`, `headers` and `apiKey`: the address is a text, the
headers are none or can be read as a mapping, and the key is none or can be written. -/
def IsUsable (url headers apiKey : Value) : Prop :=
  (∃ address, url = .text address) ∧ (∃ more, Entries.ofOptional headers = .ok more) ∧
    (apiKey.truthy = true → apiKey.isWritable = true)

/-- `authorized headers apiKey` is there exactly if the key, if there is one, can be written. -/
theorem exists_authorized_iff {headers : Entries} {apiKey : Value} :
    (∃ more, authorized headers apiKey = .ok more) ↔
      (apiKey.truthy = true → apiKey.isWritable = true) := by
  rw [authorized]
  cases apiKey.truthy <;> cases apiKey.isWritable <;> simp

/-- A connection can be made exactly if `IsUsable url headers apiKey`. -/
theorem exists_make_iff {url apiKey timeout headers : Value} {retry : Option RetryPolicy}
    {ownsSession : Bool} : (∃ c, make url apiKey timeout headers retry ownsSession = .ok c) ↔
      IsUsable url headers apiKey := by
  constructor
  · rintro ⟨c, h⟩
    obtain ⟨address, haddress, h⟩ := bind_eq_ok h
    obtain ⟨more, hmore, h⟩ := bind_eq_ok h
    obtain ⟨sent, hsent, -⟩ := bind_eq_ok h
    refine ⟨?_, ⟨more, hmore⟩, exists_authorized_iff.mp ⟨sent, hsent⟩⟩
    cases url with
    | text s => exact ⟨s, rfl⟩
    | _ => cases haddress
  · rintro ⟨⟨address, rfl⟩, ⟨more, hmore⟩, hkey⟩
    -- Whether the key can be written does not depend on the other headers.
    obtain ⟨sent, hsent⟩ : ∃ sent, authorized
        (Entries.putAll [(.text "Accept", .text "application/json")] more) apiKey = .ok sent :=
      exists_authorized_iff.mpr hkey
    unfold make
    rw [hmore]
    show ∃ c, (authorized _ apiKey >>= _) = .ok c
    rw [hsent]
    exact ⟨_, rfl⟩

/-- `make url apiKey timeout headers retry = .ok c`: A connection has the time limit and the policy
that it is made with. -/
theorem of_make_eq_ok {url apiKey timeout headers : Value} {retry : Option RetryPolicy}
    {ownsSession : Bool} {c : HttpConnection}
    (h : make url apiKey timeout headers retry ownsSession = .ok c) :
    c.timeout = timeout ∧ c.retry = retry := by
  obtain ⟨address, -, h⟩ := bind_eq_ok h
  obtain ⟨more, -, h⟩ := bind_eq_ok h
  obtain ⟨sent, -, h⟩ := bind_eq_ok h
  cases h
  exact ⟨rfl, rfl⟩

end HttpConnection

/-- That a connection can be made with the address, the headers and the key that `es` configures. -/
def Settings.IsUsable (es : Entries) : Prop :=
  HttpConnection.IsUsable (configured es "connection" "url" standardConnection.url)
    (configured es "connection" "headers" standardConnection.headers)
    (configured es "connection" "api_key" standardConnection.apiKey)

namespace Client

/-- That the connection of `client` has the time limit that `es` configures, and tries again exactly
if that is configured to be done, and then as configured. -/
structure AsConfigured (es : Entries) (client : Client HttpConnection) : Prop where
  timeout : client.connection.timeout =
    Settings.configured es "connection" "timeout" (.ofNumber Settings.standardConnection.timeout)
  retries : client.connection.retry.isSome =
    (Settings.configured es "retry" "enabled" Settings.standardRetry.enabled).truthy
  policy : ∀ p ∈ client.connection.retry,
    .int p.maxRetries = Settings.configured es "retry" "max_retries"
        (.int Settings.standardRetry.policy.maxRetries) ∧
      .ofNumber p.baseDelay = Settings.configured es "retry" "base_delay"
        (.ofNumber Settings.standardRetry.policy.baseDelay) ∧
      .ofNumber p.maxDelay = Settings.configured es "retry" "max_delay"
        (.ofNumber Settings.standardRetry.policy.maxDelay)

variable {σ : Type}

/-- `ofSettings fx s state`: the outcome of making a client does not depend on the log. -/
theorem ofSettings_run (fx : Effects σ) (s : Settings) (state : σ) :
    ofSettings fx s state =
      ((connectionOf s).map fun c => ⟨c, s.emptySelection⟩, fx.setLevel s.logLevel state) := by
  rw [ofSettings, Action.bind_run_ok (Action.change_run _ _)]
  cases h : connectionOf s with
  | error e => exact Action.bind_run_error (by rw [Action.done_run])
  | ok c => exact Action.bind_run_ok (by rw [Action.done_run])

/-- A client can be made from accepted settings exactly if the address, the headers and the key can
be used, by `Settings.IsUsable es`, and then its connection is as configured. -/
theorem ofSettings_of_accepted {es : Entries} {s : Settings}
    (h : Settings.ofValue (.dict es) = .ok s) (fx : Effects σ) (state : σ) :
    ((∃ client, (ofSettings fx s state).1 = .ok client) ↔ Settings.IsUsable es) ∧
      ∀ client, (ofSettings fx s state).1 = .ok client → client.AsConfigured es := by
  have hholds := Settings.holds_of_accepted h
  rw [ofSettings_run]
  constructor
  · rw [Settings.IsUsable, ← hholds.url, ← hholds.headers, ← hholds.apiKey,
      ← HttpConnection.exists_make_iff]
    constructor
    · rintro ⟨client, hclient⟩
      obtain ⟨c, hc, -⟩ := map_eq_ok hclient
      exact ⟨c, hc⟩
    · rintro ⟨c, hc⟩
      exact ⟨_, congrArg (Except.map _) hc⟩
  · intro client hclient
    obtain ⟨c, hc, rfl⟩ := map_eq_ok hclient
    obtain ⟨htimeout, hretry⟩ := HttpConnection.of_make_eq_ok hc
    refine ⟨htimeout.trans hholds.timeout, ?_, fun p hp => ?_⟩
    · rw [← hholds.enabled]
      show c.retry.isSome = _
      rw [hretry]
      cases s.retry.enabled.truthy <;> rfl
    · -- There is a policy at all only if it is the one of the settings.
      have hpolicy : p = s.retry.policy := by
        have hp : p ∈ c.retry := hp
        rw [hretry] at hp
        split at hp
        · exact (Option.some.inj hp).symm
        · cases hp
      rw [hpolicy]
      exact ⟨hholds.maxRetries, hholds.baseDelay, hholds.maxDelay⟩

/-- Effects that leave no trace. -/
def silent : Effects Unit := ⟨fun _ u => u, fun _ u => u, fun u => (.int 0, u), fun _ u => u⟩

/-- A client made from settings that have an address only. -/
theorem ofSettings_of_accepted_address :
    ∃ s, Settings.ofValue (.dict (Settings.addressEntries (.text "http://store:8080/"))) = .ok s ∧
      ∃ client, (ofSettings silent s ()).1 = .ok client ∧
        client.AsConfigured (Settings.addressEntries (.text "http://store:8080/")) := by
  have haccepted : Settings.ofValue
      (.dict (Settings.addressEntries (.text "http://store:8080/"))) =
        .ok (Settings.withAddress (.text "http://store:8080/")) :=
    Settings.ofValue_addressEntries rfl
  obtain ⟨client, hclient⟩ : ∃ client,
      (ofSettings silent (Settings.withAddress (.text "http://store:8080/")) ()).1 = .ok client :=
    ⟨_, rfl⟩
  obtain ⟨-, hconfigured⟩ := ofSettings_of_accepted haccepted silent ()
  exact ⟨_, haccepted, client, hclient, hconfigured client hclient⟩

/-- Settings whose address is a number are accepted, and no client can be made from them. -/
theorem ofSettings_addressNumber :
    ∃ s, Settings.ofValue (.dict (Settings.addressEntries (.int 8080))) = .ok s ∧
      ∀ (σ : Type) (fx : Effects σ) (state : σ),
        (ofSettings fx s state).1 = .error .missingAttribute := by
  refine ⟨_, Settings.ofValue_addressEntries rfl, fun σ fx state => ?_⟩
  rw [ofSettings_run]
  rfl

end Client

end ObjectStore
