import Mathlib
import ObjectStore.Proofs.Except
import ObjectStore.Proofs.Filter.NoTenant
import ObjectStore.Query.Basic

/-! # The tenant of a query's text

The text of a query names its tenant in an argument, as an escaped string. A tenant and the texts of
a filter may hold anything, quotes and pieces of the query language among it; still the text of a
compiled query gives a value to the name `tenant` once, at the place of an argument, if the query
has a tenant, and never if it has none.

* `Query.tenantArguments`: the tenants that a text names.
* `Query.readsAs_textOf`: the tokens of a query's text.
* `Query.tenantArguments_compile`: the text of a compiled query names the query's tenant. -/

namespace ObjectStore

open GraphQL (Found Silent Says isWordChar)

/-! ## Names -/

/-- A name is a word of the query language. -/
theorem isWordChar_of_isName {cs : List Char} (h : Validate.isName cs = true) :
    cs ≠ [] ∧ ∀ c ∈ cs, isWordChar c = true := by
  cases cs with
  | nil => cases h
  | cons c cs =>
    rw [Validate.isName, Bool.and_eq_true, List.all_eq_true] at h
    refine ⟨List.cons_ne_nil _ _, List.forall_mem_cons.mpr ⟨?_, fun d hd => ?_⟩⟩
    · have hc := h.1
      simp only [Validate.isNameStart, Bool.or_eq_true] at hc
      simp only [isWordChar, Char.isAlphanum, Bool.or_eq_true]
      tauto
    · have hd := h.2 d hd
      simp only [Validate.isNameChar, Bool.or_eq_true] at hd
      simp only [isWordChar, Bool.or_eq_true]
      tauto

/-- `ReadsAs cs [.word cs]` for a name `cs`. -/
theorem readsAs_name {cs : List Char} (h : Validate.isName cs = true) :
    GraphQL.ReadsAs cs [.word cs] :=
  .word (isWordChar_of_isName h).1 (isWordChar_of_isName h).2

/-- `Validate.collectionName v = .ok name`: A collection name that is let through is a name, but for
a final line feed. -/
theorem collectionName_eq_ok {v : Value} {name : String}
    (h : Validate.collectionName v = .ok name) :
    v = .text name ∧ Validate.isName (Validate.dropFinalLineFeed name.toList) = true := by
  cases v with
  | text s =>
    rw [Validate.collectionName] at h
    split_ifs at h with hempty hlong hname
    cases h
    exact ⟨rfl, hname⟩
  | _ => cases h

/-- `dropFinalLineFeed cs`: a text is what is left without a final line feed, or this and a line
feed. -/
theorem eq_dropFinalLineFeed (cs : List Char) :
    cs = Validate.dropFinalLineFeed cs ∨ cs = Validate.dropFinalLineFeed cs ++ ['\n'] := by
  rw [Validate.dropFinalLineFeed]
  split
  · next hlast => exact .inr (List.dropLast_append_getLast? _ hlast).symm
  · exact .inl rfl

/-- `ReadsAs cs [.word (dropFinalLineFeed cs)]`: the line feed that may stand at the end of a
collection's name is no part of it for a reader. -/
theorem readsAs_collectionName {cs : List Char}
    (h : Validate.isName (Validate.dropFinalLineFeed cs) = true) :
    GraphQL.ReadsAs cs [.word (Validate.dropFinalLineFeed cs)] := by
  have hname := readsAs_name h
  generalize hw : Validate.dropFinalLineFeed cs = w at hname
  rcases hw ▸ eq_dropFinalLineFeed cs with rfl | rfl
  · exact hname
  · exact hname.append (by decide) (.ignored rfl .nil)

/-! ## Fields -/

/-- The tokens of the block that selects the identifier. -/
def idTokens : List GraphQL.Token :=
  [.word "_additional".toList, .mark '\x7b', .word "id".toList, .mark '\x7d']

/-- The field for the identifier is read as `idTokens`. -/
theorem readsAs_idField : GraphQL.ReadsAs Fields.idField.toList idTokens := by
  have hadditional : GraphQL.ReadsAs "_additional".toList [.word "_additional".toList] :=
    readsAs_name (by simp; decide)
  have hid : GraphQL.ReadsAs "id".toList [.word "id".toList] := readsAs_name (by simp; decide)
  have hclosing : GraphQL.ReadsAs [' ', '\x7d'] [.mark '\x7d'] := .ignored rfl (.mark rfl .nil)
  have hblock := hid.append (by decide) hclosing
  have hfield := hadditional.append (by decide)
    (.ignored (c := ' ') rfl (.mark (c := '\x7b') rfl (.ignored (c := ' ') rfl hblock)))
  simpa [Fields.idField, idTokens] using hfield

/-- Names and the field for the identifier are read as one word each and `idTokens`. -/
theorem readsAs_fieldText {own : List String} (h : ∀ s ∈ own, Validate.isName s.toList = true) :
    GraphQL.ReadsAs (Query.fieldText (own ++ [Fields.idField]))
      (own.map (.word ·.toList) ++ idTokens) := by
  rw [Query.fieldText, String.toList_intercalate, List.map_append]
  induction own with
  | nil => exact readsAs_idField
  | cons s own ih =>
    have hrest := ih fun t ht => h t (List.mem_cons_of_mem _ ht)
    have hs := (readsAs_name (h s List.mem_cons_self)).append (by decide)
      (.ignored (c := ' ') rfl hrest)
    rw [List.map_cons, List.cons_append, List.intercalate_cons_of_ne_nil (by simp)]
    simpa using hs

/-! ## Texts of queries -/

namespace Query

/-- Where the arguments of a query stand: between round brackets inside two pairs of braces. -/
def argumentPlace : List Char := ['(', '\x7b', '\x7b']

/-- The tenants that `text`, one of the query language, names, one for each value that the name of
the argument is given. Where that is no string or stands elsewhere than among the arguments of a
query, and where the text cannot be read, no tenant is named by it. -/
def tenantArguments (text : List Char) : List (Option String) :=
  match GraphQL.tokens? text with
  | none => [none]
  | some ts => (GraphQL.namedValues tenantName [] ts).map fun (opened, tenant?) =>
      if opened = argumentPlace then tenant? else none

variable {q : Query}

/-- `Says tenantName (commaJoin (q.arguments condition))`: the arguments say the tenant and nothing
else. -/
theorem says_arguments {condition : Option (List Char)}
    (h : ∀ cs ∈ condition, Silent tenantName cs) :
    Says tenantName (GraphQL.commaJoin (q.arguments condition))
      fun opened => (q.tenant.map fun t => (opened, some t)).toList := by
  -- An argument that is left out is no piece, and says nothing.
  let nothing : Found := fun _ => []
  let tenant : String → Found := fun t opened => [(opened, some t)]
  have hwhere : List.Forall₂ (Says tenantName)
      (condition.map fun c => "where: ".toList ++ c).toList
      (condition.map fun _ => nothing).toList := by
    cases condition with
    | none => exact .nil
    | some cs =>
      have hcs : Says tenantName ("where".toList ++ ':' :: ' ' :: cs) nothing :=
        says_otherArgument (by simp [otherArguments]) (h cs rfl)
      exact .cons (by simpa using hcs) .nil
  have hlimit : List.Forall₂ (Says tenantName)
      (q.limit.map fun n => "limit: ".toList ++ (toString n).toList).toList
      (q.limit.map fun _ => nothing).toList := by
    cases q.limit with
    | none => exact .nil
    | some n =>
      have hn : Says tenantName ("limit".toList ++ ':' :: ' ' :: (toString n).toList) nothing :=
        says_otherArgument (by simp [otherArguments])
          (silent_numeral (Text.isNumeralChar_toString_int n))
      exact .cons (by simpa using hn) .nil
  have htenant : List.Forall₂ (Says tenantName)
      (q.tenant.map fun t => "tenant: ".toList ++ Text.literal t.toList).toList
      (q.tenant.map tenant).toList := by
    cases q.tenant with
    | none => exact .nil
    | some t =>
      have hword : tenantName ≠ [] ∧ ∀ c ∈ tenantName, isWordChar c = true := by
        simp [tenantName]
        decide
      have ht := Says.named hword.1 hword.2 t.toList
      exact .cons (by simpa [tenantName] using ht) .nil
  have hall := Says.commaJoin (List.rel_append (List.rel_append hwhere hlimit) htenant)
  have hfound : ∀ opened, ((condition.map fun _ => nothing).toList ++
      (q.limit.map fun _ => nothing).toList ++ (q.tenant.map tenant).toList).flatMap (· opened) =
        (q.tenant.map fun t => (opened, some t)).toList := by
    intro opened
    cases condition <;> cases q.limit <;> cases q.tenant <;> rfl
  simpa only [arguments, hfound] using hall

/-- `Says tenantName (bracketed (q.arguments condition))`: the brackets around the arguments are
left out if there are none. -/
theorem says_bracketed {condition : Option (List Char)}
    (h : ∀ cs ∈ condition, Silent tenantName cs) :
    Says tenantName (bracketed (q.arguments condition))
      fun opened => (q.tenant.map fun t => ('(' :: opened, some t)).toList := by
  have hfound := says_arguments (q := q) h
  cases harguments : q.arguments condition with
  | nil =>
    have htenant : q.tenant = none := by
      cases ht : q.tenant with
      | none => rfl
      | some t =>
        simp [arguments, ht] at harguments
    rw [bracketed, htenant]
    exact Silent.nil
  | cons piece pieces =>
    rw [harguments] at hfound
    exact hfound.bracketed (by decide)

/-- What stands behind a query's arguments, for its `own` fields. -/
def selectionTokens (own : List String) : List GraphQL.Token :=
  .mark '\x7b' :: (own.map (.word ·.toList) ++ idTokens ++
    [.mark '\x7d', .mark '\x7d', .mark '\x7d'])

/-- What stands behind the arguments is read as `selectionTokens own`. -/
theorem readsAs_selection {own : List String} (h : ∀ s ∈ own, Validate.isName s.toList = true) :
    GraphQL.ReadsAs (' ' :: '\x7b' :: ' ' :: (fieldText (own ++ [Fields.idField]) ++
      [' ', '\x7d', ' ', '\x7d', ' ', '\x7d'])) (selectionTokens own) := by
  have hclosing : GraphQL.ReadsAs [' ', '\x7d', ' ', '\x7d', ' ', '\x7d']
      [.mark '\x7d', .mark '\x7d', .mark '\x7d'] :=
    .ignored rfl (.mark rfl (.ignored rfl (.mark rfl (.ignored rfl (.mark rfl .nil)))))
  have hfields := (readsAs_fieldText h).append (by decide) hclosing
  exact .ignored rfl (.mark rfl (.ignored rfl hfields))

/-- The parts of `q.textOf condition fields`. -/
theorem textOf_eq (q : Query) (condition : Option (List Char)) (fields : List String) :
    q.textOf condition fields =
      '\x7b' :: ' ' :: ("Get".toList ++ ' ' :: '\x7b' :: ' ' :: (q.collection.toList ++
        (bracketed (q.arguments condition) ++ ' ' :: '\x7b' :: ' ' :: (fieldText fields ++
          [' ', '\x7d', ' ', '\x7d', ' ', '\x7d'])))) := by
  have hopening : "\x7b Get \x7b ".toList =
      '\x7b' :: ' ' :: ("Get".toList ++ [' ', '\x7b', ' ']) := by simp
  have hbrace : " \x7b ".toList = [' ', '\x7b', ' '] := by simp
  have hclosing : " \x7d \x7d \x7d".toList = [' ', '\x7d', ' ', '\x7d', ' ', '\x7d'] := by simp
  unfold textOf
  simp only [hopening, hbrace, hclosing, List.append_assoc, List.cons_append, List.nil_append]

/-- The tokens of `q.textOf`, given those of its arguments. -/
theorem readsAs_textOf {condition : Option (List Char)} {own : List String}
    {ts : List GraphQL.Token}
    (hname : Validate.isName (Validate.dropFinalLineFeed q.collection.toList) = true)
    (hown : ∀ s ∈ own, Validate.isName s.toList = true)
    (hts : GraphQL.ReadsAs (bracketed (q.arguments condition)) ts) :
    GraphQL.ReadsAs (q.textOf condition (own ++ [Fields.idField]))
      (.mark '\x7b' :: .word "Get".toList :: .mark '\x7b' ::
        .word (Validate.dropFinalLineFeed q.collection.toList) :: (ts ++ selectionTokens own)) := by
  have hget : GraphQL.ReadsAs "Get".toList [.word "Get".toList] := readsAs_name (by simp; decide)
  have hrest := hts.append (by decide) (readsAs_selection hown)
  have hnamed : GraphQL.ReadsAs (q.collection.toList ++ (bracketed (q.arguments condition) ++
      ' ' :: '\x7b' :: ' ' :: (fieldText (own ++ [Fields.idField]) ++
        [' ', '\x7d', ' ', '\x7d', ' ', '\x7d'])))
      ([.word (Validate.dropFinalLineFeed q.collection.toList)] ++
        (ts ++ selectionTokens own)) := by
    -- A bracket or, without arguments, a blank ends the collection's name.
    cases harguments : q.arguments condition with
    | nil =>
      rw [harguments] at hrest
      exact (readsAs_collectionName hname).append (by decide) hrest
    | cons piece pieces =>
      rw [harguments] at hrest
      exact (readsAs_collectionName hname).append (by decide) hrest
  rw [textOf_eq]
  exact .mark rfl (.ignored rfl (hget.append (by decide)
    (.ignored rfl (.mark rfl (.ignored rfl hnamed)))))

/-- `namedValues tenantName opened (selectionTokens own) = []`: what stands behind the arguments
gives nothing to the name of the tenant. -/
theorem namedValues_selectionTokens (opened : List Char) (own : List String) :
    GraphQL.namedValues tenantName opened (selectionTokens own) = [] := by
  -- A field may be called like the argument, but it is followed by a field or a brace.
  have hwords : own.map (fun s => GraphQL.Token.word s.toList) ++ [.word "_additional".toList] =
      ((own ++ ["_additional"]).map String.toList).map .word := by
    rw [List.map_append, List.map_append, List.map_map]
    rfl
  have hid : "id".toList ≠ tenantName := by simp [tenantName]
  have hfields : GraphQL.namedValues tenantName ('\x7b' :: opened) _ = _ :=
    GraphQL.namedValues_words ('\x7b' :: opened) ((own ++ ["_additional"]).map String.toList)
      (c := '\x7b') (by decide)
      [.word "id".toList, .mark '\x7d', .mark '\x7d', .mark '\x7d', .mark '\x7d']
  rw [← hwords, List.append_assoc] at hfields
  rw [selectionTokens, idTokens, GraphQL.namedValues_mark, List.append_assoc]
  refine hfields.trans ?_
  rw [GraphQL.namedValues_mark, GraphQL.namedValues_word_of_ne _ hid]
  simp

/-- What follows the collection's name is a bracket, and so gives the name no value. -/
theorem exists_eq_bracket_cons {condition : Option (List Char)} {ts : List GraphQL.Token}
    (hts : GraphQL.ReadsAs (bracketed (q.arguments condition)) ts) (own : List String) :
    ∃ c us, c ≠ ':' ∧ ts ++ selectionTokens own = .mark c :: us := by
  cases harguments : q.arguments condition with
  | nil =>
    rw [harguments] at hts
    have hnil : some [] = some ts := hts.tokens?_eq
    rw [← Option.some.inj hnil]
    exact ⟨'\x7b', _, by decide, rfl⟩
  | cons piece pieces =>
    rw [harguments] at hts
    obtain ⟨us, rfl⟩ := hts.exists_eq_mark_cons rfl
    exact ⟨'(', _, by decide, rfl⟩

/-- `tenantArguments (q.textOf condition fields)`: the text of a query names the query's tenant
once, if it has one. -/
theorem tenantArguments_textOf {condition : Option (List Char)} {own : List String}
    (hname : Validate.isName (Validate.dropFinalLineFeed q.collection.toList) = true)
    (hown : ∀ s ∈ own, Validate.isName s.toList = true)
    (hcondition : ∀ cs ∈ condition, Silent tenantName cs) :
    tenantArguments (q.textOf condition (own ++ [Fields.idField])) =
      (q.tenant.map some).toList := by
  obtain ⟨ts, hts, htenant⟩ := says_bracketed (q := q) hcondition
  have hget : "Get".toList ≠ tenantName := by simp [tenantName]
  have hfound : GraphQL.namedValues tenantName ['\x7b', '\x7b'] (ts ++ selectionTokens own) =
      (q.tenant.map fun t => (argumentPlace, some t)).toList := by
    rw [htenant, namedValues_selectionTokens, List.append_nil]
    rfl
  have hall : GraphQL.namedValues tenantName [] (.mark '\x7b' :: .word "Get".toList ::
      .mark '\x7b' :: .word (Validate.dropFinalLineFeed q.collection.toList) ::
        (ts ++ selectionTokens own)) = (q.tenant.map fun t => (argumentPlace, some t)).toList := by
    -- The collection may have the name of the argument itself.
    obtain ⟨c, us, hc, hnext⟩ := exists_eq_bracket_cons hts own
    rw [hnext] at hfound ⊢
    rw [GraphQL.namedValues_mark, GraphQL.namedValues_word_of_ne _ hget, GraphQL.namedValues_mark,
      GraphQL.namedValues_word_mark _ _ hc]
    exact hfound
  rw [tenantArguments, (readsAs_textOf hname hown hts).tokens?_eq]
  simp only [hall]
  cases q.tenant <;> rfl

/-! ## Compiled queries -/

/-- That the fields of `q`, those that select the identifier aside, are names. -/
def SelectsNames (q : Query) : Prop :=
  ∀ v ∈ q.fields, ∃ s, v = .text s ∧
    (Validate.isName s.toList = true ∨ Fields.isIdBlock s.toList = true)

/-- `Fields.ownFields vs = .ok own`: A query's own fields are names, if its fields are names and
blocks. -/
theorem isName_of_mem_ownFields {vs : List Value} {own : List String}
    (h : Fields.ownFields vs = .ok own)
    (hvs : ∀ v ∈ vs, ∃ s, v = .text s ∧
      (Validate.isName s.toList = true ∨ Fields.isIdBlock s.toList = true)) :
    ∀ s ∈ own, Validate.isName s.toList = true := by
  induction vs generalizing own with
  | nil =>
    cases h
    exact fun _ hs => nomatch hs
  | cons v vs ih =>
    obtain ⟨s, rfl, hs⟩ := hvs v List.mem_cons_self
    obtain ⟨rest, hrest, rfl⟩ := map_eq_ok h
    have ih := ih hrest fun w hw => hvs w (List.mem_cons_of_mem _ hw)
    split
    · exact ih
    · next hid => exact List.forall_mem_cons.mpr ⟨hs.resolve_right hid, ih⟩

/-- `q.compile = .ok c`: what a compiled query is made from. -/
theorem exists_of_compile_eq_ok {c : CompiledQuery} (h : q.compile = .ok c) :
    ∃ own, Fields.ownFields q.fields = .ok own ∧ c.fields = own ++ [Fields.idField] ∧
      conditionOf q.filter = .ok c.condition ∧
      c.text = String.ofList (q.textOf (q.filter.map Filter.whereChars) c.fields) := by
  rw [compile] at h
  obtain ⟨fields, hfields, h⟩ := bind_eq_ok h
  obtain ⟨condition, hcondition, h⟩ := bind_eq_ok h
  obtain ⟨written, hwritten, h⟩ := bind_eq_ok h
  cases h
  -- Not refused for selecting nothing, the fields are resolved.
  have hresolve : Fields.resolve q.fields = .ok fields := by
    rw [resolveFields] at hfields
    split at hfields
    · cases hfields
    · exact hfields
  -- The condition is written in the characters of the filter it comes from.
  have hchars : written = q.filter.map Filter.whereChars := by
    cases hfilter : q.filter with
    | none =>
      rw [hfilter] at hcondition
      cases hcondition
      cases hwritten
      rfl
    | some f =>
      rw [hfilter] at hcondition
      obtain ⟨v, hv, rfl⟩ := map_eq_ok hcondition
      obtain ⟨cs, hcs, rfl⟩ := map_eq_ok hwritten
      rw [f.literal_of_wire hv, writtenIf_eq_ok_iff] at hcs
      rw [← hcs.2]
      rfl
  obtain ⟨own, hown, rfl⟩ := map_eq_ok hresolve
  rw [← hchars]
  exact ⟨own, hown, rfl, hcondition, rfl⟩

/-- `tenantArguments c.text = q.tenant.map some`: the text of a compiled query names the query's
tenant once, if it has one. -/
theorem tenantArguments_compile {c : CompiledQuery}
    (hname : Validate.isName (Validate.dropFinalLineFeed q.collection.toList) = true)
    (hfields : q.SelectsNames) (h : q.compile = .ok c) :
    tenantArguments c.text.toList = (q.tenant.map some).toList := by
  obtain ⟨own, hown, hselected, -, htext⟩ := exists_of_compile_eq_ok h
  have hcondition : ∀ cs ∈ q.filter.map Filter.whereChars, Silent tenantName cs := by
    intro cs hcs
    obtain ⟨f, -, rfl⟩ := Option.mem_map.mp hcs
    exact f.silent_whereChars
  rw [htext, String.toList_ofList, hselected]
  exact tenantArguments_textOf hname (isName_of_mem_ownFields hown hfields) hcondition

end Query

end ObjectStore
