import Mathlib
import ObjectStore.Proofs.Filter.Built
import ObjectStore.Proofs.Filter.Unambiguous
import ObjectStore.Proofs.Query.TenantArgument

/-! # The text of a query determines the query

Two queries that are compiled to the same text ask for the same: the same collection, condition,
limit, tenant and fields. No tenant, property or value can be such that its text passes for an
argument, for the end of the arguments or for a field, and an argument that is left out passes for
none that is there.

The texts are compared from the front. The collection's name ends at the first character that no
name has; each argument begins with its own name and ends where it can be seen to; fields end at
blanks.

* `Query.Argument`: the arguments of queries, as data.
* `Query.bracketed_inj`: equal texts of arguments are of equal arguments.
* `Query.fieldText_inj`: equal texts of fields are of equal fields.
* `Query.compile_text_inj`: compiled queries of one text ask for the same. -/

namespace ObjectStore.Query

open GraphQL (isWordChar)

/-! ## Arguments -/

/-- An argument of a query. -/
inductive Argument
  | condition (f : Filter)
  | limit (n : Int)
  | tenant (t : String)

namespace Argument

/-- What an argument begins with: its name and a colon. -/
def opening : Argument → String
  | condition _ => "where: "
  | limit _ => "limit: "
  | tenant _ => "tenant: "

/-- The characters of the value of an argument. -/
def value : Argument → List Char
  | condition f => f.whereChars
  | limit n => (toString n).toList
  | tenant t => Text.literal t.toList

/-- The characters of `a`. -/
def chars (a : Argument) : List Char := a.opening.toList ++ a.value

/-- An argument whose naive points in time are read at offset zero. -/
def assumeUtc : Argument → Argument
  | condition f => condition f.assumeUtc
  | a => a

/-- That the filter of an argument, if it has one, is well formed. -/
def WellFormed : Argument → Prop
  | condition f => f.WellFormed
  | _ => True

/-- The filter of an argument that has one. -/
def filter? : Argument → Option Filter
  | condition f => some f
  | _ => none

/-- The limit that an argument is. -/
def limit? : Argument → Option Int
  | limit n => some n
  | _ => none

/-- The tenant that an argument names. -/
def tenant? : Argument → Option String
  | tenant t => some t
  | _ => none

/-- `a.opening ++ r = b.opening ++ s`: the name tells what kind of argument begins. -/
theorem opening_inj {a b : Argument} {r s : List Char}
    (h : a.opening.toList ++ r = b.opening.toList ++ s) : a.opening = b.opening := by
  cases a <;> cases b <;> first | rfl | simp [opening] at h

/-- `a.value ++ r = b.value ++ s`: the values of arguments of one kind end where they can be seen
to. -/
theorem value_inj {a b : Argument} (ha : a.WellFormed) (hb : b.WellFormed)
    (hopening : a.opening = b.opening) {r s : List Char} (hr : EndsItem ')' r)
    (hs : EndsItem ')' s) (h : a.value ++ r = b.value ++ s) :
    a.assumeUtc = b.assumeUtc ∧ r = s := by
  -- A number ends at the comma or the bracket behind it; texts and filters end by themselves.
  have hstop : ∀ {x : List Char}, EndsItem ')' x → ∀ c ∈ x.head?, Text.isNumeralChar c = false := by
    rintro x ⟨d, ds, rfl, rfl | rfl⟩ c ⟨⟩ <;> rfl
  cases a with
  | condition f =>
    cases b with
    | condition g =>
      obtain ⟨hfg, hrest⟩ := Filter.whereChars_inj ha hb h
      rw [assumeUtc, assumeUtc, hfg]
      exact ⟨rfl, hrest⟩
    | _ => simp [opening] at hopening
  | limit m =>
    cases b with
    | limit n =>
      obtain ⟨hchars, hrest⟩ := Text.append_inj_of_stop (Text.isNumeralChar_toString_int m)
        (Text.isNumeralChar_toString_int n) (hstop hr) (hstop hs) h
      rw [Text.toString_int_inj hchars]
      exact ⟨rfl, hrest⟩
    | _ => simp [opening] at hopening
  | tenant t =>
    cases b with
    | tenant u =>
      obtain ⟨hchars, hrest⟩ := Json.literal_append_inj h
      rw [String.toList_inj.1 hchars]
      exact ⟨rfl, hrest⟩
    | _ => simp [opening] at hopening

/-- `a.chars ++ r = b.chars ++ s`: an argument ends where it can be seen to, and no two kinds of
arguments are written alike. -/
theorem chars_inj {a b : Argument} (ha : a.WellFormed) (hb : b.WellFormed) {r s : List Char}
    (hr : EndsItem ')' r) (hs : EndsItem ')' s) (h : a.chars ++ r = b.chars ++ s) :
    a.assumeUtc = b.assumeUtc ∧ r = s := by
  rw [chars, chars, List.append_assoc, List.append_assoc] at h
  have hopening := opening_inj h
  rw [hopening] at h
  exact value_inj ha hb hopening hr hs (List.append_cancel_left h)

end Argument

/-- `bracketed (piece :: pieces) ++ r`: behind the opening bracket stand the joined arguments and
the closing bracket. -/
theorem bracketed_cons_append (piece : List Char) (pieces : List (List Char)) (r : List Char) :
    bracketed (piece :: pieces) ++ r =
      '(' :: (GraphQL.commaJoin (piece :: pieces) ++ ')' :: r) := by
  rw [bracketed, List.cons_append, List.append_assoc, List.singleton_append]
  exact List.cons_ne_nil _ _

/-- `bracketed as ++ ' ' :: r = bracketed bs ++ ' ' :: s`: arguments between brackets, or none at
all, before a blank. -/
theorem bracketed_inj {as bs : List Argument} (has : ∀ a ∈ as, a.WellFormed)
    (hbs : ∀ b ∈ bs, b.WellFormed) {r s : List Char}
    (h : bracketed (as.map Argument.chars) ++ ' ' :: r =
      bracketed (bs.map Argument.chars) ++ ' ' :: s) :
    as.map Argument.assumeUtc = bs.map Argument.assumeUtc ∧ r = s := by
  -- Brackets are only there with arguments, and a bracket is no blank.
  cases as with
  | nil =>
    cases bs with
    | nil => exact ⟨rfl, List.tail_eq_of_cons_eq h⟩
    | cons b bs => cases h
  | cons a as =>
    cases bs with
    | nil => cases h
    | cons b bs =>
      rw [List.map_cons, List.map_cons, bracketed_cons_append, bracketed_cons_append] at h
      obtain ⟨hmap, hrest⟩ := commaJoin_inj (by decide)
        (fun a ha b hb r s hr hs => Argument.chars_inj (has a ha) (hbs b hb) hr hs)
        (List.cons_ne_nil a as) (List.cons_ne_nil b bs) (List.tail_eq_of_cons_eq h)
      exact ⟨hmap, List.tail_eq_of_cons_eq hrest⟩

/-- The arguments of `q`, in their order. -/
def argumentList (q : Query) : List Argument :=
  (q.filter.map .condition).toList ++ (q.limit.map .limit).toList ++
    (q.tenant.map .tenant).toList

variable {q q' : Query}

/-- `q.arguments` are the characters of `q.argumentList`. -/
theorem arguments_eq_map (q : Query) :
    q.arguments (q.filter.map Filter.whereChars) = q.argumentList.map Argument.chars := by
  unfold arguments argumentList
  cases q.filter <;> cases q.limit <;> cases q.tenant <;> rfl

/-- `q.argumentList`: the arguments of a query are well formed if its filter is. -/
theorem wellFormed_of_mem_argumentList (h : ∀ f ∈ q.filter, f.WellFormed) :
    ∀ a ∈ q.argumentList, a.WellFormed := by
  intro a ha
  simp only [argumentList, List.mem_append, Option.mem_toList, Option.map_eq_some_iff] at ha
  obtain (⟨f, hf, rfl⟩ | ⟨n, -, rfl⟩) | ⟨t, -, rfl⟩ := ha
  · exact h f hf
  · trivial
  · trivial

/-- `q.argumentList`: queries of equal arguments have equal filters, limits and tenants. -/
theorem eq_of_argumentList_eq
    (h : q.argumentList.map Argument.assumeUtc = q'.argumentList.map Argument.assumeUtc) :
    q.filter.map Filter.assumeUtc = q'.filter.map Filter.assumeUtc ∧ q.limit = q'.limit ∧
      q.tenant = q'.tenant := by
  -- Each of the three is picked out of the list again.
  have hpick : ∀ q : Query,
      (q.argumentList.map Argument.assumeUtc).findSome? Argument.filter? =
        q.filter.map Filter.assumeUtc ∧
      (q.argumentList.map Argument.assumeUtc).findSome? Argument.limit? = q.limit ∧
      (q.argumentList.map Argument.assumeUtc).findSome? Argument.tenant? = q.tenant := by
    intro q
    unfold argumentList
    cases q.filter <;> cases q.limit <;> cases q.tenant <;> exact ⟨rfl, rfl, rfl⟩
  obtain ⟨hfilter, hlimit, htenant⟩ := hpick q
  obtain ⟨hfilter', hlimit', htenant'⟩ := hpick q'
  exact ⟨by rw [← hfilter, h, hfilter'], by rw [← hlimit, h, hlimit'],
    by rw [← htenant, h, htenant']⟩

/-! ## Names and fields -/

/-- `a ++ r = b ++ s`: A name ends at a character that stands in none. -/
theorem name_append_inj {a b r s : List Char} (ha : Validate.isName a = true)
    (hb : Validate.isName b = true) (hr : ∀ c ∈ r.head?, isWordChar c = false)
    (hs : ∀ c ∈ s.head?, isWordChar c = false) (h : a ++ r = b ++ s) : a = b ∧ r = s :=
  Text.append_inj_of_stop (isWordChar_of_isName ha).2 (isWordChar_of_isName hb).2 hr hs h

/-- `a ++ r = b ++ s`: A collection's name may end with a line feed, but it does not go on behind
it. -/
theorem collectionName_append_inj {a b r s : List Char}
    (ha : Validate.isName (Validate.dropFinalLineFeed a) = true)
    (hb : Validate.isName (Validate.dropFinalLineFeed b) = true)
    (hr : r.head? = some '(' ∨ r.head? = some ' ') (hs : s.head? = some '(' ∨ s.head? = some ' ')
    (h : a ++ r = b ++ s) : a = b ∧ r = s := by
  -- With the line feed counted among the characters of names, what follows still is none of them.
  have hchars : ∀ {x : List Char}, Validate.isName (Validate.dropFinalLineFeed x) = true →
      ∀ c ∈ x, (isWordChar c || c == '\n') = true := by
    intro x hx c hc
    have hword := (isWordChar_of_isName hx).2
    rcases eq_dropFinalLineFeed x with hname | hname
    · rw [hword c (hname ▸ hc), Bool.true_or]
    · rw [hname] at hc
      rcases List.mem_append.mp hc with hc | hc
      · rw [hword c hc, Bool.true_or]
      · rw [List.mem_singleton.mp hc]
        rfl
  have hstop : ∀ {x : List Char}, x.head? = some '(' ∨ x.head? = some ' ' →
      ∀ c ∈ x.head?, (isWordChar c || c == '\n') = false := by
    intro x hx c hc
    rcases hx with hx | hx <;> rw [hx] at hc <;> cases hc <;> rfl
  exact Text.append_inj_of_stop (hchars ha) (hchars hb) (hstop hr) (hstop hs) h

/-- `fieldText`: the first of a query's own fields stands before a blank and the others. -/
theorem fieldText_cons (s : String) (own : List String) :
    fieldText (s :: own ++ [Fields.idField]) =
      s.toList ++ ' ' :: fieldText (own ++ [Fields.idField]) := by
  rw [fieldText, fieldText, String.toList_intercalate, String.toList_intercalate,
    List.cons_append, List.map_cons, List.intercalate_cons_of_ne_nil (by simp)]
  simp

/-- `fieldText (own ++ [idField]) = c :: cs`: the text of fields begins with a letter of a name. -/
theorem exists_fieldText_eq_cons {own : List String}
    (h : ∀ s ∈ own, Validate.isName s.toList = true) :
    ∃ c cs, fieldText (own ++ [Fields.idField]) = c :: cs ∧ isWordChar c = true := by
  cases own with
  | nil => exact ⟨'_', _, rfl, rfl⟩
  | cons s own =>
    obtain ⟨hne, hword⟩ := isWordChar_of_isName (h s List.mem_cons_self)
    obtain ⟨c, cs, hcs⟩ := List.exists_cons_of_ne_nil hne
    rw [fieldText_cons, hcs]
    exact ⟨c, _, rfl, hword c (hcs ▸ List.mem_cons_self)⟩

/-- `fieldText [idField] ≠ fieldText (s :: own ++ [idField])`: the identifier is selected at the
end: what stands behind its key is no field. -/
theorem fieldText_nil_ne_cons {s : String} {own : List String}
    (hs : Validate.isName s.toList = true) (hown : ∀ s ∈ own, Validate.isName s.toList = true) :
    fieldText [Fields.idField] ≠ fieldText (s :: own ++ [Fields.idField]) := by
  intro h
  have hid : fieldText [Fields.idField] =
      Fields.metadataKey.toList ++ ' ' :: '\x7b' :: " id \x7d".toList := by
    simp [fieldText, Fields.idField, Fields.metadataKey]
  have hkey : Validate.isName Fields.metadataKey.toList = true := by
    simp [Fields.metadataKey]
    decide
  obtain ⟨c, cs, hcs, hc⟩ := exists_fieldText_eq_cons hown
  -- Were the other name the key too, a letter would stand where the brace of the selection does.
  rw [hid, fieldText_cons, hcs] at h
  obtain ⟨-, hrest⟩ := name_append_inj hkey hs (by simp; decide) (by simp; decide) h
  cases hrest
  exact absurd hc (by decide)

/-- `fieldText (own ++ [idField]) = fieldText (own' ++ [idField])`: texts of names before the
identifier's selection are equal if the names are. -/
theorem fieldText_inj {own own' : List String} (h : ∀ s ∈ own, Validate.isName s.toList = true)
    (h' : ∀ s ∈ own', Validate.isName s.toList = true)
    (htext : fieldText (own ++ [Fields.idField]) = fieldText (own' ++ [Fields.idField])) :
    own = own' := by
  -- On the names in front of the identifier: each is taken off both texts, and both run out at
  -- once.
  induction own generalizing own' with
  | nil =>
    cases own' with
    | nil => rfl
    | cons s own' =>
      obtain ⟨hs, hown⟩ := List.forall_mem_cons.mp h'
      exact absurd htext (fieldText_nil_ne_cons hs hown)
  | cons s own ih =>
    obtain ⟨hs, hown⟩ := List.forall_mem_cons.mp h
    cases own' with
    | nil => exact absurd htext.symm (fieldText_nil_ne_cons hs hown)
    | cons s' own' =>
      obtain ⟨hs', hown'⟩ := List.forall_mem_cons.mp h'
      rw [fieldText_cons, fieldText_cons] at htext
      obtain ⟨hname, hrest⟩ := name_append_inj hs hs' (by simp; decide) (by simp; decide) htext
      rw [String.toList_inj.1 hname, ih hown hown' (List.tail_eq_of_cons_eq hrest)]

/-! ## Compiled queries -/

/-- That `q` has a collection name that is let through, a filter that was built, if it has one, and
fields that are names, those that select the identifier aside. -/
structure Regular (q : Query) : Prop where
  name : Validate.collectionName (.text q.collection) = .ok q.collection
  filter : ∀ f ∈ q.filter, f.Built
  fields : q.SelectsNames

/-- Arguments in brackets begin with a bracket, and where there are none a blank follows. -/
theorem head_bracketed_append (pieces : List (List Char)) (r : List Char) :
    (bracketed pieces ++ ' ' :: r).head? = some '(' ∨
      (bracketed pieces ++ ' ' :: r).head? = some ' ' := by
  cases pieces with
  | nil => exact .inr rfl
  | cons piece pieces => exact .inl rfl

/-- `conditionOf (f.map Filter.assumeUtc) = conditionOf f`. -/
theorem conditionOf_assumeUtc (f : Option Filter) :
    conditionOf (f.map Filter.assumeUtc) = conditionOf f := by
  cases f with
  | none => rfl
  | some f => exact congrArg (Except.map some) f.wire_assumeUtc

/-- `Fields.ownFields vs = .ok own`: fields that are all texts have own fields among them. -/
theorem exists_ownFields {vs : List Value} (h : ∀ v ∈ vs, ∃ s, v = .text s) :
    ∃ own, Fields.ownFields vs = .ok own := by
  induction vs with
  | nil => exact ⟨[], rfl⟩
  | cons v vs ih =>
    obtain ⟨s, rfl⟩ := h v List.mem_cons_self
    obtain ⟨own, hown⟩ := ih fun w hw => h w (List.mem_cons_of_mem _ hw)
    exact ⟨_, by rw [Fields.ownFields, hown]; rfl⟩

/-- `q.compile = writtenIf (q.filter.all Filter.isWritable) c`: a query whose filter was built and
whose fields are resolved is compiled if its filter can be written. -/
theorem compile_of_resolveFields {fields : List String} (hfilter : ∀ f ∈ q.filter, f.Built)
    (hfields : q.resolveFields = .ok fields) :
    ∃ c, c.fields = fields ∧ q.compile = writtenIf (q.filter.all Filter.isWritable) c := by
  -- A filter that was built has a wire form, which can be written if its numbers can.
  have hwritten : ∃ condition, conditionOf q.filter = .ok condition ∧ conditionText condition =
      writtenIf (q.filter.all Filter.isWritable) (q.filter.map Filter.whereChars) := by
    cases hf : q.filter with
    | none => exact ⟨none, rfl, rfl⟩
    | some f =>
      obtain ⟨v, hwire⟩ := (hfilter f hf).wellFormed.exists_wire
      refine ⟨some v, ?_, ?_⟩
      · rw [conditionOf, hwire]
        rfl
      · rw [conditionText, f.literal_of_wire hwire, map_writtenIf]
        rfl
  obtain ⟨condition, hcondition, hwritten⟩ := hwritten
  refine ⟨⟨q.collection, String.ofList (q.textOf (q.filter.map Filter.whereChars) fields), fields,
    condition⟩, rfl, ?_⟩
  rw [compile, hfields]
  show (conditionOf q.filter >>= _) = _
  rw [hcondition]
  show (conditionText condition >>= _) = _
  rw [hwritten]
  cases q.filter.all Filter.isWritable <;> rfl

/-- `q.compile = .ok c`: such a query is compiled, if it selects fields and its filter can be
written. -/
theorem Regular.exists_compile (hq : q.Regular) (hne : q.fields ≠ [])
    (hwritable : q.filter.all Filter.isWritable = true) : ∃ c, q.compile = .ok c := by
  obtain ⟨own, hown⟩ := exists_ownFields fun v hv => (hq.fields v hv).imp fun _ h => h.1
  have hfields : q.resolveFields = .ok (own ++ [Fields.idField]) := by
    rw [resolveFields, if_neg (by simp [hne]), Fields.resolve, hown]
    rfl
  obtain ⟨c, -, hc⟩ := compile_of_resolveFields hq.filter hfields
  exact ⟨c, hc.trans (by rw [hwritable, writtenIf_true])⟩

/-- `c.text = c'.text`: compiled queries of one text ask for the same. -/
theorem compile_text_inj {c c' : CompiledQuery} (hq : q.Regular) (hq' : q'.Regular)
    (h : q.compile = .ok c) (h' : q'.compile = .ok c') (htext : c.text = c'.text) :
    q.collection = q'.collection ∧ c.condition = c'.condition ∧ q.limit = q'.limit ∧
      q.tenant = q'.tenant ∧ c.fields = c'.fields := by
  obtain ⟨own, hown, hfields, hcondition, hparts⟩ := exists_of_compile_eq_ok h
  obtain ⟨own', hown', hfields', hcondition', hparts'⟩ := exists_of_compile_eq_ok h'
  have hchars : q.textOf (q.filter.map Filter.whereChars) c.fields =
      q'.textOf (q'.filter.map Filter.whereChars) c'.fields := by
    rwa [hparts, hparts', String.ofList_inj] at htext
  rw [textOf_eq, textOf_eq, arguments_eq_map, arguments_eq_map] at hchars
  simp only [List.cons.injEq, true_and, List.append_cancel_left_eq] at hchars
  -- The parts are taken off from the front, one after the other.
  obtain ⟨hcollection, harguments⟩ := collectionName_append_inj (collectionName_eq_ok hq.name).2
    (collectionName_eq_ok hq'.name).2 (head_bracketed_append _ _) (head_bracketed_append _ _) hchars
  obtain ⟨hlist, hrest⟩ := bracketed_inj
    (wellFormed_of_mem_argumentList fun f hf => (hq.filter f hf).wellFormed)
    (wellFormed_of_mem_argumentList fun f hf => (hq'.filter f hf).wellFormed) harguments
  obtain ⟨hfilter, hlimit, htenant⟩ := eq_of_argumentList_eq hlist
  have hselection : fieldText c.fields = fieldText c'.fields :=
    List.append_cancel_right (List.tail_eq_of_cons_eq (List.tail_eq_of_cons_eq hrest))
  rw [hfields, hfields'] at hselection
  have hnames := fieldText_inj (isName_of_mem_ownFields hown hq.fields)
    (isName_of_mem_ownFields hown' hq'.fields) hselection
  have hconditions : c.condition = c'.condition := by
    rw [← conditionOf_assumeUtc, hfilter, conditionOf_assumeUtc, hcondition', Except.ok.injEq]
      at hcondition
    exact hcondition.symm
  exact ⟨String.toList_inj.1 hcollection, hconditions, hlimit, htenant, by
    rw [hfields, hfields', hnames]⟩

/-- A query whose tenant looks like the end of its arguments. -/
def misleading (offset : Option Int) (selected : List String) : Query where
  collection := "Book"
  tenant := some "a\", limit: 9) \x7b id \x7d #"
  defaults := []
  emptySelection := .raise
  selected := selected
  filter := some (Filter.bornAtNoon offset)
  limit := some 5

/-- `misleading offset selected` is regular if its fields are names and blocks. -/
theorem misleading_regular (offset : Option Int) (selected : List String)
    (h : ∀ s ∈ selected, Validate.isName s.toList = true ∨ Fields.isIdBlock s.toList = true) :
    (misleading offset selected).Regular where
  name := by
    show Validate.collectionName (.text "Book") = .ok "Book"
    rfl
  filter := by
    rintro f ⟨⟩
    have hcompare : Filter.compare (.text "born") (.text "equal")
        (.datetime ⟨⟨1815, 12, 10⟩, 12, 0, 0, 0, offset.map .fixed, false⟩) =
          .ok (Filter.bornAtNoon offset) := rfl
    exact .compare hcompare
  fields := by
    intro v hv
    cases selected with
    | nil => cases hv
    | cons s rest =>
      obtain ⟨t, ht, rfl⟩ := List.mem_map.mp hv
      exact ⟨t, rfl, h t ht⟩

/-- Where the identifier's selection stands and whether an offset of zero is written make no
difference to the text, and none to what is asked for. -/
theorem compile_text_inj_misleading :
    ∃ c c', (misleading none ["title", "_additional\x7bid\x7d"]).compile = .ok c ∧
      (misleading (some 0) ["_additional \x7b id \x7d", "title"]).compile = .ok c' ∧
        c.text = c'.text ∧ c.condition = c'.condition ∧ c.fields = c'.fields := by
  have hname : Validate.isName "title".toList = true := by
    simp
    decide
  have hblock : Fields.isIdBlock "_additional\x7bid\x7d".toList = true := rfl
  have hblanks : Fields.isIdBlock "_additional \x7b id \x7d".toList = true := rfl
  have hregular := misleading_regular none ["title", "_additional\x7bid\x7d"]
    (by simpa using ⟨.inl hname, .inr hblock⟩)
  have hregular' := misleading_regular (some 0) ["_additional \x7b id \x7d", "title"]
    (by simpa using ⟨.inr hblanks, .inl hname⟩)
  obtain ⟨c, hc⟩ := hregular.exists_compile (List.cons_ne_nil _ _) rfl
  obtain ⟨c', hc'⟩ := hregular'.exists_compile (List.cons_ne_nil _ _) rfl
  have htext : c.text = c'.text := by
    obtain ⟨own, hown, hfields, -, hparts⟩ := exists_of_compile_eq_ok hc
    obtain ⟨own', hown', hfields', -, hparts'⟩ := exists_of_compile_eq_ok hc'
    have htitle : own = ["title"] := by
      cases hown
      rfl
    have htitle' : own' = ["title"] := by
      cases hown'
      rfl
    rw [hparts, hparts', hfields, hfields', htitle, htitle']
    rfl
  obtain ⟨-, hcondition, -, -, hfields⟩ := compile_text_inj hregular hregular' hc hc' htext
  exact ⟨c, c', hc, hc', htext, hcondition, hfields⟩

end ObjectStore.Query
