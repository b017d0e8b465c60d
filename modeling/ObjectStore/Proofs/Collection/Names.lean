import Mathlib
import ObjectStore.Proofs.Collection.CheckedFirst
import ObjectStore.Proofs.Collection.TenantIsolation

/-! # Names of collections

The name of a collection is put into the text of queries and into the paths of objects as it is,
without quotes or escapes, so that the check of the name is all that keeps other characters out of
them. It accepts the names of the query language that are not too long, and one more form, such a
name with a line feed behind it.

* `Validate.IsCollectionName`: the names that the check is there for.
* `Validate.collectionName_eq_ok_iff`: what the check accepts.
* `Query.NamedBy`, `Collection.NamedBy`, `Objects.NamedBy`: what is made for a collection that a
  value names.
* `Validate.collectionName_accepts`: what is accepted, and that nothing else is in the place of a
  name. -/

namespace ObjectStore

namespace Validate

/-! ## Characters of names -/

/-- The letters from a to z, small or capital, and the underscore. -/
def BeginsNames (c : Char) : Prop := 'a' ≤ c ∧ c ≤ 'z' ∨ 'A' ≤ c ∧ c ≤ 'Z' ∨ c = '_'

/-- The same and the digits from 0 to 9. -/
def StandsInNames (c : Char) : Prop := BeginsNames c ∨ '0' ≤ c ∧ c ≤ '9'

/-- `isNameStart c` tells the letters and the underscore. -/
theorem isNameStart_iff {c : Char} : isNameStart c = true ↔ BeginsNames c := by
  simp only [isNameStart, BeginsNames, Char.isAlpha, Char.isUpper, Char.isLower, Bool.or_eq_true,
    Bool.and_eq_true, decide_eq_true_eq, beq_iff_eq, Char.le_def, ge_iff_le]
  tauto

/-- `isNameChar c` tells the letters, the digits and the underscore. -/
theorem isNameChar_iff {c : Char} : isNameChar c = true ↔ StandsInNames c := by
  have hstart : isNameChar c = true ↔ isNameStart c = true ∨ c.isDigit = true := by
    simp only [isNameChar, isNameStart, Char.isAlphanum, Bool.or_eq_true]
    tauto
  rw [hstart, isNameStart_iff, StandsInNames]
  simp only [Char.isDigit, Bool.and_eq_true, decide_eq_true_eq, Char.le_def, ge_iff_le]

/-- A name of a collection: at least one character and at most 256, of which the first is a letter
or an underscore, and the others are letters, digits or underscores. -/
inductive IsCollectionName : List Char → Prop
  | intro {c : Char} {cs : List Char} (hc : BeginsNames c) (hcs : ∀ d ∈ cs, StandsInNames d)
      (hlength : (c :: cs).length ≤ 256) : IsCollectionName (c :: cs)

/-- A name of a collection with a line feed behind it, which counts as one of the characters. -/
inductive IsNameAndLineFeed : List Char → Prop
  | intro {cs : List Char} (hcs : IsCollectionName cs) (hlength : cs.length < 256) :
      IsNameAndLineFeed (cs ++ ['\n'])

variable {cs : List Char}

/-- `IsCollectionName cs` in terms of the tests that are made: `isName cs`, and at most 256
characters. -/
theorem isCollectionName_iff : IsCollectionName cs ↔ isName cs = true ∧ cs.length ≤ 256 := by
  cases cs with
  | nil => exact ⟨nofun, nofun⟩
  | cons c cs =>
    have hname : isName (c :: cs) = true ↔ BeginsNames c ∧ ∀ d ∈ cs, StandsInNames d := by
      simp only [isName, Bool.and_eq_true, List.all_eq_true, isNameStart_iff, isNameChar_iff]
    rw [hname]
    constructor
    · rintro ⟨hc, hcs, hlength⟩
      exact ⟨⟨hc, hcs⟩, hlength⟩
    · rintro ⟨⟨hc, hcs⟩, hlength⟩
      exact .intro hc hcs hlength

/-- Every character of a collection's name stands in names. -/
theorem IsCollectionName.standsInNames (h : IsCollectionName cs) : ∀ c ∈ cs, StandsInNames c := by
  obtain ⟨hc, hcs, -⟩ := h
  exact List.forall_mem_cons.mpr ⟨.inl hc, hcs⟩

/-- A name of a collection does not end with a line feed. -/
theorem IsCollectionName.getLast?_ne (h : IsCollectionName cs) : cs.getLast? ≠ some '\n' := by
  intro hlast
  have hmem : '\n' ∈ cs := List.mem_of_getLast? hlast
  have hfeed : ¬ StandsInNames '\n' := by rw [← isNameChar_iff]; decide
  exact hfeed (h.standsInNames _ hmem)

/-! ## The check -/

/-- `isName (dropFinalLineFeed cs)`: a text of at most 256 characters without its final line feed is
a name if it is one itself, or one and a line feed. -/
theorem isName_dropFinalLineFeed_iff :
    isName (dropFinalLineFeed cs) = true ∧ cs.length ≤ 256 ↔
      IsCollectionName cs ∨ IsNameAndLineFeed cs := by
  -- No name ends with a line feed, so the last character tells which of the two forms it can be.
  by_cases hlast : cs.getLast? = some '\n'
  · obtain ⟨ds, rfl⟩ : ∃ ds, cs = ds ++ ['\n'] := ⟨_, (List.dropLast_append_getLast? _ hlast).symm⟩
    have hdrop : dropFinalLineFeed (ds ++ ['\n']) = ds := by
      rw [dropFinalLineFeed, if_pos hlast, List.dropLast_concat]
    rw [hdrop, List.length_append, List.length_singleton]
    constructor
    · rintro ⟨hname, hlength⟩
      exact .inr (.intro (isCollectionName_iff.mpr ⟨hname, by omega⟩) hlength)
    · rintro (hname | hname)
      · exact absurd hlast hname.getLast?_ne
      · generalize htext : ds ++ ['\n'] = text at hname
        obtain ⟨hds, hlength⟩ := hname
        obtain rfl := List.append_cancel_right htext
        exact ⟨(isCollectionName_iff.mp hds).1, hlength⟩
  · rw [dropFinalLineFeed, if_neg hlast, ← isCollectionName_iff]
    refine ⟨.inl, ?_⟩
    rintro (hname | ⟨-, -⟩)
    · exact hname
    · exact absurd List.getLast?_concat hlast

/-- `collectionName v = .ok name`: the check accepts a text that is a name of a collection, or one
and a line feed, and returns it as it is. -/
theorem collectionName_eq_ok_iff {v : Value} {name : String} :
    collectionName v = .ok name ↔
      v = .text name ∧ (IsCollectionName name.toList ∨ IsNameAndLineFeed name.toList) := by
  rw [← isName_dropFinalLineFeed_iff, String.length_toList]
  constructor
  · intro h
    obtain ⟨rfl, hname⟩ := collectionName_eq_ok h
    refine ⟨rfl, hname, ?_⟩
    rw [collectionName] at h
    split_ifs at h with _ hlong
    exact Nat.le_of_not_lt hlong
  · rintro ⟨rfl, hname, hlength⟩
    have hempty : name.isEmpty = false := by
      rw [← Bool.not_eq_true, String.isEmpty_iff]
      rintro rfl
      cases hname
    have hlong : ¬ maxNameLength < name.length := Nat.not_lt.mpr hlength
    rw [collectionName, hempty, if_neg Bool.false_ne_true, if_neg hlong, if_pos hname]

end Validate

/-! ## What is made for a collection -/

/-- The handles made for the collection that `v` names. -/
inductive Collection.NamedBy (v : Value) : Collection → Prop
  | make {tenant defaults : Value} {policy : EmptySelection} {c : Collection}
    (h : Collection.make v tenant defaults policy = .ok c) : NamedBy v c
  | withTenant {c c' : Collection} {tenant : Value} (hc : NamedBy v c)
    (h : c.withTenant tenant = .ok c') : NamedBy v c'
  | withDefaultFields {c : Collection} (hc : NamedBy v c) (fields : Value) :
    NamedBy v (c.withDefaultFields fields)

/-- The queries on the collection that `v` names, made from values or by a handle, and set in any
way. -/
inductive Query.NamedBy (v : Value) : Query → Prop
  | make {tenant defaults policy : Value} {q : Query}
    (h : Query.make v tenant defaults policy = .ok q) : NamedBy v q
  | query {c : Collection} {q : Query} (hc : c.NamedBy v) (h : c.query = .ok q) : NamedBy v q
  | queryBy {c : Collection} {criteria limit properties : Value} {q : Query} (hc : c.NamedBy v)
    (h : c.queryBy criteria limit properties = .ok q) : NamedBy v q
  | set {q q' : Query} {s : Query.Setting} (hq : NamedBy v q) (h : q.set s = .ok q') : NamedBy v q'

/-- The objects of the collection that `v` names. -/
inductive Objects.NamedBy (v : Value) : Objects → Prop
  | make {tenant : Value} {o : Objects} (h : Objects.make v tenant = .ok o) : NamedBy v o
  | objects {c : Collection} (hc : c.NamedBy v) : NamedBy v c.objects

variable {v : Value}

/-- `Validate.collectionName v = .ok c.name`: the name of a handle is the one that it was made from,
which has been accepted. -/
theorem Collection.NamedBy.collectionName {c : Collection} (h : c.NamedBy v) :
    Validate.collectionName v = .ok c.name := by
  induction h with
  | make h =>
    obtain ⟨name, hname, h⟩ := bind_eq_ok h
    obtain ⟨tenant, -, h⟩ := bind_eq_ok h
    cases h
    exact mapError_eq_ok hname
  | withTenant hc h ih =>
    obtain ⟨t, -, rfl⟩ := map_eq_ok h
    exact ih
  | withDefaultFields hc fields ih => exact ih

/-- `Validate.collectionName v = .ok q.collection`: the name of a query's collection is the one that
the query was made from. -/
theorem Query.NamedBy.collectionName {q : Query} (h : q.NamedBy v) :
    Validate.collectionName v = .ok q.collection := by
  induction h with
  | make h =>
    obtain ⟨name, hname, h⟩ := bind_eq_ok h
    obtain ⟨tenant, -, h⟩ := bind_eq_ok h
    obtain ⟨defaults, -, h⟩ := bind_eq_ok h
    obtain ⟨policy, -, h⟩ := bind_eq_ok h
    cases h
    exact mapError_eq_ok hname
  | query hc h =>
    rw [(Collection.construction_of_query h).1]
    exact hc.collectionName
  | queryBy hc h =>
    rw [(Collection.construction_of_queryBy h).1]
    exact hc.collectionName
  | set hq h ih =>
    have hsame := Query.construction_of_set_eq_ok h
    simp only [Query.construction, Prod.mk.injEq] at hsame
    rw [hsame.1]
    exact ih

/-- `Validate.collectionName v = .ok o.collection`: the name of some objects' collection is the one
that they were made from. -/
theorem Objects.NamedBy.collectionName {o : Objects} (h : o.NamedBy v) :
    Validate.collectionName v = .ok o.collection := by
  cases h with
  | make h =>
    obtain ⟨name, hname, h⟩ := bind_eq_ok h
    obtain ⟨tenant, -, h⟩ := bind_eq_ok h
    cases h
    exact mapError_eq_ok hname
  | objects hc => exact hc.collectionName

/-! ## Where names are put -/

/-- In the text of a compiled query `q.collection` stands bare behind the opening, and a bracket or
a blank comes after it. -/
theorem Query.exists_text_of_compile {q : Query} {compiled : CompiledQuery}
    (h : q.compile = .ok compiled) :
    ∃ rest, compiled.text.toList = "\x7b Get \x7b ".toList ++ (q.collection.toList ++ rest) ∧
      (rest.head? = some '(' ∨ rest.head? = some ' ') := by
  obtain ⟨own, -, -, -, htext⟩ := exists_of_compile_eq_ok h
  -- Arguments come in brackets, and without arguments the fields follow.
  refine ⟨bracketed (q.arguments (q.filter.map Filter.whereChars)) ++
    (" \x7b ".toList ++ (fieldText compiled.fields ++ " \x7d \x7d \x7d".toList)), ?_, ?_⟩
  · rw [htext, String.toList_ofList]
    unfold textOf
    simp only [List.append_assoc]
  · generalize q.arguments (q.filter.map Filter.whereChars) = arguments
    cases arguments with
    | nil => simp [bracketed]
    | cons a as => simp [bracketed]

/-- In `o.objectPath id` the name stands bare between two slashes, and the encoded identifier after
it. -/
theorem Objects.exists_of_objectPath {o : Objects} {id : Value} {path : List Char}
    (h : o.objectPath id = .ok path) :
    ∃ s, id = .text s ∧
      path = "/v1/objects/".toList ++ (o.collection.toList ++
        '/' :: Text.Percent.encode s.toList) := by
  obtain ⟨s, hs, rfl⟩ := map_eq_ok h
  obtain rfl := idOf_eq_ok hs
  refine ⟨s, rfl, ?_⟩
  have hroot : "/v1/objects/".toList = root.toList ++ ['/'] := by decide
  rw [hroot, pathOf]
  simp only [List.append_assoc, List.cons_append, List.nil_append]

/-- The check `collectionName` accepts a text that is a name of a collection, or one and a line
feed, and refuses every other value as invalid. Whatever is made for a collection has the text that
was accepted, and puts it into the texts of queries and the paths of objects as it is. -/
theorem Validate.collectionName_accepts (v : Value) :
    (∀ name, collectionName v = .ok name ↔
      v = .text name ∧ (IsCollectionName name.toList ∨ IsNameAndLineFeed name.toList)) ∧
    ((∀ name, v = .text name → ¬ IsCollectionName name.toList ∧ ¬ IsNameAndLineFeed name.toList) →
      ∃ e, collectionName v = .error e ∧ (Failure.invalid e).className = "ValidationError") ∧
    (∀ c : Collection, c.NamedBy v → collectionName v = .ok c.name) ∧
    (∀ q : Query, q.NamedBy v → collectionName v = .ok q.collection ∧
      ∀ compiled, q.compile = .ok compiled →
        ∃ rest, compiled.text.toList = "\x7b Get \x7b ".toList ++ (q.collection.toList ++ rest) ∧
          (rest.head? = some '(' ∨ rest.head? = some ' ')) ∧
    (∀ o : Objects, o.NamedBy v → collectionName v = .ok o.collection ∧
      ∀ id path, o.objectPath id = .ok path →
        ∃ s, id = .text s ∧ path = "/v1/objects/".toList ++ (o.collection.toList ++
          '/' :: Text.Percent.encode s.toList)) := by
  refine ⟨fun name => collectionName_eq_ok_iff, fun hother => ?_, fun c hc => hc.collectionName,
    fun q hq => ⟨hq.collectionName, fun compiled => Query.exists_text_of_compile⟩,
    fun o ho => ⟨ho.collectionName, fun id path => Objects.exists_of_objectPath⟩⟩
  cases hv : collectionName v with
  | error e => exact ⟨e, rfl, Failure.className_invalid e⟩
  | ok name =>
    obtain ⟨rfl, hname⟩ := collectionName_eq_ok_iff.mp hv
    exact absurd hname (not_or.mpr (hother name rfl))

/-- The name `"Article\n"`, with a line feed behind it, is accepted, and is put into the text of a
query with its line feed. -/
theorem Validate.collectionName_lineFeed :
    collectionName (.text "Article\n") = .ok "Article\n" ∧
      ¬ IsCollectionName "Article\n".toList ∧
      ∃ q compiled, Query.make (.text "Article\n") .null .null (.text "id_only") = .ok q ∧
        q.compile = .ok compiled ∧
        compiled.text = "\x7b Get \x7b Article\n \x7b _additional \x7b id \x7d \x7d \x7d \x7d" := by
  exact ⟨rfl, fun h => h.getLast?_ne (by decide), _, _, rfl, rfl, by decide⟩

end ObjectStore
