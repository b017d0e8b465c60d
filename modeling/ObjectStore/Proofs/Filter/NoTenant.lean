import Mathlib
import ObjectStore.Proofs.Filter.Words

/-! # Filters name no tenant

The text of a filter gives nothing to the name of the tenant's argument. Its keys and bare words are
others, numbers have other letters, and whatever its texts and property names say is said inside
strings.

* `Filter.silent_whereChars`: no filter, well-formed or not, gives the name a value. -/

namespace ObjectStore

/-- The name of the argument that carries the tenant. -/
def tenantName : List Char := "tenant".toList

open GraphQL (Found Phrase Silent Says isWordChar)

/-! ## Arguments -/

/-- The names of the other arguments. -/
def otherArguments : List String := ["where", "limit"]

/-- Another argument says what its value says. -/
theorem says_otherArgument {key : String} (hkey : key ∈ otherArguments) {cs : List Char}
    {found : Found} (h : Says tenantName cs found) :
    Says tenantName (key.toList ++ ':' :: ' ' :: cs) found := by
  have hword : key.toList ≠ [] ∧ (∀ c ∈ key.toList, isWordChar c = true) ∧
      key.toList ≠ tenantName := by
    simp only [otherArguments, List.mem_cons, List.not_mem_nil, or_false] at hkey
    rcases hkey with rfl | rfl <;> simp [tenantName, isWordChar]
  exact h.entry hword.1 hword.2.1 hword.2.2

/-! ## Filters -/

/-- No key and no operator of filters is `tenantName`. -/
theorem ne_tenantName_of_mem_filterWords : ∀ w ∈ filterWords, w.toList ≠ tenantName := by
  simp [filterWords, Operator.all, Operator.wireName, Connective.all, Connective.wireName,
    tenantName]

/-- `cs ≠ tenantName` for a number, in which the first letter of the name does not stand. -/
theorem ne_tenantName_of_isNumeralChar {cs : List Char}
    (h : ∀ c ∈ cs, Text.isNumeralChar c = true) : cs ≠ tenantName := by
  rintro rfl
  exact absurd (h 't' (by simp [tenantName])) (by decide)

/-- `Silent tenantName cs` for the characters `cs` of a number. -/
theorem silent_numeral {cs : List Char} (h : ∀ c ∈ cs, Text.isNumeralChar c = true) :
    Silent tenantName cs :=
  (Phrase.numeral h (ne_tenantName_of_isNumeralChar h)).silent

/-- No literal, finite or not, is written with the word `tenantName`. -/
theorem Literal.phrase_ne_tenantName (v : Literal) : Phrase (· ≠ tenantName) v.whereChars := by
  by_cases hv : v.IsFinite
  · exact phrase_whereChars hv (by simp [tenantName]) fun _ => ne_tenantName_of_isNumeralChar
  · -- What is not finite is written by one of three names.
    cases v with
    | double x =>
      cases x with
      | nan =>
        exact .word (by simp [whereChars, GraphQL.doubleText, isWordChar])
          (by simp [whereChars, GraphQL.doubleText, tenantName])
      | infinite s =>
        refine .word ?_ ?_ <;>
          cases s <;> simp [whereChars, GraphQL.doubleText, isWordChar, tenantName]
      | finite s units => exact absurd rfl hv
    | _ => exact absurd trivial hv

/-- `Silent tenantName f.whereChars`: the characters of a filter give nothing to the name of the
tenant's argument. -/
theorem Filter.silent_whereChars (f : Filter) : Silent tenantName f.whereChars :=
  (f.phrase_whereChars ne_tenantName_of_mem_filterWords fun l _ => l.phrase_ne_tenantName).silent

end ObjectStore
