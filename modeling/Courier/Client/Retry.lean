import Courier.Failure

/-!
# Retrying

How long is waited before another attempt, and what is said about it.
-/

namespace Courier.Retry

/-- No wait is longer, in seconds. -/
def longestWait : Float := 10.0

/-- The wait after an attempt, counted from one: it doubles each time up to the longest. From the
1025th attempt on the factor is beyond all numbers. -/
def wait (backoff : Float) (attempt : Nat) : Float :=
  if 1025 ≤ attempt then longestWait
  else
    let doubled := backoff * Float.ofNat (1 <<< (attempt - 1))
    let limited := if longestWait < doubled then longestWait else doubled
    if 0.0 < limited then limited else 0.0

/-- How a failure is shown in the journal. -/
def shown : Failure → String
  | .network fault text => fault.name ++ "(" ++ Text.quoted text ++ ")"
  | failure => failure.message

/-- What the journal says before another attempt. -/
def notice (failure : Failure) (attempt maxRetries : Nat) : String :=
  "Connection failed (" ++ shown failure ++ "). Retrying (attempt " ++ Text.numeral attempt ++ "/" ++
    Text.numeral maxRetries ++ ")"

end Courier.Retry
