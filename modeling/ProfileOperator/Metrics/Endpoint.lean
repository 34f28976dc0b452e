import ProfileOperator.Metrics.Exposition

/-!
# The metrics endpoint

The endpoint answers by the path alone: the metrics themselves, a sign of life, and readiness, which
follows the measure of health.  It serves once it has been granted the address to listen on.
-/

namespace ProfileOperator

namespace Metrics

/-- What a program gets that asks to listen on an address. -/
inductive Binding where
  | granted
  | refused
deriving DecidableEq, Repr

/-- Start to serve: from then on the operator counts as healthy.  Without an address nothing starts. -/
def listen {α : Type} [OfNat α 1] (r : Registry α) : Binding -> Option (Registry α)
  | .granted => some { r with health := 1 }
  | .refused => none

structure Response where
  status : Nat
  contentType : Option String
  body : String
deriving DecidableEq, Repr

def Response.ofText (status : Nat) (body : String) : Response where
  status := status
  contentType := none
  body := body

def readiness (health : Float) : Response :=
  if 1 ≤ health then .ofText 200 "ok" else .ofText 503 "not ready"

/-- The path of a request target, which ends where its query begins. -/
def pathOf (target : String) : String :=
  String.ofList (target.toList.takeWhile (· ≠ '?'))

def respond (r : Registry Float) (path : String) : Response :=
  if path = "/metrics" then
    { status := 200, contentType := some "text/plain; version=0.0.4", body := exposition r }
  else if path = "/healthz" ∨ path = "/health" then .ofText 200 "ok"
  else if path = "/readyz" ∨ path = "/ready" then readiness r.health
  else .ofText 404 "Not Found"

end Metrics

end ProfileOperator
