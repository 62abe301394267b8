import Polyfast.Py

/-!
# The balance manager

Available and total balance with the time of the last update; a balance that was not refreshed
within the threshold is stale. `fetch` takes what the fetch function answered.
-/

namespace Polyfast

/-- What the balance fetch function answers. -/
inductive FetchReply
  | raises
  | none
  | dict (available total : PyValue)
  | number (q : ℚ)
  | other

structure BalanceManager where
  available : ℚ := 0
  total : ℚ := 0
  updatedAt : Option Time := none
  staleThreshold : ℚ := 90
  fetchCount : ℕ := 0
  hasFetchFn : Bool := true

namespace BalanceManager

variable (b : BalanceManager)

def isStale (now : Time) : Bool :=
  match b.updatedAt with
  | none => true
  | some u => decide (now - u > b.staleThreshold)

/-- Take over the reply; the available amount is written before the total is read. -/
def fetch (reply : FetchReply) (now : Time) : BalanceManager × Bool :=
  if !b.hasFetchFn then (b, false)
  else match reply with
    | .raises | .none => (b, false)
    | .number q =>
      ({ b with available := q, total := q, updatedAt := some now, fetchCount := b.fetchCount + 1 },
        true)
    | .other => ({ b with updatedAt := some now, fetchCount := b.fetchCount + 1 }, true)
    | .dict available total =>
      match available.toFloat with
      | .error _ => (b, false)
      | .ok a =>
        match total.toFloat with
        | .error _ => ({ b with available := a }, false)
        | .ok c =>
          ({ b with available := a, total := c, updatedAt := some now
                    fetchCount := b.fetchCount + 1 }, true)

/-- Set the balance by hand. -/
def update (available : ℚ) (total : Option ℚ) (now : Time) : BalanceManager :=
  { b with available := available, total := total.getD available, updatedAt := some now }

/-- Take `amount` off, never below 0. -/
def deduct (amount : ℚ) (now : Time) : BalanceManager :=
  { b with available := max 0 (b.available - amount), updatedAt := some now }

def add (amount : ℚ) (now : Time) : BalanceManager :=
  { b with available := b.available + amount, updatedAt := some now }

/-- Where the balance covers the amount, the clamp of `deduct` does nothing. -/
theorem available_deduct {b : BalanceManager} {amount : ℚ} (h : amount ≤ b.available) (now : Time) :
    (b.deduct amount now).available = b.available - amount :=
  max_eq_right (sub_nonneg.mpr h)

@[simp] theorem available_add (amount : ℚ) (now : Time) :
    (b.add amount now).available = b.available + amount := rfl

end BalanceManager

end Polyfast
