import Polyfast.Execution.Trading

/-!
# The resolution of a market

`get_market_resolution` reads the answer of `get_market`: a market is resolved when it is closed and the first token
that is marked as the winner has one of the two outcomes. Whatever is raised on the way is caught, and what has been
read until then is returned.

* `MarketAnswer`: what comes back from the exchange;
* `getMarketResolution_resolved`: a resolution names the side that won.
-/

namespace Polyfast

/-- An entry of the list of tokens; an outcome that is no text is `none`. -/
inductive TokenEntry
  | dict (winner : PyValue := .bool false) (outcome : Option String := some "")
  | notDict

/-- What `get_market` makes of a call, if there is a client for it. Tokens that cannot be gone through are `none`. -/
inductive MarketAnswer
  | noClient
  | raised
  | none
  | notDict
  | dict (closed : PyValue := .bool false) (tokens : Option (List TokenEntry) := some [])

/-- The loop over the tokens; it ends at the first winner, or where it raises. -/
def readWinner (result : MarketResolution) : List TokenEntry → MarketResolution
  | [] => result
  | .notDict :: _ => result
  | .dict winner outcome :: rest =>
    if winner.truthy then
      match outcome with
      | none => result
      | some outcome =>
        if outcome.toUpper = "UP" ∨ outcome.toUpper = "DOWN" then
          { result with resolved := true, winningSide := outcome.toUpper }
        else result
    else readWinner result rest

/-- `get_market_resolution`. -/
def getMarketResolution : MarketAnswer → MarketResolution
  | .noClient | .raised | .none | .notDict => {}
  | .dict closed tokens =>
    let result : MarketResolution := { closed := closed.truthy }
    if result.closed then
      match tokens with
      | none => result
      | some tokens => readWinner result tokens
    else result

theorem readWinner_resolved {tokens : List TokenEntry} {result : MarketResolution} (hresult : result.resolved = false)
    (h : (readWinner result tokens).resolved = true) :
    (readWinner result tokens).winningSide = "UP" ∨ (readWinner result tokens).winningSide = "DOWN" := by
  induction tokens with
  | nil =>
    rw [readWinner, hresult] at h
    cases h
  | cons token tokens ih =>
    cases token with
    | notDict =>
      rw [readWinner, hresult] at h
      cases h
    | dict winner outcome =>
      simp only [readWinner] at h ⊢
      by_cases hwinner : winner.truthy = true
      · rw [if_pos hwinner] at h ⊢
        cases outcome with
        | none =>
          rw [hresult] at h
          cases h
        | some outcome =>
          dsimp only at h ⊢
          by_cases hside : outcome.toUpper = "UP" ∨ outcome.toUpper = "DOWN"
          · rw [if_pos hside]
            exact hside
          · rw [if_neg hside, hresult] at h
            cases h
      · rw [if_neg hwinner] at h ⊢
        exact ih h

/-- **A market that is resolved** has a winning side. -/
theorem getMarketResolution_resolved {answer : MarketAnswer} (h : (getMarketResolution answer).resolved = true) :
    (getMarketResolution answer).winningSide = "UP" ∨ (getMarketResolution answer).winningSide = "DOWN" := by
  cases answer with
  | noClient => cases h
  | raised => cases h
  | none => cases h
  | notDict => cases h
  | dict closed tokens =>
    unfold getMarketResolution at h ⊢
    dsimp only at h ⊢
    by_cases hclosed : closed.truthy = true
    · rw [if_pos hclosed] at h ⊢
      cases tokens with
      | none => cases h
      | some tokens => exact readWinner_resolved rfl h
    · rw [if_neg hclosed] at h
      cases h

end Polyfast
