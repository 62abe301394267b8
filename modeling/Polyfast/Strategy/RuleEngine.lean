import Polyfast.Strategy.Settings

/-!
# The rule engine

Six rules over one evaluation context, run in order without early exit; `mergeDecision` lets a
failed rule outweigh a waiting one and a waiting one outweigh a passed one.
-/

namespace Polyfast

inductive RuleState
  | pass
  | fail
  | waiting
  | disabled
  deriving DecidableEq

inductive OverallDecision
  | entry
  | noEntry
  | waiting
  | noRules
  deriving DecidableEq

/-- What the rules read. -/
structure EvaluationContext where
  conditionId : ConditionId := ""
  asset : Asset := ""
  upPrice : ℚ := 0
  downPrice : ℚ := 0
  upBid : ℚ := 0
  upAsk : ℚ := 0
  downBid : ℚ := 0
  downAsk : ℚ := 0
  bestBid : ℚ := 0
  bestAsk : ℚ := 0
  outcomeFresh : Bool := false
  sideMode : SideMode := .dominantOnly
  coinUsdPrice : ℚ := 0
  coinUsdFresh : Bool := false
  ptbValue : ℚ := 0
  ptbAcquired : Bool := false
  secondsRemaining : ℚ := 0
  eventFillCount : ℕ := 0
  openPositionCount : ℕ := 0
  timeMinSeconds : ℤ := 30
  timeMaxSeconds : ℤ := 270
  priceMin : ℤ := 51
  priceMax : ℤ := 85
  deltaThreshold : ℚ := 50
  spreadMaxPct : ℚ := 3
  eventMaxPositions : ℤ := 1
  botMaxPositions : ℤ := 3
  timeEnabled : Bool := true
  priceEnabled : Bool := true
  deltaEnabled : Bool := true
  spreadEnabled : Bool := true
  eventMaxEnabled : Bool := true
  botMaxEnabled : Bool := true

namespace EvaluationContext

variable (c : EvaluationContext)

/-- The side the side mode selects; the dominant side is the one with the higher bid. -/
def evaluatedSide : OrderSide :=
  match c.sideMode with
  | .upOnly => .up
  | .downOnly => .down
  | .dominantOnly => if c.upBid ≥ c.downBid then .up else .down

def entryRefPrice : ℚ :=
  match c.sideMode with
  | .upOnly => c.upAsk
  | .downOnly => c.downAsk
  | .dominantOnly => if c.upBid ≥ c.downBid then c.upAsk else c.downAsk

def exitRefPrice : ℚ :=
  match c.sideMode with
  | .upOnly => c.upBid
  | .downOnly => c.downBid
  | .dominantOnly => if c.upBid ≥ c.downBid then c.upBid else c.downBid

def evaluatedPrice100 : ℚ := c.entryRefPrice * 100

def spreadPct : ℚ :=
  if c.entryRefPrice > 0 then (c.entryRefPrice - c.exitRefPrice) / c.entryRefPrice * 100 else 0

def delta : ℚ := if c.coinUsdPrice > 0 ∧ c.ptbValue > 0 then |c.coinUsdPrice - c.ptbValue| else 0

/-- The entry price is the ask of the evaluated side. -/
theorem entryRefPrice_eq :
    c.entryRefPrice = match c.evaluatedSide with | .up => c.upAsk | .down => c.downAsk := by
  unfold entryRefPrice evaluatedSide
  cases c.sideMode with
  | upOnly => rfl
  | downOnly => rfl
  | dominantOnly =>
    dsimp only
    split_ifs <;> rfl

/-- The exit price is the bid of the evaluated side. -/
theorem exitRefPrice_eq :
    c.exitRefPrice = match c.evaluatedSide with | .up => c.upBid | .down => c.downBid := by
  unfold exitRefPrice evaluatedSide
  cases c.sideMode with
  | upOnly => rfl
  | downOnly => rfl
  | dominantOnly =>
    dsimp only
    split_ifs <;> rfl

/-- A positive delta is the distance of two prices that are there. -/
theorem delta_of_pos (h : 0 < c.delta) :
    0 < c.coinUsdPrice ∧ 0 < c.ptbValue ∧ c.delta = |c.coinUsdPrice - c.ptbValue| := by
  unfold delta at h ⊢
  split_ifs at h ⊢ with hpos
  · exact ⟨hpos.1, hpos.2, rfl⟩
  · exact absurd h (lt_irrefl 0)

end EvaluationContext

/-- The detail dictionary of a rule result. -/
inductive RuleDetail
  | reason (reason : String)
  | time (secondsRemaining : ℚ) (minSeconds maxSeconds : ℤ) (reason : Option String)
  | price (sideMode : SideMode) (evaluatedSide : OrderSide) (evaluatedPrice100 upPrice downPrice : ℚ)
      (minPrice maxPrice : ℤ)
  | delta (coinUsdPrice ptbValue deltaUsd thresholdUsd : ℚ)
  | spread (bestBid bestAsk spreadPct maxSpreadPct : ℚ)
  | eventMax (eventFillCount : ℕ) (maxPositions : ℤ) (reason : Option String)
  | botMax (openPositionCount : ℕ) (maxPositions : ℤ) (reason : Option String)

structure RuleResult where
  ruleName : String
  state : RuleState
  detail : RuleDetail

/-- A rule: its name, whether the context enables it, and its verdict when it is enabled. -/
structure Rule where
  name : String
  isEnabled : EvaluationContext → Bool
  verdict : EvaluationContext → RuleState × RuleDetail

/-- A disabled rule is not evaluated. -/
def Rule.evaluate (r : Rule) (c : EvaluationContext) : RuleResult :=
  if r.isEnabled c then ⟨r.name, (r.verdict c).1, (r.verdict c).2⟩
  else ⟨r.name, .disabled, .reason "rule disabled by user"⟩

def timeRule : Rule where
  name := "time"
  isEnabled := EvaluationContext.timeEnabled
  verdict c :=
    let detail := RuleDetail.time (Lib.roundTo 1 c.secondsRemaining) c.timeMinSeconds c.timeMaxSeconds
    if c.secondsRemaining ≤ 0 then (.fail, detail (some "event_expired"))
    else if c.timeMinSeconds ≤ c.secondsRemaining ∧ c.secondsRemaining ≤ c.timeMaxSeconds then
      (.pass, detail none)
    else (.fail, detail none)

def priceRule : Rule where
  name := "price"
  isEnabled := EvaluationContext.priceEnabled
  verdict c :=
    if !c.outcomeFresh then (.waiting, .reason "outcome_data_not_fresh")
    else
      let detail := RuleDetail.price c.sideMode c.evaluatedSide (Lib.roundTo 2 c.evaluatedPrice100)
        (Lib.roundTo 4 c.upPrice) (Lib.roundTo 4 c.downPrice) c.priceMin c.priceMax
      if c.priceMin ≤ c.evaluatedPrice100 ∧ c.evaluatedPrice100 ≤ c.priceMax then (.pass, detail)
      else (.fail, detail)

def deltaRule : Rule where
  name := "delta"
  isEnabled := EvaluationContext.deltaEnabled
  verdict c :=
    if !c.ptbAcquired then (.waiting, .reason "ptb_not_acquired")
    else if !c.coinUsdFresh then (.waiting, .reason "coin_usd_not_fresh")
    else
      let detail := RuleDetail.delta (Lib.roundTo 4 c.coinUsdPrice) (Lib.roundTo 4 c.ptbValue)
        (Lib.roundTo 4 c.delta) c.deltaThreshold
      if c.delta ≥ c.deltaThreshold then (.pass, detail) else (.fail, detail)

def spreadRule : Rule where
  name := "spread"
  isEnabled := EvaluationContext.spreadEnabled
  verdict c :=
    if !c.outcomeFresh then (.waiting, .reason "outcome_data_not_fresh")
    else if c.bestAsk ≤ 0 then (.waiting, .reason "best_ask_zero")
    else
      let detail := RuleDetail.spread (Lib.roundTo 4 c.bestBid) (Lib.roundTo 4 c.bestAsk)
        (Lib.roundTo 4 c.spreadPct) c.spreadMaxPct
      if c.spreadPct ≤ c.spreadMaxPct then (.pass, detail) else (.fail, detail)

def eventMaxRule : Rule where
  name := "event_max"
  isEnabled := EvaluationContext.eventMaxEnabled
  verdict c :=
    let detail := RuleDetail.eventMax c.eventFillCount c.eventMaxPositions
    if (c.eventFillCount : ℤ) < c.eventMaxPositions then (.pass, detail none)
    else (.fail, detail (some "event_limit_reached"))

def botMaxRule : Rule where
  name := "bot_max"
  isEnabled := EvaluationContext.botMaxEnabled
  verdict c :=
    let detail := RuleDetail.botMax c.openPositionCount c.botMaxPositions
    if (c.openPositionCount : ℤ) < c.botMaxPositions then (.pass, detail none)
    else (.fail, detail (some "bot_limit_reached"))

/-- The rules in the order they are run. -/
def defaultRules : List Rule :=
  [timeRule, priceRule, deltaRule, spreadRule, eventMaxRule, botMaxRule]

/-- What `RuleEngine.evaluate` answers; `dominant_side` of its detail is the evaluated side. -/
structure EvaluationResult where
  decision : OverallDecision
  ruleResults : List RuleResult
  asset : Asset
  conditionId : ConditionId
  dominantSide : OrderSide

/-- A failed rule outweighs a waiting one, a waiting one a passed one. -/
def mergeDecision (results : List RuleResult) : OverallDecision :=
  if results.any (fun r => r.state = .fail) then .noEntry
  else if results.any (fun r => r.state = .waiting) then .waiting
  else if results.any (fun r => r.state = .pass) then .entry
  else .noRules

/-- `RuleEngine.evaluate`: no rule of the default list raises. -/
def ruleEngineEvaluate (c : EvaluationContext) : EvaluationResult :=
  let results := defaultRules.map (fun r => r.evaluate c)
  { decision := mergeDecision results, ruleResults := results, asset := c.asset
    conditionId := c.conditionId, dominantSide := c.evaluatedSide }

/-! ### What an entry has passed -/

theorem mergeDecision_entry_iff {results : List RuleResult} : mergeDecision results = .entry ↔
    (∀ r ∈ results, r.state = .pass ∨ r.state = .disabled) ∧ ∃ r ∈ results, r.state = .pass := by
  unfold mergeDecision
  simp only [List.any_eq_true, decide_eq_true_eq]
  constructor
  · intro h
    split_ifs at h with hfail hwaiting hpass
    refine ⟨fun r hr => ?_, hpass⟩
    cases hs : r.state with
    | pass => exact .inl rfl
    | disabled => exact .inr rfl
    | fail => exact absurd ⟨r, hr, hs⟩ hfail
    | waiting => exact absurd ⟨r, hr, hs⟩ hwaiting
  · rintro ⟨hall, hpass⟩
    have hno : ∀ st, st ≠ .pass → st ≠ .disabled → ¬∃ r ∈ results, r.state = st := by
      rintro st hp hd ⟨r, hr, hs⟩
      rcases hall r hr with h | h
      · exact hp (hs.symm.trans h)
      · exact hd (hs.symm.trans h)
    rw [if_neg (hno .fail (by simp) (by simp)), if_neg (hno .waiting (by simp) (by simp)), if_pos hpass]

section Verdicts

variable (c : EvaluationContext)

theorem timeRule_pass_iff : (timeRule.verdict c).1 = .pass ↔ 0 < c.secondsRemaining ∧
    c.timeMinSeconds ≤ c.secondsRemaining ∧ c.secondsRemaining ≤ c.timeMaxSeconds := by
  simp only [timeRule]
  split_ifs with hexpired hin
  · simp [hexpired]
  · simpa [not_le.mp hexpired] using hin
  · simpa [not_le.mp hexpired] using hin

theorem priceRule_pass_iff : (priceRule.verdict c).1 = .pass ↔ c.outcomeFresh = true ∧
    c.priceMin ≤ c.evaluatedPrice100 ∧ c.evaluatedPrice100 ≤ c.priceMax := by
  simp only [priceRule]
  split_ifs with hfresh hin
  · simp_all
  · simpa using ⟨by simpa using hfresh, hin⟩
  · simpa using fun _ => hin

theorem deltaRule_pass_iff : (deltaRule.verdict c).1 = .pass ↔ c.ptbAcquired = true ∧
    c.coinUsdFresh = true ∧ c.deltaThreshold ≤ c.delta := by
  simp only [deltaRule]
  split_ifs with hptb hcoin hdelta
  · simp_all
  · simp_all
  · simp_all
  · simp_all

theorem spreadRule_pass_iff : (spreadRule.verdict c).1 = .pass ↔ c.outcomeFresh = true ∧
    0 < c.bestAsk ∧ c.spreadPct ≤ c.spreadMaxPct := by
  simp only [spreadRule]
  split_ifs with hfresh hask hspread
  · simp_all
  · simp_all
  · simp_all
  · simp_all

theorem eventMaxRule_pass_iff : (eventMaxRule.verdict c).1 = .pass ↔
    (c.eventFillCount : ℤ) < c.eventMaxPositions := by
  simp only [eventMaxRule]
  split_ifs with h <;> simp [h]

theorem botMaxRule_pass_iff : (botMaxRule.verdict c).1 = .pass ↔
    (c.openPositionCount : ℤ) < c.botMaxPositions := by
  simp only [botMaxRule]
  split_ifs with h <;> simp [h]

/-- Only the user disables a rule, not its verdict. -/
theorem verdict_ne_disabled {r : Rule} (hr : r ∈ defaultRules) : (r.verdict c).1 ≠ .disabled := by
  simp only [defaultRules, List.mem_cons, List.not_mem_nil, or_false] at hr
  rcases hr with rfl | rfl | rfl | rfl | rfl | rfl
  · simp only [timeRule]
    split_ifs <;> simp
  · simp only [priceRule]
    split_ifs <;> simp
  · simp only [deltaRule]
    split_ifs <;> simp
  · simp only [spreadRule]
    split_ifs <;> simp
  · simp only [eventMaxRule]
    split_ifs <;> simp
  · simp only [botMaxRule]
    split_ifs <;> simp

/-- **Entry.** The engine decides for an entry iff some rule is enabled and every enabled rule passes. -/
theorem ruleEngineEvaluate_entry_iff : (ruleEngineEvaluate c).decision = .entry ↔
    (∀ r ∈ defaultRules, r.isEnabled c = true → (r.verdict c).1 = .pass) ∧
      ∃ r ∈ defaultRules, r.isEnabled c = true := by
  have hstate : ∀ r : Rule, r.isEnabled c = true → (r.evaluate c).state = (r.verdict c).1 := by
    intro r h
    simp [Rule.evaluate, h]
  have hoff : ∀ r : Rule, ¬r.isEnabled c = true → (r.evaluate c).state = .disabled := by
    intro r h
    simp [Rule.evaluate, h]
  unfold ruleEngineEvaluate
  dsimp only
  rw [mergeDecision_entry_iff, List.forall_mem_map]
  simp only [List.mem_map, exists_exists_and_eq_and]
  constructor
  · rintro ⟨hall, r, hr, hpass⟩
    refine ⟨fun u hu he => ?_, r, hr, ?_⟩
    · have hu' := hall u hu
      rw [hstate u he] at hu'
      exact hu'.resolve_right (verdict_ne_disabled c hu)
    · by_contra he
      rw [hoff r he] at hpass
      cases hpass
  · rintro ⟨hall, r, hr, he⟩
    refine ⟨fun u hu => ?_, r, hr, ?_⟩
    · by_cases hu' : u.isEnabled c = true
      · exact .inl ((hstate u hu').trans (hall u hu hu'))
      · exact .inr (hoff u hu')
    · exact (hstate r he).trans (hall r hr he)

end Verdicts

end Polyfast
