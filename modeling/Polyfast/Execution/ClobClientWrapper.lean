import Polyfast.Execution.Trading

/-!
# The order wrapper

`send_market_fok_order` posts an order, and once more after a transient error. What the exchange does is an
input: an `Attempt` says whether the posted order was accepted and, apart from that, what came back, so that
an order may be accepted although its answer is lost.

* `Attempt.result`: one turn of the loop;
* `Sending.attempts`, `Sending.outcome`: the attempts of a call, and what its caller gets.
-/

namespace Polyfast

/-- Exception types the wrapper asks about. -/
inductive ExceptionType
  | timeoutError
  | connectionError
  | osError
  | httpxTimeoutException
  | httpxConnectError
  | httpxNetworkError
  | typeError
  | other
  deriving DecidableEq

/-- An exception, with the types it is an instance of. -/
structure SdkError where
  name : String
  message : String := ""
  types : List ExceptionType

/-- `transient_types`. -/
def transientTypes : List ExceptionType :=
  [.timeoutError, .connectionError, .osError, .httpxTimeoutException, .httpxConnectError, .httpxNetworkError]

/-- `_is_transient_error`. -/
def isTransientError (e : SdkError) : Bool := e.types.any (· ∈ transientTypes)

/-- A dictionary that answers `post_order`; an `orderID` of `None` is `none`. -/
structure PostReply where
  success : PyValue := .bool false
  status : String := ""
  orderId : Option String := some ""
  errorMsg : String := ""
  makingAmount : PyValue := .numStr 0
  takingAmount : PyValue := .numStr 0

namespace PostReply

variable (r : PostReply)

/-- `float(raw) if raw else 0.0`. -/
def floatOr0 (raw : PyValue) : Except PyError ℚ := if raw.truthy then raw.toFloat else .ok 0

/-- Making and taking amount; both are 0 when one of them is no number. -/
def amounts : ℚ × ℚ :=
  match floatOr0 r.makingAmount, floatOr0 r.takingAmount with
  | .ok making, .ok taking => (making, taking)
  | _, _ => (0, 0)

def isMatched : Bool := r.success.truthy && r.status = "matched"

end PostReply

/-- What comes back from `post_order`. -/
inductive PostAnswer
  | raised (e : SdkError)
  | dict (r : PostReply)
  | other (typeName : String)

/-- One turn of the loop, as it goes at the exchange: the order is not even created, or it is posted, with the
fee rate the SDK wrote into the arguments, and accepted or not. -/
inductive Attempt
  | notCreated (e : SdkError)
  | posted (accepted : Bool) (feeRateBps : ℤ) (answer : PostAnswer)

namespace Attempt

/-- The exchange accepted the order. -/
def accepted : Attempt → Bool
  | notCreated _ => false
  | posted a _ _ => a

/-- The `try` block. The fill is logged with the first characters of its order id, which raises when the id is
`None`. -/
def result : Attempt → Except SdkError OrderReply
  | notCreated e => .error e
  | posted _ _ (.raised e) => .error e
  | posted _ _ (.other typeName) =>
    .ok { status := "error", error := s!"unexpected response: {typeName}" }
  | posted _ feeRateBps (.dict r) =>
    if r.isMatched then
      match r.orderId with
      | some orderId =>
        .ok { status := "matched", orderId := orderId, feeRateBps := .num feeRateBps
              makingAmount := .num r.amounts.1, takingAmount := .num r.amounts.2 }
      | none =>
        .error { name := "TypeError", message := "'NoneType' object is not subscriptable"
                 types := [.typeError] }
    else
      .ok { status := "not_matched", orderId := r.orderId.getD "", feeRateBps := .num feeRateBps
            error := if r.errorMsg = "" then s!"status={r.status}" else r.errorMsg }

/-- The attempt raised a transient error. -/
def isTransient (a : Attempt) : Bool :=
  match a.result with
  | .error e => isTransientError e
  | .ok _ => false

/-- The answer of the call that ends with this attempt: an exception becomes an error. -/
def reply (a : Attempt) : OrderReply :=
  match a.result with
  | .ok r => r
  | .error e => { status := "error", error := s!"{e.name}: {e.message.take 100}" }

end Attempt

/-- What a call of `send_market_fok_order` meets: no client, an exception before its loop, or the two attempts
it may make. -/
inductive Sending
  | notInitialized
  | raised
  | posting (first : Attempt) (woken : Bool) (second : Attempt)

/-- What the caller gets: an answer, or nothing, when the call raised or was cancelled at its sleep. -/
inductive SendOutcome
  | returned (reply : Option OrderReply)
  | lost

namespace Sending

/-- The attempts of the call: a second one after a transient error and the sleep. -/
def attempts : Sending → List Attempt
  | notInitialized | raised => []
  | posting first woken second => if first.isTransient && woken then [first, second] else [first]

/-- `send_market_fok_order`. -/
def outcome : Sending → SendOutcome
  | notInitialized => .returned none
  | raised => .lost
  | posting first woken second =>
    if first.isTransient then
      if woken then .returned (some second.reply) else .lost
    else .returned (some first.reply)

end Sending

/-! ### Answers of the wrapper -/

namespace Attempt

variable {a : Attempt}

/-- The exchange answered with a fill that the wrapper can report. -/
def Confirms : Attempt → Prop
  | posted _ _ (.dict r) => r.isMatched = true ∧ r.orderId.isSome = true
  | _ => False

/-- The wrapper reports a fill exactly when the exchange answered with one. -/
theorem reply_matched : a.reply.status = "matched" ↔ a.Confirms := by
  cases a with
  | notCreated e => simp [reply, result, Confirms]
  | posted accepted fee answer =>
    cases answer with
    | raised e => simp [reply, result, Confirms]
    | other t => simp [reply, result, Confirms]
    | dict r =>
      simp only [reply, result, Confirms]
      cases hm : r.isMatched with
      | true =>
        cases hid : r.orderId with
        | none => simp
        | some id => simp
      | false => simp

/-- A confirmed attempt ends the call. -/
theorem Confirms.not_transient (h : a.Confirms) : a.isTransient = false := by
  cases a with
  | notCreated e => cases h
  | posted accepted fee answer =>
    cases answer with
    | raised e => cases h
    | other t => cases h
    | dict r =>
      obtain ⟨hm, hid⟩ := h
      obtain ⟨id, hid⟩ := Option.isSome_iff_exists.mp hid
      simp [isTransient, result, hm, hid]

/-- The numbers of the wrapper's answer are numbers. -/
theorem reply_readable (a : Attempt) :
    (∃ rate, a.reply.feeRate = .ok rate) ∧ ∃ amounts, a.reply.amounts = .ok amounts := by
  have hnum : ∀ (r : OrderReply) (fee making taking : ℚ), r.feeRateBps = .num fee →
      r.makingAmount = .num making → r.takingAmount = .num taking →
      (∃ rate, r.feeRate = .ok rate) ∧ ∃ amounts, r.amounts = .ok amounts := by
    intro r fee making taking hf hm ht
    simp only [OrderReply.feeRate, OrderReply.amounts, hf, hm, ht, PyValue.number]
    refine ⟨⟨_, rfl⟩, ?_⟩
    split_ifs <;> exact ⟨_, rfl⟩
  unfold reply
  cases a with
  | notCreated e => exact hnum _ 0 0 0 rfl rfl rfl
  | posted accepted fee answer =>
    cases answer with
    | raised e => exact hnum _ 0 0 0 rfl rfl rfl
    | other t => exact hnum _ 0 0 0 rfl rfl rfl
    | dict r =>
      simp only [result]
      by_cases hm : r.isMatched = true
      · rw [if_pos hm]
        cases r.orderId with
        | none => exact hnum _ 0 0 0 rfl rfl rfl
        | some id => exact hnum _ fee r.amounts.1 r.amounts.2 rfl rfl rfl
      · rw [if_neg hm]
        exact hnum _ fee 0 0 rfl rfl rfl

end Attempt

end Polyfast
