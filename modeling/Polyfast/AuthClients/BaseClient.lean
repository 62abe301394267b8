import Mathlib.Data.Rat.Defs
import Mathlib.Tactic.Common
import Polyfast.Lib.Retry

/-!
# The HTTP client

`_request` sends a request until it succeeds, fails for good or has been sent `retry_max` times, and backs off in
between. `Outcome` is what one `client.request` gives; the outcomes are numbered as the attempts are, from 1 on. A call
records what it did (`Action`) beside what it returned or raised.

* `retryLoop_eq`: the loop from any attempt on, in terms of `Lib.lastAttempt` and `Lib.attemptLog`;
* `request_law`: how many requests are sent, what is slept in between and what comes of it.
-/

namespace Polyfast

/-! ### Error classification -/

inductive ErrorCategory
  | network
  | auth
  | rateLimit
  | server
  | validation
  | timeout
  | unknown
  deriving DecidableEq

structure ClientError where
  message : String
  category : ErrorCategory
  statusCode : Option ℕ := none
  retryable : Bool := false
  source : String := ""
  deriving DecidableEq

/-- `classify_http_error`. -/
def classifyHttpError (statusCode : ℕ) (source : String) : ClientError :=
  if statusCode = 401 ∨ statusCode = 403 then
    { message := s!"Authentication failed (HTTP {statusCode})", category := .auth, statusCode := statusCode
      retryable := false, source := source }
  else if statusCode = 429 then
    { message := s!"Rate limited (HTTP {statusCode})", category := .rateLimit, statusCode := statusCode
      retryable := true, source := source }
  else if statusCode = 400 then
    { message := s!"Bad request (HTTP {statusCode})", category := .validation, statusCode := statusCode
      retryable := false, source := source }
  else if 500 ≤ statusCode ∧ statusCode < 600 then
    { message := s!"Server error (HTTP {statusCode})", category := .server, statusCode := statusCode
      retryable := true, source := source }
  else
    { message := s!"HTTP error (HTTP {statusCode})", category := .unknown, statusCode := statusCode
      retryable := false, source := source }

/-! ### Requests -/

/-- The arguments of `_request`; `β` are the dictionaries it passes on. -/
structure HttpCall (β : Type) where
  method : String
  path : String
  json : Option β := none
  params : Option β := none

structure Response where
  statusCode : ℕ
  content : String := ""
  deriving DecidableEq

/-- `httpx`: a status code 2xx. -/
def Response.isSuccess (r : Response) : Bool := 200 ≤ r.statusCode && r.statusCode ≤ 299

/-- What `client.request` gives: an answer, or an exception with the name of its type. -/
inductive Outcome
  | response (r : Response)
  | timeoutException
  | connectError (typeName : String)
  | exception (typeName : String)
  deriving DecidableEq

/-- What the `except` clauses of `_request` tell apart. -/
inductive Raised
  | timeoutException
  | connectError (typeName : String)
  | clientError (error : ClientError)
  | exception (typeName : String)

/-- How the `try` block ends: it returns, keeps an error for the next attempt, or raises. -/
inductive Tried
  | returned (r : Response)
  | kept (lastError : ClientError)
  | raised (e : Raised)

inductive Action (β : Type)
  | request (call : HttpCall β)
  | sleep (wait : ℚ)

/-- What a call did, and what it returned or raised. -/
structure Sent (β : Type) where
  actions : List (Action β)
  result : Except ClientError Response

def Action.isRequest {β : Type} : Action β → Bool
  | .request _ => true
  | .sleep _ => false

/-- The number of requests that were sent. -/
def Sent.requests {β : Type} (s : Sent β) : ℕ := s.actions.countP Action.isRequest

/-- `timeout` is the number of seconds as a text shows it. -/
structure BaseClient where
  timeout : String := "15.0"
  retryMax : ℕ := 3
  retryBackoffBase : ℚ := 1
  sourceName : String := "base"

namespace BaseClient

variable {β : Type} (c : BaseClient) (call : HttpCall β) (outcomes : ℕ → Outcome)

def timeoutError : ClientError where
  message := s!"Request timeout after {c.timeout}s"
  category := .timeout
  retryable := true
  source := c.sourceName

def connectionError (typeName : String) : ClientError where
  message := s!"Connection failed: {typeName}"
  category := .network
  retryable := true
  source := c.sourceName

def unexpectedError (typeName : String) : ClientError where
  message := s!"Unexpected error: {typeName}"
  category := .unknown
  retryable := false
  source := c.sourceName

/-- The `try` block. -/
def attemptRequest (attempt : ℕ) (outcome : Outcome) : Tried :=
  match outcome with
  | .response response =>
    if response.isSuccess then .returned response
    else
      let error := classifyHttpError response.statusCode c.sourceName
      if !error.retryable || attempt = c.retryMax then .raised (.clientError error) else .kept error
  | .timeoutException => .raised .timeoutException
  | .connectError typeName => .raised (.connectError typeName)
  | .exception typeName => .raised (.exception typeName)

/-- The `except` clauses: an error is raised, or kept for the next attempt. -/
def handle (attempt : ℕ) (e : Raised) : Except ClientError ClientError :=
  match e with
  | .timeoutException => if attempt = c.retryMax then .error c.timeoutError else .ok c.timeoutError
  | .connectError typeName =>
    if attempt = c.retryMax then .error (c.connectionError typeName) else .ok (c.connectionError typeName)
  | .clientError error => .error error
  | .exception typeName => .error (c.unexpectedError typeName)

/-- The wait before the attempt after `attempt`. -/
def wait (attempt : ℕ) : ℚ := c.retryBackoffBase * 2 ^ (attempt - 1)

/-- `for attempt in range(1, retry_max + 1)`, from an attempt on, and the `raise` behind it. -/
def retryLoop : ℕ → ℕ → Option ClientError → Sent β
  | 0, _, lastError =>
    { actions := []
      result := .error (lastError.getD
        { message := "Request failed after all retries", category := .unknown, source := c.sourceName }) }
  | remaining + 1, attempt, _ =>
    let again (error : ClientError) : Sent β :=
      let rest := retryLoop remaining (attempt + 1) (some error)
      { rest with actions := .request call :: .sleep (c.wait attempt) :: rest.actions }
    match c.attemptRequest attempt (outcomes attempt) with
    | .returned response => { actions := [.request call], result := .ok response }
    | .kept error => again error
    | .raised e =>
      match c.handle attempt e with
      | .error error => { actions := [.request call], result := .error error }
      | .ok error => again error

/-- `_request`. -/
def request : Sent β := c.retryLoop call outcomes c.retryMax 1 none

/-! ### What an outcome comes to -/

/-- The response, or the error that the outcome is classified as. -/
def verdict (outcome : Outcome) : Except ClientError Response :=
  match outcome with
  | .response response =>
    if response.isSuccess then .ok response else .error (classifyHttpError response.statusCode c.sourceName)
  | .timeoutException => .error c.timeoutError
  | .connectError typeName => .error (c.connectionError typeName)
  | .exception typeName => .error (c.unexpectedError typeName)

/-- A success, or an error that is not retried. -/
def isFinal (outcome : Outcome) : Bool :=
  match c.verdict outcome with
  | .ok _ => true
  | .error error => !error.retryable

variable {c call outcomes}

theorem isFinal_response (r : Response) : c.isFinal (.response r) =
    (r.isSuccess || !(classifyHttpError r.statusCode c.sourceName).retryable) := by
  unfold isFinal verdict
  dsimp only
  cases r.isSuccess <;> rfl

@[simp] theorem isFinal_timeoutException : c.isFinal .timeoutException = false := rfl

@[simp] theorem isFinal_connectError (typeName : String) : c.isFinal (.connectError typeName) = false := rfl

@[simp] theorem isFinal_exception (typeName : String) : c.isFinal (.exception typeName) = true := rfl

/-- The turn of an outcome that is final, and the last turn that is allowed. -/
theorem retryLoop_last {attempt : ℕ} (h : c.isFinal (outcomes attempt) = true ∨ attempt = c.retryMax)
    (remaining : ℕ) (lastError : Option ClientError) :
    c.retryLoop call outcomes (remaining + 1) attempt lastError =
      { actions := [.request call], result := c.verdict (outcomes attempt) } := by
  unfold retryLoop
  cases ho : outcomes attempt with
  | response response =>
    rw [ho, isFinal_response] at h
    cases hs : response.isSuccess with
    | true => simp only [attemptRequest, verdict, hs, if_true]
    | false =>
      have hraise : (!(classifyHttpError response.statusCode c.sourceName).retryable ||
          decide (attempt = c.retryMax)) = true := by
        rw [Bool.or_eq_true, decide_eq_true_iff]
        rwa [hs, Bool.false_or] at h
      simp only [attemptRequest, verdict, handle, hs, hraise, if_true, Bool.false_eq_true, if_false]
  | timeoutException =>
    rw [ho, isFinal_timeoutException] at h
    have hlast : attempt = c.retryMax := h.resolve_left Bool.false_ne_true
    simp only [attemptRequest, verdict, handle, if_pos hlast]
  | connectError typeName =>
    rw [ho, isFinal_connectError] at h
    have hlast : attempt = c.retryMax := h.resolve_left Bool.false_ne_true
    simp only [attemptRequest, verdict, handle, if_pos hlast]
  | exception typeName => rfl

/-- Any other turn waits and goes on. -/
theorem retryLoop_again (call : HttpCall β) {attempt : ℕ} (hfinal : c.isFinal (outcomes attempt) = false)
    (hlast : attempt ≠ c.retryMax) (remaining : ℕ) (lastError : Option ClientError) :
    ∃ error, c.retryLoop call outcomes (remaining + 1) attempt lastError =
      { actions := .request call :: .sleep (c.wait attempt) ::
          (c.retryLoop call outcomes remaining (attempt + 1) (some error)).actions
        result := (c.retryLoop call outcomes remaining (attempt + 1) (some error)).result } := by
  rw [retryLoop]
  cases ho : outcomes attempt with
  | response response =>
    rw [ho, isFinal_response, Bool.or_eq_false_iff] at hfinal
    refine ⟨classifyHttpError response.statusCode c.sourceName, ?_⟩
    have hkept : (!(classifyHttpError response.statusCode c.sourceName).retryable ||
        decide (attempt = c.retryMax)) = false := by
      rw [hfinal.2, Bool.false_or, decide_eq_false_iff_not]
      exact hlast
    simp only [attemptRequest, hfinal.1, hkept, Bool.false_eq_true, if_false]
  | timeoutException =>
    refine ⟨c.timeoutError, ?_⟩
    simp only [attemptRequest, handle, if_neg hlast]
  | connectError typeName =>
    refine ⟨c.connectionError typeName, ?_⟩
    simp only [attemptRequest, handle, if_neg hlast]
  | exception typeName =>
    rw [ho, isFinal_exception] at hfinal
    cases hfinal

/-- **The loop from an attempt on**: it ends at the last attempt that the outcomes and the budget allow, with what the
outcome of that attempt comes to. -/
theorem retryLoop_eq (call : HttpCall β) (outcomes : ℕ → Outcome) (budget : ℕ) :
    ∀ (attempt : ℕ) (lastError : Option ClientError), attempt + budget = c.retryMax →
      c.retryLoop call outcomes (budget + 1) attempt lastError =
        { actions := Lib.attemptLog (fun _ => .request call) (fun j => .sleep (c.wait j)) attempt
            (Lib.lastAttempt (fun j => c.isFinal (outcomes j)) budget attempt)
          result := c.verdict (outcomes (Lib.lastAttempt (fun j => c.isFinal (outcomes j)) budget attempt)) } := by
  induction budget with
  | zero =>
    intro attempt lastError hbudget
    have hlast : attempt = c.retryMax := hbudget
    rw [retryLoop_last (.inr hlast), Lib.lastAttempt, Lib.attemptLog_self]
  | succ budget ih =>
    intro attempt lastError hbudget
    cases hfinal : c.isFinal (outcomes attempt) with
    | true => rw [retryLoop_last (.inl hfinal), Lib.lastAttempt_of_final hfinal, Lib.attemptLog_self]
    | false =>
      obtain ⟨error, hagain⟩ := retryLoop_again call hfinal (by omega) (budget + 1) lastError
      have hlt : attempt < Lib.lastAttempt (fun j => c.isFinal (outcomes j)) budget (attempt + 1) :=
        Lib.le_lastAttempt budget (attempt + 1)
      rw [hagain, ih (attempt + 1) (some error) (by omega), Lib.lastAttempt_succ hfinal, Lib.attemptLog_of_lt _ _ hlt]

/-- A call sends `retry_max` requests at most. -/
theorem requests_le (call : HttpCall β) (outcomes : ℕ → Outcome) : (c.request call outcomes).requests ≤ c.retryMax := by
  unfold request
  cases h : c.retryMax with
  | zero => exact le_rfl
  | succ budget =>
    rw [retryLoop_eq call outcomes budget 1 none (by omega)]
    have hle : Lib.lastAttempt (fun j => c.isFinal (outcomes j)) budget 1 ≤ 1 + budget := Lib.lastAttempt_le _ budget 1
    refine (Lib.countP_attemptLog (fun _ => rfl) (fun _ => rfl) (Lib.le_lastAttempt budget 1)).le.trans ?_
    omega

/-- **The retry law**: with `i` the first attempt whose outcome is a success or is not retried, `min i retry_max`
requests are sent, the client sleeps `base * 2 ^ (j - 1)` between the `j`-th and the next one, and the call ends with
what the last outcome comes to. -/
theorem request_law (c : BaseClient) (call : HttpCall β) (outcomes : ℕ → Outcome) (h : 1 ≤ c.retryMax) :
    ∃ n, (∀ i, IsLeast {j | 1 ≤ j ∧ c.isFinal (outcomes j) = true} i → n = min i c.retryMax) ∧
      ((∀ j, 1 ≤ j → c.isFinal (outcomes j) = false) → n = c.retryMax) ∧
      (c.request call outcomes).requests = n ∧
      (c.request call outcomes).actions = Lib.attemptLog (fun _ => .request call)
        (fun j => .sleep (c.retryBackoffBase * 2 ^ (j - 1))) 1 n ∧
      (c.request call outcomes).result = c.verdict (outcomes n) := by
  obtain ⟨budget, hbudget⟩ := Nat.exists_eq_add_of_le h
  have heq := retryLoop_eq call outcomes budget 1 none hbudget.symm
  have hrequest : c.request call outcomes = c.retryLoop call outcomes (budget + 1) 1 none := by
    rw [request, hbudget, Nat.add_comm 1 budget]
  rw [hrequest, heq]
  refine ⟨_, fun i hi => ?_, fun hnone => ?_, ?_, rfl, rfl⟩
  · rw [hbudget]
    exact Lib.lastAttempt_eq_min budget 1 hi
  · rw [hbudget]
    exact Lib.lastAttempt_of_forall budget 1 hnone
  · exact Lib.countP_attemptLog (fun _ => rfl) (fun _ => rfl) (Lib.le_lastAttempt budget 1)

/-- A server error, a timeout, and then a success. -/
def flaky (attempt : ℕ) : Outcome :=
  if attempt = 1 then .response { statusCode := 503 }
  else if attempt = 2 then .timeoutException
  else .response { statusCode := 200, content := "ok" }

theorem request_law_flaky :
    ∃ n, (∀ i, IsLeast {j | 1 ≤ j ∧ ({} : BaseClient).isFinal (flaky j) = true} i → n = min i 3) ∧
      ((∀ j, 1 ≤ j → ({} : BaseClient).isFinal (flaky j) = false) → n = 3) ∧
      (({} : BaseClient).request (HttpCall.mk (β := Unit) "GET" "/events" none none) flaky).requests = n ∧
      (({} : BaseClient).request (HttpCall.mk (β := Unit) "GET" "/events" none none) flaky).actions =
        Lib.attemptLog (fun _ => .request (.mk "GET" "/events" none none)) (fun j => .sleep (1 * 2 ^ (j - 1))) 1 n ∧
      (({} : BaseClient).request (HttpCall.mk (β := Unit) "GET" "/events" none none) flaky).result =
        ({} : BaseClient).verdict (flaky n) :=
  request_law {} (.mk "GET" "/events" none none) flaky (by decide)

end BaseClient

end Polyfast
