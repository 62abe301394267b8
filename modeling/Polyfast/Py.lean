import Mathlib.Data.Rat.Floor

/-!
# What the code takes from its language

Floats are exact rationals and times are seconds since the epoch. `PyValue` is a value of a reply
dictionary whose type the code does not check; `PyError` an exception; `Call` the outcome of a call,
which keeps what was changed before an exception was raised.
-/

namespace Polyfast

/-- `time.time()` and the timestamps, in seconds. -/
abbrev Time := ℚ

/-- An entry of a reply dictionary. `numStr` is a string that `float` reads, `other` anything else:
a string it does not read, a list, a dictionary. -/
inductive PyValue
  | none
  | bool (b : Bool)
  | num (q : ℚ)
  | numStr (q : ℚ)
  | other (truthy : Bool)
  deriving DecidableEq

/-- Exceptions, with their text where the code chooses it. -/
inductive PyError
  | keyError (message : String)
  | invalidPositionTransition (message : String)
  | runtimeError (message : String)
  | zeroDivisionError
  | typeError
  | valueError
  | external
  deriving DecidableEq

namespace PyValue

/-- `bool(v)`. -/
def truthy : PyValue → Bool
  | none => false
  | bool b => b
  | num q => decide (q ≠ 0)
  | numStr _ => true
  | other t => t

/-- The number that arithmetic and comparisons see. -/
def number : PyValue → Except PyError ℚ
  | bool b => .ok (if b then 1 else 0)
  | num q => .ok q
  | none | numStr _ | other _ => .error .typeError

/-- `float(v)`. -/
def toFloat : PyValue → Except PyError ℚ
  | bool b => .ok (if b then 1 else 0)
  | num q | numStr q => .ok q
  | none => .error .typeError
  | other _ => .error .valueError

/-- `v > 0`. -/
def gtZero (v : PyValue) : Except PyError Bool :=
  match v.number with
  | .ok q => .ok (decide (0 < q))
  | .error e => .error e

end PyValue

/-- What a call leaves behind: the object it worked on, and what it returned or raised. -/
structure Call (σ α : Type*) where
  state : σ
  result : Except PyError α

namespace Call

variable {σ α : Type*}

/-- The call returns `a`. -/
def returns (s : σ) (a : α) : Call σ α := ⟨s, .ok a⟩

/-- The call raises `e`. -/
def raises (s : σ) (e : PyError) : Call σ α := ⟨s, .error e⟩

@[simp] theorem state_returns (s : σ) (a : α) : (returns s a).state = s := rfl

@[simp] theorem result_returns (s : σ) (a : α) : (returns s a).result = .ok a := rfl

@[simp] theorem state_raises (s : σ) (e : PyError) : (raises s e : Call σ α).state = s := rfl

/-! ### Loops -/

/-- A loop whose turns may raise, counting the turns that answer `true`. -/
def countLoop {ι : Type*} (turn : σ → ι → Call σ Bool) (s : σ) : List ι → Call σ ℕ
  | [] => .returns s 0
  | i :: is =>
    let call := turn s i
    match call.result with
    | .error e => .raises call.state e
    | .ok b =>
      let rest := countLoop turn call.state is
      match rest.result with
      | .error e => .raises rest.state e
      | .ok n => .returns rest.state (b.toNat + n)

variable {ι : Type*} {turn : σ → ι → Call σ Bool}

/-- What every turn preserves, the loop preserves, however it ends. -/
theorem countLoop_preserves {I : σ → Prop} (is : List ι)
    (hturn : ∀ s, ∀ i ∈ is, I s → I (turn s i).state) :
    ∀ s, I s → I (countLoop turn s is).state := by
  induction is with
  | nil => exact fun s h => h
  | cons i is ih =>
    intro s h
    have h₁ := hturn s i List.mem_cons_self h
    have ih' := ih fun t j hj => hturn t j (List.mem_cons_of_mem _ hj)
    unfold countLoop
    dsimp only
    split
    · exact h₁
    · have h₂ := ih' _ h₁
      split
      · exact h₂
      · exact h₂

/-- The loop rule: an invariant that knows what is still to be visited, and turns that return. -/
theorem countLoop_rule {J : List ι → σ → Prop}
    (hturn : ∀ s i is, J (i :: is) s → (∃ b, (turn s i).result = .ok b) ∧ J is (turn s i).state)
    (is : List ι) :
    ∀ s, J is s → (∃ n, (countLoop turn s is).result = .ok n) ∧ J [] (countLoop turn s is).state := by
  induction is with
  | nil => exact fun s h => ⟨⟨0, rfl⟩, h⟩
  | cons i is ih =>
    intro s h
    obtain ⟨⟨b, hb⟩, h₁⟩ := hturn s i is h
    obtain ⟨⟨n, hn⟩, h₂⟩ := ih _ h₁
    simp only [countLoop, hb, hn]
    exact ⟨⟨_, rfl⟩, h₂⟩

end Call

end Polyfast
