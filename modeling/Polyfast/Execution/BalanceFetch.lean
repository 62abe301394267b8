import Polyfast.Execution.BalanceManager

/-!
# Balance fetches, whole or not at all

`fetch` writes the available balance before it has read the total, takes a missing entry for 0, and takes a
result of another type for a success without values.

* `FetchOutcome`: what the fetch function does, missing entries told from zeros;
* `fetch_cases`: what a fetch leaves of the balances, outcome by outcome;
* `fetch_atomic_iff`: when a fetch replaces both balances or nothing, and says so.
-/

namespace Polyfast

/-- What a call of the fetch function ends in; an entry of a dictionary may be missing. -/
inductive FetchOutcome
  | raises
  | none
  | dict (available total : Option PyValue)
  | number (q : ℚ)
  | other

namespace FetchOutcome

/-- `result.get(key, 0)`. -/
def getEntry (v : Option PyValue) : PyValue := v.getD (.num 0)

/-- The outcome as `fetch` reads it. -/
def reply : FetchOutcome → FetchReply
  | raises => .raises
  | none => .none
  | dict available total => .dict (getEntry available) (getEntry total)
  | number q => .number q
  | other => .other

/-- The available and the total balance that the outcome gives, if it gives both. -/
def values : FetchOutcome → Option (ℚ × ℚ)
  | number q => some (q, q)
  | dict (some available) (some total) =>
    match available.toFloat, total.toFloat with
    | .ok a, .ok c => some (a, c)
    | _, _ => Option.none
  | _ => Option.none

end FetchOutcome

namespace BalanceManager

/-- Both balances are those of the outcome, as of now. -/
def Replaced (b : BalanceManager) (o : FetchOutcome) (now : Time) : Prop :=
  b.hasFetchFn = true ∧ ∃ a c, o.values = some (a, c) ∧ (b.fetch o.reply now).1.available = a ∧
    (b.fetch o.reply now).1.total = c ∧ (b.fetch o.reply now).1.updatedAt = some now

/-- Neither the balances nor their time are others than before. -/
structure Unchanged (b b' : BalanceManager) : Prop where
  available : b'.available = b.available
  total : b'.total = b.total
  updatedAt : b'.updatedAt = b.updatedAt

/-- A fetch answers `True` exactly if it replaced both balances, and changes nothing if it did not. -/
def FetchAtomic (b : BalanceManager) (o : FetchOutcome) (now : Time) : Prop :=
  ((b.fetch o.reply now).2 = true ↔ Replaced b o now) ∧
    (¬Replaced b o now → Unchanged b (b.fetch o.reply now).1)

/-- The outcome is no dictionary of which one entry alone can be read, or is missing, and no value of another
type. A total that cannot be read does no harm where the available balance is the one already held. -/
def WholeOutcome (b : BalanceManager) : FetchOutcome → Prop
  | .raises | .none | .number _ => True
  | .dict available total =>
    match (FetchOutcome.getEntry available).toFloat, (FetchOutcome.getEntry total).toFloat with
    | .error _, _ => True
    | .ok a, .error _ => a = b.available
    | .ok _, .ok _ => available.isSome = true ∧ total.isSome = true
  | .other => False

variable {b : BalanceManager} {o : FetchOutcome} {now : Time}

theorem Unchanged.refl (b : BalanceManager) : Unchanged b b := ⟨rfl, rfl, rfl⟩

/-- An answer `False` without values is atomic exactly if nothing changed. -/
theorem fetchAtomic_false (hok : (b.fetch o.reply now).2 = false) (hno : ¬Replaced b o now) :
    FetchAtomic b o now ↔ Unchanged b (b.fetch o.reply now).1 := by
  unfold FetchAtomic
  rw [hok]
  exact ⟨fun h => h.2 hno, fun h => ⟨iff_of_false Bool.false_ne_true hno, fun _ => h⟩⟩

/-- An answer `True` is atomic exactly if both balances were replaced. -/
theorem fetchAtomic_true (hok : (b.fetch o.reply now).2 = true) :
    FetchAtomic b o now ↔ Replaced b o now := by
  unfold FetchAtomic
  rw [hok]
  exact ⟨fun h => h.1.mp rfl, fun h => ⟨iff_of_true rfl h, fun hno => absurd h hno⟩⟩

/-- A fetch of a dictionary: nothing, half of it, or all of it. -/
theorem fetch_dict (hfn : b.hasFetchFn = true) (available total : Option PyValue) :
    b.fetch (FetchOutcome.dict available total).reply now =
      match (FetchOutcome.getEntry available).toFloat, (FetchOutcome.getEntry total).toFloat with
      | .error _, _ => (b, false)
      | .ok a, .error _ => ({ b with available := a }, false)
      | .ok a, .ok c =>
        ({ b with available := a, total := c, updatedAt := some now, fetchCount := b.fetchCount + 1 },
          true) := by
  simp only [FetchOutcome.reply, fetch, hfn, Bool.not_true, Bool.false_eq_true, if_false]
  cases (FetchOutcome.getEntry available).toFloat with
  | error e => rfl
  | ok a => cases (FetchOutcome.getEntry total).toFloat <;> rfl

/-- The values of a dictionary are read from entries that are there. -/
theorem values_dict (available total : Option PyValue) (a c : ℚ) :
    (FetchOutcome.dict available total).values = some (a, c) ↔
      available.isSome = true ∧ total.isSome = true ∧
        (FetchOutcome.getEntry available).toFloat = .ok a ∧ (FetchOutcome.getEntry total).toFloat = .ok c := by
  cases available with
  | none => simp [FetchOutcome.values]
  | some v =>
    cases total with
    | none => simp [FetchOutcome.values]
    | some u =>
      simp only [FetchOutcome.values, FetchOutcome.getEntry, Option.getD_some]
      cases v.toFloat with
      | error e => simp
      | ok a' => cases u.toFloat <;> simp

/-- A fetch that does nothing and says so is atomic. -/
theorem fetchAtomic_same (heq : b.fetch o.reply now = (b, false)) (hno : ¬Replaced b o now) :
    FetchAtomic b o now := by
  rw [fetchAtomic_false (by rw [heq]) hno, heq]
  exact .refl b

theorem not_replaced (h : o.values = none) : ¬Replaced b o now := by
  rintro ⟨-, a, c, hvalues, -⟩
  rw [h] at hvalues
  cases hvalues

theorem dict_atomic_iff (hfn : b.hasFetchFn = true) (available total : Option PyValue) :
    FetchAtomic b (.dict available total) now ↔ WholeOutcome b (.dict available total) := by
  have heq : b.fetch (FetchOutcome.dict available total).reply now = _ := fetch_dict hfn available total
  have hvalues := values_dict available total
  simp only [WholeOutcome]
  cases ha : (FetchOutcome.getEntry available).toFloat with
  | error e =>
    rw [ha] at heq
    refine iff_of_true (fetchAtomic_same heq ?_) trivial
    rintro ⟨-, a, c, hv, -⟩
    have h := ((hvalues a c).mp hv).2.2.1
    rw [ha] at h
    cases h
  | ok a =>
    cases hc : (FetchOutcome.getEntry total).toFloat with
    | error e =>
      -- the available balance is written, the total is not
      rw [ha, hc] at heq
      have hno : ¬Replaced b (.dict available total) now := by
        rintro ⟨-, a', c', hv, -⟩
        have h := ((hvalues a' c').mp hv).2.2.2
        rw [hc] at h
        cases h
      rw [fetchAtomic_false (by rw [heq]) hno, heq]
      exact ⟨fun h => h.available, fun h => ⟨h, rfl, rfl⟩⟩
    | ok c =>
      rw [ha, hc] at heq
      rw [fetchAtomic_true (by rw [heq])]
      constructor
      · rintro ⟨-, a', c', hv, -⟩
        exact ⟨((hvalues a' c').mp hv).1, ((hvalues a' c').mp hv).2.1⟩
      · rintro ⟨hav, htot⟩
        refine ⟨hfn, a, c, (hvalues a c).mpr ⟨hav, htot, ha, hc⟩, ?_⟩
        rw [heq]
        exact ⟨rfl, rfl, rfl⟩

/-- **When a fetch is atomic.** For every outcome and every state before it: if no fetch function is set, or the
outcome is whole. -/
theorem fetch_atomic_iff (b : BalanceManager) (o : FetchOutcome) (now : Time) :
    FetchAtomic b o now ↔ (b.hasFetchFn = true → WholeOutcome b o) := by
  by_cases hfn : b.hasFetchFn = true
  · rw [forall_prop_of_true hfn]
    cases o with
    | raises =>
      have heq : b.fetch FetchOutcome.raises.reply now = (b, false) := by simp [FetchOutcome.reply, fetch]
      exact iff_of_true (fetchAtomic_same heq (not_replaced rfl)) trivial
    | none =>
      have heq : b.fetch FetchOutcome.none.reply now = (b, false) := by simp [FetchOutcome.reply, fetch]
      exact iff_of_true (fetchAtomic_same heq (not_replaced rfl)) trivial
    | number q =>
      have heq : b.fetch (FetchOutcome.number q).reply now = ({ b with
          available := q, total := q, updatedAt := some now, fetchCount := b.fetchCount + 1 }, true) := by
        simp [FetchOutcome.reply, fetch, hfn]
      refine iff_of_true ((fetchAtomic_true (by rw [heq])).mpr ⟨hfn, q, q, rfl, ?_⟩) trivial
      rw [heq]
      exact ⟨rfl, rfl, rfl⟩
    | other =>
      have hok : (b.fetch FetchOutcome.other.reply now).2 = true := by simp [FetchOutcome.reply, fetch, hfn]
      rw [fetchAtomic_true hok]
      exact iff_of_false (not_replaced rfl) id
    | dict available total => exact dict_atomic_iff hfn available total
  · have heq : b.fetch o.reply now = (b, false) := by
      unfold fetch
      rw [Bool.not_eq_true] at hfn
      rw [hfn]
      rfl
    exact iff_of_true (fetchAtomic_same heq fun h => hfn h.1) fun h => absurd h hfn

/-- A dictionary with an unreadable total: the available balance is the new one, the fetch says `False`. A list:
the balances are the old ones, the fetch says `True` and the balance counts as fresh. -/
theorem fetch_by_halves :
    ((({} : BalanceManager).update 5 none 0).fetch
        (FetchOutcome.dict (some (.num 80)) (some (.other true))).reply 100).1.available = 80 ∧
      ((({} : BalanceManager).update 5 none 0).fetch
        (FetchOutcome.dict (some (.num 80)) (some (.other true))).reply 100).2 = false ∧
      (({} : BalanceManager).update 5 none 0).isStale 100 = true ∧
      ((({} : BalanceManager).update 5 none 0).fetch FetchOutcome.other.reply 100).2 = true ∧
      ((({} : BalanceManager).update 5 none 0).fetch FetchOutcome.other.reply 100).1.available = 5 ∧
      ((({} : BalanceManager).update 5 none 0).fetch FetchOutcome.other.reply 100).1.isStale 100 = false := by
  refine ⟨rfl, rfl, ?_, rfl, rfl, ?_⟩
  all_goals decide +kernel

end BalanceManager

end Polyfast
