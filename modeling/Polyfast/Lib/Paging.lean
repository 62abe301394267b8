import Polyfast.Lib.Retry

/-!
# Lists that are read page by page

A reader asks for page after page until one is empty or short, a page cannot be read, or its budget of pages is used
up. Reading a page leaves a log of what it took.

* `readPages_eq`: the pages up to the first one that stops the reader, and nothing else, in order;
* `readPages_slices`: of a list that does not change meanwhile, it is the first `size * budget` elements, and a page is
  asked for beyond the last full one only.
-/

namespace Lib

/-- What reading has taken, and what came of it. -/
structure Reading (τ ε α : Type*) where
  log : List τ
  result : Except ε (List α)

section

variable {τ ε α : Type*} (read : ℕ → Reading τ ε α) (size : ℕ)

/-- Page `page` and those after it, `budget` pages at most, behind the `items` that were read before. -/
def readPages : ℕ → ℕ → List α → Reading τ ε α
  | 0, _, items => ⟨[], .ok items⟩
  | budget + 1, page, items =>
    let reading := read page
    match reading.result with
    | .error e => ⟨reading.log, .error e⟩
    | .ok pageItems =>
      if pageItems.isEmpty then ⟨reading.log, .ok items⟩
      else if pageItems.length < size then ⟨reading.log, .ok (items ++ pageItems)⟩
      else
        let rest := readPages budget (page + 1) (items ++ pageItems)
        ⟨reading.log ++ rest.log, rest.result⟩

/-- The page is the last one to be asked for: it is short, or cannot be read. -/
def stops (page : ℕ) : Bool :=
  match (read page).result with
  | .ok items => items.length < size
  | .error _ => true

/-- The items of a page that can be read. -/
def pageItems (page : ℕ) : List α :=
  match (read page).result with
  | .ok items => items
  | .error _ => []

variable {read size} {page : ℕ}

theorem readPages_stop (h : stops read size page = true) (budget : ℕ) (items : List α) :
    readPages read size (budget + 1) page items =
      ⟨(read page).log, (read page).result.map (fun last => items ++ last)⟩ := by
  rw [readPages]
  unfold stops at h
  cases hr : (read page).result with
  | error e => rfl
  | ok last =>
    rw [hr] at h
    dsimp only
    cases last with
    | nil => simp [Except.map]
    | cons item last => rw [if_neg (by simp), if_pos (of_decide_eq_true h)]; rfl

theorem readPages_full (hsize : 0 < size) (h : stops read size page = false) (budget : ℕ) (items : List α) :
    readPages read size (budget + 1) page items =
      ⟨(read page).log ++ (readPages read size budget (page + 1) (items ++ pageItems read page)).log,
        (readPages read size budget (page + 1) (items ++ pageItems read page)).result⟩ := by
  rw [readPages]
  unfold stops at h
  unfold pageItems
  cases hr : (read page).result with
  | error e =>
    rw [hr] at h
    cases h
  | ok full =>
    rw [hr] at h
    have hlen : ¬ full.length < size := of_decide_eq_false h
    have hne : full.isEmpty = false := by
      cases full with
      | nil => exact absurd hsize hlen
      | cons item full => rfl
    dsimp only
    rw [if_neg (by rw [hne]; exact Bool.false_ne_true), if_neg hlen]

/-- **What is read.** `last` is the first page that stops the reader, or the last one that the budget allows; the pages
up to it are asked for in order, and the reading fails iff that page cannot be read. -/
theorem readPages_eq (read : ℕ → Reading τ ε α) (hsize : 0 < size) (budget : ℕ) : ∀ (page : ℕ) (items : List α),
    let last := lastAttempt (stops read size) budget page
    readPages read size (budget + 1) page items =
      ⟨(List.range' page (last + 1 - page)).flatMap (fun k => (read k).log),
        (read last).result.map
          (fun tail => items ++ ((List.range' page (last - page)).flatMap (pageItems read) ++ tail))⟩ := by
  induction budget with
  | zero =>
    intro page items
    dsimp only [lastAttempt]
    rw [Nat.sub_self, Nat.add_sub_cancel_left, List.range'_zero, List.range'_one, List.flatMap_singleton]
    cases h : stops read size page with
    | true => exact readPages_stop h 0 items
    | false =>
      rw [readPages_full hsize h, readPages, List.append_nil]
      unfold stops at h
      unfold pageItems
      cases hr : (read page).result with
      | error e =>
        rw [hr] at h
        cases h
      | ok full => rfl
  | succ budget ih =>
    intro page items
    cases h : stops read size page with
    | true =>
      rw [lastAttempt_of_final h]
      dsimp only
      rw [Nat.sub_self, Nat.add_sub_cancel_left, List.range'_zero, List.range'_one, List.flatMap_singleton]
      exact readPages_stop h (budget + 1) items
    | false =>
      have hle : page + 1 ≤ lastAttempt (stops read size) budget (page + 1) := le_lastAttempt budget (page + 1)
      rw [lastAttempt_succ h, readPages_full hsize h, ih (page + 1)]
      dsimp only
      generalize lastAttempt (stops read size) budget (page + 1) = last at hle ⊢
      have hlog : last + 1 - page = last + 1 - (page + 1) + 1 := by omega
      have hitems : last - page = last - (page + 1) + 1 := by omega
      rw [hlog, hitems, List.range'_succ, List.range'_succ, List.flatMap_cons, List.flatMap_cons]
      simp only [List.append_assoc]

end

/-! ### A list that does not change -/

section Slices

variable {α : Type*} (store : List α) (size : ℕ)

/-- Page `page` of the list. -/
def slice (page : ℕ) : List α := (store.drop (page * size)).take size

theorem length_slice (page : ℕ) : (slice store size page).length = min size (store.length - page * size) := by
  rw [slice, List.length_take, List.length_drop]

theorem flatMap_slice (n : ℕ) : ∀ page, (List.range' page n).flatMap (slice store size) =
    (store.drop (page * size)).take (n * size) := by
  induction n with
  | zero => simp
  | succ n ih =>
    intro page
    have hpage : (page + 1) * size = page * size + size := Nat.succ_mul page size
    have hn : (n + 1) * size = size + n * size := by rw [Nat.succ_mul, Nat.add_comm]
    rw [List.range'_succ, List.flatMap_cons, ih (page + 1), slice, hpage, hn, ← List.drop_drop, List.take_add]

variable {store size} {τ ε : Type*} {read : ℕ → Reading τ ε α}

/-- **A list that does not change.** What is read are its first `size * budget` elements; the pages asked for are the
full ones and the one behind them, as far as the budget goes. -/
theorem readPages_slices (hsize : 0 < size) {budget : ℕ}
    (hread : ∀ page ≤ budget, (read page).result = .ok (slice store size page)) :
    (readPages read size (budget + 1) 0 []).result = .ok (store.take ((budget + 1) * size)) ∧
      (readPages read size (budget + 1) 0 []).log =
        (List.range (min (budget + 1) (store.length / size + 1))).flatMap (fun k => (read k).log) := by
  have hstops : ∀ page ≤ budget, (stops read size page = true ↔ store.length / size ≤ page) := by
    intro page hpage
    unfold stops
    rw [hread page hpage]
    dsimp only
    rw [decide_eq_true_iff, length_slice, ← Nat.lt_succ_iff, Nat.div_lt_iff_lt_mul hsize, Nat.succ_mul]
    omega
  have hlast : lastAttempt (stops read size) budget 0 = min (store.length / size) budget := by
    have hle : lastAttempt (stops read size) budget 0 ≤ budget := by
      simpa using lastAttempt_le (stops read size) budget 0
    apply le_antisymm
    · refine le_min ?_ hle
      -- a full page comes before the last one only
      by_contra hlt
      have hfull := final_of_lt_lastAttempt budget 0 (Nat.zero_le _) (not_le.mp hlt)
      rw [(hstops _ ((not_le.mp hlt).le.trans hle)).mpr le_rfl] at hfull
      cases hfull
    · by_contra hlt
      have hlt := lt_min_iff.mp (not_le.mp hlt)
      have hno : stops read size (lastAttempt (stops read size) budget 0) = true := by
        rcases lastAttempt_final_or_eq (stops read size) budget 0 with h | h
        · exact h
        · omega
      exact absurd ((hstops _ hle).mp hno) (not_le.mpr hlt.1)
  have hpages : ∀ k ∈ List.range' 0 (min (store.length / size) budget), pageItems read k = slice store size k := by
    intro k hk
    have hk : k ≤ budget := by
      rw [List.mem_range'_1] at hk
      omega
    unfold pageItems
    rw [hread k hk]
  rw [readPages_eq read hsize]
  dsimp only
  rw [hlast, hread _ (min_le_right _ _), Nat.sub_zero, Nat.sub_zero, List.flatMap_congr hpages, Except.map,
    List.nil_append]
  generalize hn : min (store.length / size) budget = n
  have hall : (List.range' 0 n).flatMap (slice store size) ++ slice store size n =
      (List.range' 0 (n + 1)).flatMap (slice store size) := by
    rw [List.range'_concat, List.flatMap_append, List.flatMap_singleton, Nat.zero_add, Nat.one_mul]
  refine ⟨?_, ?_⟩
  · rw [hall, flatMap_slice, Nat.zero_mul, List.drop_zero]
    rcases min_choice (store.length / size) budget with hmin | hmin
    · -- the last page that is asked for is the end of the list
      have hlen : store.length < (n + 1) * size := by
        rw [← Nat.div_lt_iff_lt_mul hsize, ← hn, hmin]
        exact Nat.lt_succ_self _
      have hle : n ≤ budget := by
        rw [← hn]
        exact min_le_right _ _
      have hbudget : (n + 1) * size ≤ (budget + 1) * size := Nat.mul_le_mul_right size (Nat.succ_le_succ hle)
      rw [List.take_of_length_le hlen.le, List.take_of_length_le (hlen.le.trans hbudget)]
    · rw [← hn, hmin]
  · rw [List.range_eq_range', ← hn]
    congr 2
    omega

end Slices

end Lib
