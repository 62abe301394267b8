import Mathlib.Data.List.TakeWhile
import Polyfast.Lib.Search
import Polyfast.MarketData.PTBTasks

/-!
# PTB values from event pages

`SSRPTBAdapter` takes the price to beat from the text of the event's page: the digits of the first open price whose
close price is null. What it answers is what the fetch tasks lock.

* `matchLive`, `readPrice`, `fetchPtb`: the adapter;
* `fetchPtb_success_iff`: when it answers a price, and which;
* `PTBTasks.locked_from_page`: every lock is the open price of a page that was fetched for its event.
-/

namespace Polyfast

/-! ### The pattern -/

def openMark : List Char := "\"openPrice\":".toList

def closeMark : List Char := ",\"closePrice\":null".toList

/-- `[0-9.]`. -/
def isPriceChar (c : Char) : Bool := c.isDigit || c = '.'

/-- The pattern at the start of a text, and what its group takes. The comma that has to follow is not a price
character, so the group takes all that there are. -/
def matchLive (s : List Char) : Option (List Char) :=
  match Lib.after openMark s with
  | none => none
  | some rest =>
    let price := rest.takeWhile isPriceChar
    if price ≠ [] ∧ closeMark <+: rest.dropWhile isPriceChar then some price else none

/-- The number that decimal digits stand for. -/
def decimalValue (digits : List Char) : ℕ := digits.foldl (fun n c => 10 * n + (c.toNat - '0'.toNat)) 0

/-- `float` of a text of price characters. It fails if there is no digit or a second dot. -/
def readPrice (price : List Char) : Option ℚ :=
  let whole := price.takeWhile (· ≠ '.')
  let decimals := (price.dropWhile (· ≠ '.')).drop 1
  if '.' ∈ decimals ∨ whole ++ decimals = [] then none
  else some (decimalValue (whole ++ decimals) / 10 ^ decimals.length)

/-- Open price `price` without a close price stands in `text` after `pre`. -/
structure LiveAt (text : String) (pre price post : List Char) : Prop where
  split : text.toList = pre ++ (openMark ++ price ++ closeMark ++ post)
  digits : ∀ c ∈ price, isPriceChar c = true
  nonempty : price ≠ []

/-- The first of these. -/
def FirstLive (text : String) (price : List Char) : Prop :=
  ∃ pre post, LiveAt text pre price post ∧
    ∀ pre' price' post', LiveAt text pre' price' post' → pre.length ≤ pre'.length

theorem matchLive_eq_some_iff {s price : List Char} : matchLive s = some price ↔
    (∃ post, s = openMark ++ price ++ closeMark ++ post) ∧ (∀ c ∈ price, isPriceChar c = true) ∧ price ≠ [] := by
  unfold matchLive
  constructor
  · intro h
    cases hafter : Lib.after openMark s with
    | none =>
      rw [hafter] at h
      cases h
    | some rest =>
      rw [hafter] at h
      obtain ⟨⟨hne, post, hpost⟩, hprice⟩ := Option.ite_none_right_eq_some.mp h
      obtain rfl := Option.some.inj hprice
      refine ⟨⟨post, ?_⟩, fun c hc => List.mem_takeWhile_imp hc, hne⟩
      rw [Lib.after_eq_some_iff.mp hafter, List.append_assoc, List.append_assoc, hpost,
        List.takeWhile_append_dropWhile]
  · rintro ⟨⟨post, rfl⟩, hdigits, hne⟩
    have hafter : Lib.after openMark (openMark ++ price ++ closeMark ++ post) = some (price ++ (closeMark ++ post)) :=
      Lib.after_eq_some_iff.mpr (by simp only [List.append_assoc])
    have hcomma : closeMark ++ post = ',' :: (closeMark.tail ++ post) := rfl
    have htake : (price ++ (closeMark ++ post)).takeWhile isPriceChar = price := by
      rw [List.takeWhile_append_of_pos hdigits, hcomma, List.takeWhile_cons_of_neg (by decide), List.append_nil]
    have hdrop : (price ++ (closeMark ++ post)).dropWhile isPriceChar = closeMark ++ post := by
      rw [List.dropWhile_append_of_pos hdigits, hcomma, List.dropWhile_cons_of_neg (by decide)]
    rw [hafter]
    dsimp only
    rw [htake, hdrop, if_pos ⟨hne, List.prefix_append _ _⟩]

theorem liveAt_iff {text : String} {pre price : List Char} :
    (∃ post, LiveAt text pre price post) ↔ ∃ rest, text.toList = pre ++ rest ∧ matchLive rest = some price := by
  simp only [matchLive_eq_some_iff]
  constructor
  · rintro ⟨post, hsplit, hdigits, hne⟩
    exact ⟨_, hsplit, ⟨post, rfl⟩, hdigits, hne⟩
  · rintro ⟨rest, hsplit, ⟨post, rfl⟩, hdigits, hne⟩
    exact ⟨post, hsplit, hdigits, hne⟩

/-- The search finds the first live price. -/
theorem search_matchLive_iff {text : String} {price : List Char} :
    Lib.search matchLive text.toList = some price ↔ FirstLive text price := by
  rw [Lib.search_eq_some_iff]
  constructor
  · rintro ⟨pre, rest, hsplit, hfound, hfirst⟩
    obtain ⟨post, hlive⟩ := liveAt_iff.mpr ⟨rest, hsplit, hfound⟩
    refine ⟨pre, post, hlive, fun pre' price' post' hlive' => ?_⟩
    obtain ⟨rest', hsplit', hfound'⟩ := liveAt_iff.mp ⟨post', hlive'⟩
    by_contra hlt
    exact absurd (hfound'.symm.trans (hfirst pre' rest' hsplit' (Nat.not_le.mp hlt))) (by simp)
  · rintro ⟨pre, post, hlive, hfirst⟩
    obtain ⟨rest, hsplit, hfound⟩ := liveAt_iff.mp ⟨post, hlive⟩
    refine ⟨pre, rest, hsplit, hfound, fun p q hpq hlt => ?_⟩
    by_contra hmatch
    obtain ⟨price', hprice'⟩ := Option.ne_none_iff_exists'.mp hmatch
    obtain ⟨post', hlive'⟩ := liveAt_iff.mpr ⟨q, hpq, hprice'⟩
    exact absurd hlt (Nat.not_lt.mpr (hfirst p price' post' hlive'))

/-! ### The adapter -/

/-- What comes of a request. -/
inductive PageReply
  | timeout
  | failure (error : String)
  | page (status : ℕ) (text : String)

structure SSRPTBAdapter where
  /-- `timeout_seconds` as it is printed. -/
  timeoutSeconds : String := "15.0"

namespace SSRPTBAdapter

variable (a : SSRPTBAdapter)

def sourceName : String := "ssr_open_price"

/-- An answer without a price. -/
def noValue (error : String) : PTBFetchResult := { success := false, sourceName := sourceName, error := error }

/-- `_parse_ptb`, or the text of the exception that it raises. -/
def parsePtb (text : String) : Except String PTBFetchResult :=
  match Lib.search matchLive text.toList with
  | none => .ok (noValue "openPrice with closePrice:null not found — event may not be live or PTB not yet set")
  | some price =>
    match readPrice price with
    | some value => .ok { success := true, value := some value, sourceName := sourceName }
    | none => .error ("could not convert string to float: '" ++ String.ofList price ++ "'")

/-- `fetch_ptb`. -/
def fetchPtb : PageReply → PTBFetchResult
  | .timeout => noValue s!"Timeout after {a.timeoutSeconds}s"
  | .failure error => noValue error
  | .page status text =>
    if status ≠ 200 then noValue s!"HTTP {status} from event page"
    else
      match parsePtb text with
      | .ok result => result
      | .error error => noValue error

/-- **When the adapter answers a price**: the page came, and its first live price can be read. -/
theorem fetchPtb_success_iff {reply : PageReply} {v : ℚ} :
    (a.fetchPtb reply).success = true ∧ (a.fetchPtb reply).value = some v ↔
      ∃ text price, reply = .page 200 text ∧ FirstLive text price ∧ readPrice price = some v := by
  constructor
  · rintro ⟨hsuccess, hvalue⟩
    cases reply with
    | timeout => cases hsuccess
    | failure error => cases hsuccess
    | page status text =>
      by_cases hstatus : status = 200
      · subst hstatus
        have hpage : a.fetchPtb (.page 200 text) = match parsePtb text with
          | .ok result => result
          | .error error => noValue error := rfl
        rw [hpage] at hsuccess hvalue
        unfold parsePtb at hsuccess hvalue
        cases hsearch : Lib.search matchLive text.toList with
        | none =>
          rw [hsearch] at hsuccess
          cases hsuccess
        | some price =>
          rw [hsearch] at hsuccess hvalue
          cases hread : readPrice price with
          | none =>
            simp only [hread] at hsuccess
            cases hsuccess
          | some value =>
            simp only [hread] at hvalue
            exact ⟨text, price, rfl, search_matchLive_iff.mp hsearch, hread.trans hvalue⟩
      · rw [fetchPtb, if_pos hstatus] at hsuccess
        cases hsuccess
  · rintro ⟨text, price, rfl, hfirst, hread⟩
    have hparse : parsePtb text = .ok { success := true, value := some v, sourceName := sourceName } := by
      simp only [parsePtb, search_matchLive_iff.mpr hfirst, hread]
    simp only [fetchPtb, hparse, ne_eq, not_true_eq_false, if_false, and_self]

end SSRPTBAdapter

/-! ### Where a lock comes from -/

namespace PTBFetcher

variable {f f' : PTBFetcher} {r : PTBRecord} {c k : ConditionId} {v : ℚ}

/-- Every lock of `f'` is one of `f`. -/
def AddsNoLock (f f' : PTBFetcher) : Prop := ∀ c v, f'.Locked c v → f.Locked c v

theorem locked_write : (f.write r).Locked c v ↔
    (r.conditionId = c ∧ r.isLocked = true ∧ r.ptbValue = some v) ∨ (r.conditionId ≠ c ∧ f.Locked c v) := by
  unfold Locked write
  dsimp only
  by_cases hc : r.conditionId = c
  · subst hc
    simp
  · rw [Lib.Table.get?_put_ne _ hc]
    simp [hc]

/-- A record that is not locked adds no lock. -/
theorem AddsNoLock.write (h : r.isLocked = false) : AddsNoLock f (f.write r) := by
  intro c v hlocked
  rcases locked_write.mp hlocked with ⟨-, hl, -⟩ | ⟨-, hold⟩
  · exact absurd (h.symm.trans hl) Bool.false_ne_true
  · exact hold

theorem AddsNoLock.refl (f : PTBFetcher) : AddsNoLock f f := fun _ _ h => h

theorem AddsNoLock.trans {f'' : PTBFetcher} (h : AddsNoLock f f') (h' : AddsNoLock f' f'') : AddsNoLock f f'' :=
  fun c v hc => h c v (h' c v hc)

theorem addsNoLock_getOrCreateRecord (f : PTBFetcher) (c : ConditionId) (asset : Asset) :
    AddsNoLock f (f.getOrCreateRecord c asset).1 := by
  unfold getOrCreateRecord
  cases f.records.get? c with
  | none => exact .write rfl
  | some r => exact .refl f

theorem addsNoLock_fetchBegin (f : PTBFetcher) (c : ConditionId) (asset : Asset) :
    AddsNoLock f (f.fetchBegin c asset).1 := by
  unfold fetchBegin
  dsimp only
  split_ifs
  · exact addsNoLock_getOrCreateRecord f c asset
  · exact (addsNoLock_getOrCreateRecord f c asset).trans (.write rfl)

theorem addsNoLock_fetch (f : PTBFetcher) (c : ConditionId) (asset : Asset) : AddsNoLock f (f.fetch c asset).1 := by
  have hbegin := addsNoLock_fetchBegin f c asset
  unfold fetch
  rcases hb : f.fetchBegin c asset with ⟨g, _ | _⟩ <;> rwa [hb] at hbegin

theorem addsNoLock_expire (f : PTBFetcher) (c : ConditionId) : AddsNoLock f (f.expire c) := by
  unfold expire
  cases f.records.get? c with
  | none => exact .refl f
  | some r =>
    dsimp only
    split_ifs
    · exact .refl f
    · exact .write rfl

theorem addsNoLock_retryLoop (f : PTBFetcher) (a : PTBRetry) (attempt : ℕ) (now : Time) :
    AddsNoLock f (f.retryLoop a attempt now).1 := by
  unfold retryLoop
  split_ifs
  · exact .refl f
  · exact addsNoLock_expire f a.conditionId

theorem addsNoLock_retryBegin (f : PTBFetcher) (a : PTBRetry) (now : Time) : AddsNoLock f (f.retryBegin a now).1 := by
  unfold retryBegin
  dsimp only
  split_ifs
  · exact addsNoLock_getOrCreateRecord f a.conditionId a.asset
  · exact (addsNoLock_getOrCreateRecord f a.conditionId a.asset).trans (addsNoLock_retryLoop _ a 0 now)

theorem addsNoLock_wake (f : PTBFetcher) (a : PTBRetry) (attempt : ℕ) (now : Time) :
    AddsNoLock f (f.wake a attempt now).1 := by
  have hbegin := addsNoLock_fetchBegin f a.conditionId a.asset
  unfold wake
  split_ifs
  · exact addsNoLock_expire f a.conditionId
  · rcases hb : f.fetchBegin a.conditionId a.asset with ⟨g, _ | _⟩ <;> rwa [hb] at hbegin

/-- An answer adds at most a lock with its price for its event. -/
theorem locked_fetchEnd {result : PTBFetchResult} {now : Time} (h : (f.fetchEnd k result now).1.Locked c v) :
    f.Locked c v ∨ (k = c ∧ result.success = true ∧ result.value = some v) := by
  unfold fetchEnd at h
  cases hr : f.records.get? k with
  | none =>
    rw [hr] at h
    exact .inl h
  | some r =>
    rw [hr] at h
    have hkey : r.conditionId = k := Lib.Table.key_of_get? hr
    dsimp only at h
    split at h
    · rename_i value hsuccess hvalue
      unfold PTBRecord.lock at h
      by_cases hl : r.isLocked = true
      · rw [if_pos hl] at h
        exact .inl h
      · rw [if_neg hl] at h
        rcases locked_write.mp h with ⟨hc, -, hv⟩ | ⟨-, hold⟩
        · exact .inr ⟨hkey.symm.trans hc, hsuccess, hvalue.trans hv⟩
        · exact .inl hold
    · exact .inl (AddsNoLock.write (r := r.recordFailure result.error) rfl c v h)

theorem locked_answer {t : PTBTask} {result : PTBFetchResult} {now : Time}
    (h : (f.answer t result now).1.Locked c v) :
    f.Locked c v ∨ (t.conditionId = c ∧ result.success = true ∧ result.value = some v) := by
  cases t with
  | fetching k =>
    suffices hend : (f.fetchEnd k result now).1.Locked c v from locked_fetchEnd hend
    unfold answer at h
    rcases hend : f.fetchEnd k result now with ⟨g, _ | e⟩ <;> simp only [hend] at h <;> exact h
  | retrying a attempt =>
    suffices hend : (f.fetchEnd a.conditionId result now).1.Locked c v from locked_fetchEnd hend
    unfold answer at h
    rcases hend : f.fetchEnd a.conditionId result now with ⟨g, _ | e⟩
    · simp only [hend] at h
      split_ifs at h
      · exact h
      · exact addsNoLock_retryLoop g a (attempt + 1) now c v h
    · simp only [hend] at h
      exact h
  | sleeping a attempt wait => exact .inl h

end PTBFetcher

namespace PTBTasks

variable {s s' : PTBTasks} {l : Label} {c : ConditionId} {v : ℚ}

/-- A lock that a step brings is the price of the answer that comes in it. -/
theorem Step.locked (h : Step s l s') (hlocked : s'.fetcher.Locked c v) : s.fetcher.Locked c v ∨
    ∃ t result now, l = .answered t result now ∧ t.conditionId = c ∧ result.success = true ∧
      result.value = some v := by
  cases h with
  | fetch c' asset =>
    rw [fetcher_after] at hlocked
    exact .inl (PTBFetcher.addsNoLock_fetch _ c' asset c v hlocked)
  | fetchWithRetry a now =>
    rw [fetcher_after] at hlocked
    exact .inl (PTBFetcher.addsNoLock_retryBegin _ a now c v hlocked)
  | answered l₁ l₂ t result now ht hsplit =>
    rw [fetcher_after] at hlocked
    obtain hold | hnew := PTBFetcher.locked_answer hlocked
    · exact .inl hold
    · exact .inr ⟨t, result, now, rfl, hnew⟩
  | woken l₁ l₂ a attempt wait now hsplit =>
    rw [fetcher_after] at hlocked
    exact .inl (PTBFetcher.addsNoLock_wake _ a attempt now c v hlocked)
  | cancelled l₁ l₂ t hsplit => exact .inl hlocked

/-- **Where a lock comes from.** In every run of the fetch tasks whose source is the adapter, a lock that was not
there at first is the first live price of a page that was fetched for its event. -/
theorem locked_from_page {a : SSRPTBAdapter} {tr : List (Lib.Taken PTBTasks Label)} (hrun : Lib.Run Step s tr s')
    (hsource : ∀ x ∈ tr, ∀ t result now, x.label = .answered t result now → ∃ reply, result = a.fetchPtb reply)
    (hs : ¬s.fetcher.Locked c v) (hlocked : s'.fetcher.Locked c v) :
    ∃ x ∈ tr, ∃ t now text price, x.label = .answered t (a.fetchPtb (.page 200 text)) now ∧ t.conditionId = c ∧
      FirstLive text price ∧ readPrice price = some v := by
  obtain ⟨x, hx, t, result, now, hl, hc, hsuccess, hvalue⟩ := hrun.caused
    (P := fun u => u.fetcher.Locked c v) (M := fun x => ∃ t result now, x.label = .answered t result now ∧
      t.conditionId = c ∧ result.success = true ∧ result.value = some v) (fun _ _ _ h hu => h.locked hu) hs hlocked
  obtain ⟨reply, rfl⟩ := hsource x hx t result now hl
  obtain ⟨text, price, rfl, hfirst, hread⟩ := a.fetchPtb_success_iff.mp ⟨hsuccess, hvalue⟩
  exact ⟨x, hx, t, now, text, price, hl, hc, hfirst, hread⟩

/-- A page with a closed event before the live one. -/
def livePage : String :=
  "[\x7b\"openPrice\":67100.5,\"closePrice\":67180.1\x7d,\x7b\"openPrice\":67260.12,\"closePrice\":null\x7d]"

/-- The answer that the page gives. -/
def livePrice : PTBFetchResult := ({} : SSRPTBAdapter).fetchPtb (.page 200 livePage)

/-- A call of `fetch_ptb` that locks it. -/
def liveLocked : PTBTasks := oneAsked.after [] [] (oneAsked.fetcher.answer (.fetching "event") livePrice 0)

def liveTrace : List (Lib.Taken PTBTasks Label) :=
  [⟨{}, .fetch "event" "BTC", oneAsked⟩, ⟨oneAsked, .answered (.fetching "event") livePrice 0, liveLocked⟩]

theorem locked_from_livePage : ∃ x ∈ liveTrace, ∃ t now text price,
    x.label = .answered t (({} : SSRPTBAdapter).fetchPtb (.page 200 text)) now ∧ t.conditionId = "event" ∧
      FirstLive text price ∧ readPrice price = some (67260 + 3 / 25) := by
  have hrun : Lib.Run Step {} liveTrace liveLocked :=
    ((Lib.Run.nil ({} : PTBTasks)).snoc (Step.fetch {} "event" "BTC")).snoc
      (Step.answered oneAsked [] [] (.fetching "event") livePrice 0 rfl rfl)
  refine locked_from_page hrun (fun x hx t result now hl => ?_) ?_ ?_
  · rcases List.mem_cons.mp hx with rfl | hx
    · cases hl
    · obtain rfl := List.mem_singleton.mp hx
      cases hl
      exact ⟨.page 200 livePage, rfl⟩
  · rintro ⟨r, hr, -⟩
    cases hr
  · exact ⟨{ conditionId := "event", asset := "BTC", ptbValue := some (67260 + 3 / 25), status := .acquired
             sourceName := "ssr_open_price", acquiredAt := some 0, retryCount := 1 },
      by decide +kernel, by decide +kernel, rfl⟩

end PTBTasks

end Polyfast
