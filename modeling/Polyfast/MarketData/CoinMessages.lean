import Mathlib.Algebra.Order.Ring.Rat
import Polyfast.MarketData.CoinRounds

/-!
# The messages of the coin price client

A frame of the feed is JSON that nobody has checked. `PriceFrame.quote` is what `_persistent_loop` reads from it: a
price for a coin, nothing, or an exception, which ends the connection. Prices are handed out by `get_price`, which
marks a record that has become too old; `get_all_prices` and the health report do so for every record.

* `extractPrice`, `PriceFrame.quote`: a frame;
* `Action`, `ActStep`: the client and its loop, with the frames that come and the reads of other tasks;
* `quote_step`: the record of a coin as a register, set by its quotes and cleared by the checks;
* `getUsdPrice_iff`: the price that is handed out.
-/

namespace Polyfast

/-! ### A frame -/

/-- `_SYMBOL_TO_COIN.get(symbol)`. -/
def symbolCoin (symbol : String) : Option Asset := (coinSymbols.find? (fun e => e.2 = symbol)).map Prod.fst

/-- The symbol of a payload. -/
inductive SymbolField
  /-- A string, empty if there is no symbol. -/
  | text (symbol : String)
  /-- A number, a truth value or null. -/
  | scalar
  /-- A list or a dictionary, which cannot be looked up. -/
  | container
  deriving DecidableEq

/-- An entry of `data`, with its `value` and `v` if it is a dictionary. -/
inductive PriceEntry
  | dict (value v : PyValue)
  | other
  deriving DecidableEq

inductive PriceData
  | list (entries : List PriceEntry)
  | other
  deriving DecidableEq

structure PricePayload where
  symbol : SymbolField := .text ""
  data : PriceData := .other
  value : PyValue := .none
  deriving DecidableEq

/-- A frame. -/
inductive PriceFrame
  | blank
  /-- Not JSON, or JSON that is not a dictionary. -/
  | garbled
  | noPayload
  | payload (payload : PricePayload)
  deriving DecidableEq

def priceMin : ℚ := 1 / 100000

def priceMax : ℚ := 1000000

/-- `_is_valid_price`. -/
def CoinPriceClient.isValidPrice (price : ℚ) : Bool := decide (priceMin ≤ price ∧ price ≤ priceMax)

/-- From here on an integer has no float. -/
def floatLimit : ℚ := 2 ^ 1024 - 2 ^ 970

/-- `float(v)`, where value and type errors are caught. The overflow error of an integer is not. -/
def floatOrNone : PyValue → Except PyError (Option ℚ)
  | .num q => if floatLimit ≤ |q| then .error .external else .ok (some q)
  | v => .ok v.toFloat.toOption

namespace PricePayload

variable (p : PricePayload)

/-- The direct value. -/
def directPrice : Except PyError (Option ℚ) := if p.value.truthy then floatOrNone p.value else .ok none

/-- `_extract_price`: the last entry of `data`, else the direct value. -/
def extractPrice : Except PyError (Option ℚ) :=
  match p.data with
  | .list entries =>
    match entries.getLast? with
    | some (.dict value v) =>
      let v := if value.truthy then value else v
      if v.truthy then floatOrNone v else p.directPrice
    | _ => p.directPrice
  | .other => p.directPrice

end PricePayload

/-- The price that a turn of the loop takes from a frame. -/
def PriceFrame.quote : PriceFrame → Except PyError (Option (Asset × ℚ))
  | .blank => .ok none
  | .garbled => .error .external
  | .noPayload => .ok none
  | .payload p =>
    match p.symbol with
    | .container => .error .typeError
    | .scalar => .ok none
    | .text symbol =>
      match symbolCoin symbol with
      | none => .ok none
      | some coin =>
        match p.extractPrice with
        | .error e => .error e
        | .ok none => .ok none
        | .ok (some price) => .ok (if CoinPriceClient.isValidPrice price then some (coin, price) else none)

/-! ### The client with its readers -/

/-- `check_freshness` of every record, as `get_all_prices` and the health report call it. -/
def CoinPriceClient.checkAll (c : CoinPriceClient) (now : Time) : CoinPriceClient :=
  { c with records := (c.records.records.map (·.checkFreshness now)).foldl Lib.Table.put c.records }

namespace CoinFeed

variable (f : CoinFeed)

inductive Action
  /-- The loop runs to its next await; what it receives is a timeout. -/
  | loop (l : Label)
  /-- The loop receives a frame. -/
  | frame (m : PriceFrame) (now : Time)
  /-- `get_price` of another task. -/
  | read (coin : Asset) (now : Time)
  | readAll (now : Time)

/-- What a frame is to the loop: a turn that may bring a price, or the end of the connection. -/
def frameLabel (m : PriceFrame) (now : Time) : Label :=
  match m.quote with
  | .ok price => .receive price now
  | .error _ => .fail

def Label.bringsPrice : Label → Bool
  | .receive (some _) _ => true
  | _ => false

/-- An action, if it can happen now. -/
def act : Action → Option CoinFeed
  | .loop l => if l.bringsPrice then none else f.next l
  | .frame m now =>
    match f.phase with
    | .receiving _ => f.next (frameLabel m now)
    | _ => none
  | .read coin now =>
    some { f with subscription := { f.subscription with client := (f.subscription.client.getPrice coin now).1 } }
  | .readAll now =>
    some { f with subscription := { f.subscription with client := f.subscription.client.checkAll now } }

def ActStep (f : CoinFeed) (a : Action) (f' : CoinFeed) : Prop := f.act a = some f'

/-- The price that a turn brings for the coin, and when. -/
def Label.quote (coin : Asset) : Label → Option (ℚ × Time)
  | .receive (some (c, price)) now => if c = coin then some (price, now) else none
  | _ => none

/-- The frames quote. -/
def Action.quote (coin : Asset) : Action → Option (ℚ × Time)
  | .frame m now => (frameLabel m now).quote coin
  | _ => none

/-- When the action checks the record of the coin. -/
def Action.checkedAt (coin : Asset) : Action → Option Time
  | .read c now => if c = coin then some now else none
  | .readAll now => some now
  | _ => none

end CoinFeed

/-! ### The record of a coin -/

namespace CoinPriceRecord

variable {r : CoinPriceRecord} {now : Time} {limit : ℚ}

/-- The price of a fresh record and its age. -/
def quote (r : CoinPriceRecord) : Option (ℚ × Time) :=
  if r.status = .fresh then r.updatedAt.map fun t => (r.usdPrice, t) else none

/-- The record is checked against `limit`, and was written if it is fresh. -/
structure Sound (limit : ℚ) (r : CoinPriceRecord) : Prop where
  threshold : r.staleThresholdSec = limit
  written : r.status = .fresh → r.updatedAt.isSome

/-- `q` is not too old at `now`. -/
def passes (limit : ℚ) (now : Time) (q : ℚ × Time) : Bool := decide (now - q.2 ≤ limit)

@[simp] theorem coin_checkFreshness (r : CoinPriceRecord) (now : Time) : (r.checkFreshness now).coin = r.coin := by
  unfold checkFreshness
  split_ifs <;> rfl

theorem Sound.checkFreshness (h : r.Sound limit) (now : Time) : (r.checkFreshness now).Sound limit := by
  unfold CoinPriceRecord.checkFreshness
  split_ifs
  · exact h
  · exact ⟨h.threshold, fun hstatus => by cases hstatus⟩
  · exact h

/-- A check keeps what passes. -/
theorem Sound.quote_checkFreshness (h : r.Sound limit) (now : Time) :
    (r.checkFreshness now).quote = r.quote.filter (passes limit now) := by
  unfold CoinPriceRecord.checkFreshness
  by_cases hskip : r.status = .invalid ∨ r.status = .waiting
  · have hnot : r.status ≠ .fresh := by
      rintro hfresh
      rw [hfresh] at hskip
      exact absurd hskip (by decide)
    rw [if_pos hskip, quote, if_neg hnot, Option.filter_none]
  · rw [if_neg hskip]
    cases hu : r.updatedAt with
    | none =>
      have hquote : r.quote = none := by
        unfold quote
        split_ifs
        · rw [hu, Option.map_none]
        · rfl
      rw [show r.isStale now = false by rw [isStale, hu], if_neg Bool.false_ne_true, hquote, Option.filter_none]
    | some t =>
      have hstale : r.isStale now = decide (now - t > limit) := by rw [isStale, hu, h.threshold]
      by_cases hlate : now - t > limit
      · rw [hstale, decide_eq_true hlate, if_pos rfl]
        have hfails : passes limit now (r.usdPrice, t) = false := decide_eq_false (not_le.mpr hlate)
        by_cases hfresh : r.status = .fresh
        · rw [quote, quote, if_neg (by simp), if_pos hfresh, hu, Option.map_some, Option.filter_some, hfails,
            if_neg Bool.false_ne_true]
        · rw [quote, quote, if_neg (by simp), if_neg hfresh, Option.filter_none]
      · rw [hstale, decide_eq_false hlate, if_neg Bool.false_ne_true]
        have hpasses : passes limit now (r.usdPrice, t) = true := decide_eq_true (not_lt.mp hlate)
        by_cases hfresh : r.status = .fresh
        · rw [quote, if_pos hfresh, hu, Option.map_some, Option.filter_some, if_pos hpasses]
        · rw [quote, if_neg hfresh, Option.filter_none]

end CoinPriceRecord

namespace CoinPriceClient

variable {c : CoinPriceClient} {limit : ℚ}

/-- The price and age of the coin's record if it is fresh. -/
def quote (c : CoinPriceClient) (coin : Asset) : Option (ℚ × Time) := (c.records.get? coin).bind CoinPriceRecord.quote

def Sound (limit : ℚ) (c : CoinPriceClient) : Prop := ∀ coin r, c.records.get? coin = some r → r.Sound limit

theorem get?_getPrice (c : CoinPriceClient) (coin k : Asset) (now : Time) :
    (c.getPrice coin now).1.records.get? k =
      if coin = k then (c.records.get? k).map (·.checkFreshness now) else c.records.get? k := by
  unfold getPrice
  cases hr : c.records.get? coin with
  | none =>
    split_ifs with hk
    · rw [← hk, hr, Option.map_none]
    · rfl
  | some r =>
    have hkey : (r.checkFreshness now).coin = coin := (r.coin_checkFreshness now).trans (Lib.Table.key_of_get? hr)
    dsimp only
    rw [Lib.Table.get?_put, hkey]
    split_ifs with hk
    · rw [← hk, hr, Option.map_some]
    · rfl

theorem get?_checkAll (c : CoinPriceClient) (k : Asset) (now : Time) :
    (c.checkAll now).records.get? k = (c.records.get? k).map (·.checkFreshness now) := by
  have hkeys : (c.records.records.map (·.checkFreshness now)).map CoinPriceRecord.coin = c.records.keys := by
    rw [List.map_map, ← Lib.Table.map_key_records]
    exact List.map_congr_left fun r _ => r.coin_checkFreshness now
  unfold checkAll
  cases hr : c.records.get? k with
  | none =>
    rw [Option.map_none]
    refine (Lib.Table.get?_foldl_put_notMem _ ?_ _).trans hr
    rw [hkeys]
    exact Lib.Table.get?_eq_none_iff.mp hr
  | some r =>
    have hmem := List.mem_map_of_mem (f := fun r => CoinPriceRecord.checkFreshness r now)
      (Lib.Table.mem_records_of_get? hr)
    have hstored := Lib.Table.get?_foldl_put (by rw [hkeys]; exact c.records.dict.keys_nodup) hmem c.records
    rwa [CoinPriceRecord.coin_checkFreshness, Lib.Table.key_of_get? hr] at hstored

/-- What one check leaves of the records. -/
theorem Sound.getPrice (h : c.Sound limit) (coin : Asset) (now : Time) : (c.getPrice coin now).1.Sound limit := by
  intro k r hr
  rw [get?_getPrice] at hr
  split_ifs at hr
  · obtain ⟨u, hu, rfl⟩ := Option.map_eq_some_iff.mp hr
    exact (h k u hu).checkFreshness now
  · exact h k r hr

theorem Sound.checkAll (h : c.Sound limit) (now : Time) : (c.checkAll now).Sound limit := by
  intro k r hr
  rw [get?_checkAll] at hr
  obtain ⟨u, hu, rfl⟩ := Option.map_eq_some_iff.mp hr
  exact (h k u hu).checkFreshness now

/-- A checked record keeps its quote if that passes. -/
theorem Sound.bind_checkFreshness (h : c.Sound limit) (k : Asset) (now : Time) :
    ((c.records.get? k).map (·.checkFreshness now)).bind CoinPriceRecord.quote =
      (c.quote k).filter (CoinPriceRecord.passes limit now) := by
  unfold quote
  cases hr : c.records.get? k with
  | none => rfl
  | some r => exact (h k r hr).quote_checkFreshness now

theorem Sound.quote_getPrice (h : c.Sound limit) (coin k : Asset) (now : Time) :
    (c.getPrice coin now).1.quote k =
      if coin = k then (c.quote k).filter (CoinPriceRecord.passes limit now) else c.quote k := by
  rw [quote, get?_getPrice]
  split_ifs
  · exact h.bind_checkFreshness k now
  · rfl

theorem Sound.quote_checkAll (h : c.Sound limit) (k : Asset) (now : Time) :
    (c.checkAll now).quote k = (c.quote k).filter (CoinPriceRecord.passes limit now) := by
  rw [quote, get?_checkAll]
  exact h.bind_checkFreshness k now

/-- What is handed out is a quote that passes now. -/
theorem Sound.getUsdPrice_eq_iff (h : c.Sound limit) {coin : Asset} {now : Time} {price : ℚ} (hprice : price ≠ 0) :
    c.getUsdPrice coin now = price ↔ ∃ t, c.quote coin = some (price, t) ∧ now - t ≤ limit := by
  have hquote := h.quote_getPrice coin coin now
  rw [if_pos rfl, quote, get?_getPrice, if_pos rfl] at hquote
  have hfound : (c.getPrice coin now).2 = (c.records.get? coin).map (·.checkFreshness now) := by
    unfold CoinPriceClient.getPrice
    cases c.records.get? coin <;> rfl
  unfold getUsdPrice
  rw [hfound]
  cases hr : (c.records.get? coin).map (·.checkFreshness now) with
  | none =>
    rw [hr, Option.bind_none, eq_comm, Option.filter_eq_none_iff] at hquote
    refine iff_of_false (fun h0 => hprice h0.symm) ?_
    rintro ⟨t, hq, hle⟩
    exact hquote _ hq (decide_eq_true hle)
  | some r =>
    have hsound : r.Sound limit := by
      obtain ⟨u, hu, rfl⟩ := Option.map_eq_some_iff.mp hr
      exact (h coin u hu).checkFreshness now
    rw [hr, Option.bind_some] at hquote
    have hiff : ∀ t, (c.quote coin = some (price, t) ∧ now - t ≤ limit) ↔ r.quote = some (price, t) := by
      intro t
      rw [hquote, Option.filter_eq_some_iff, CoinPriceRecord.passes, decide_eq_true_iff]
    simp only [hiff, CoinPriceRecord.quote]
    by_cases hfresh : r.status = .fresh
    · obtain ⟨t, ht⟩ := Option.isSome_iff_exists.mp (hsound.written hfresh)
      simp [if_pos hfresh, ht]
    · simp [if_neg hfresh, hprice.symm]

end CoinPriceClient

namespace CoinSubscription

variable {s : CoinSubscription}

/-- A coin that has a record keeps it, and any other has none or an empty one. -/
theorem get?_setCoins (s : CoinSubscription) (coins : List Asset) (k : Asset) :
    (s.setCoins coins).client.records.get? k = s.client.records.get? k ∨
      s.client.records.get? k = none ∧ (s.setCoins coins).client.records.get? k =
        some { coin := k, staleThresholdSec := s.staleThreshold } := by
  unfold setCoins
  dsimp only
  generalize s.client.records = records
  induction coins.map String.toUpper generalizing records with
  | nil => exact .inl rfl
  | cons coin coins ih =>
    rw [List.foldl_cons]
    by_cases hold : (records.get? coin).isSome = true
    · rw [if_pos hold]
      exact ih records
    · rw [if_neg hold]
      by_cases hk : coin = k
      · subst hk
        have hnone := Option.not_isSome_iff_eq_none.mp hold
        obtain hsame | ⟨habsent, -⟩ := ih (records.put { coin := coin, staleThresholdSec := s.staleThreshold })
        · exact .inr ⟨hnone, hsame.trans (Lib.Table.get?_put_self _ _)⟩
        · rw [Lib.Table.get?_put, if_pos rfl] at habsent
          cases habsent
      · have hother := ih (records.put { coin := coin, staleThresholdSec := s.staleThreshold })
        rwa [Lib.Table.get?_put_ne _ hk] at hother

theorem sound_setCoins (h : s.client.Sound s.staleThreshold) (coins : List Asset) :
    (s.setCoins coins).client.Sound s.staleThreshold := by
  intro k r hr
  obtain hsame | ⟨-, hnew⟩ := s.get?_setCoins coins k
  · exact h k r (hsame.symm.trans hr)
  · rw [hnew] at hr
    cases hr
    exact ⟨rfl, fun hstatus => by cases hstatus⟩

/-- `set_coins` neither makes nor loses a price. -/
theorem quote_setCoins (s : CoinSubscription) (coins : List Asset) (k : Asset) :
    (s.setCoins coins).client.quote k = s.client.quote k := by
  unfold CoinPriceClient.quote
  obtain hsame | ⟨hnone, hnew⟩ := s.get?_setCoins coins k
  · rw [hsame]
  · rw [hnone, hnew]
    rfl

theorem get?_updateRecord (s : CoinSubscription) (coin k : Asset) (price : ℚ) (now : Time) :
    (s.updateRecord coin price now).client.records.get? k = if coin = k then
      some { (s.client.records.get? coin).getD { coin := coin, staleThresholdSec := s.staleThreshold } with
        usdPrice := price, status := .fresh, updatedAt := some now }
      else s.client.records.get? k := by
  have hkey : ((s.client.records.get? coin).getD { coin := coin, staleThresholdSec := s.staleThreshold }).coin =
      coin := by
    cases hr : s.client.records.get? coin with
    | none => rfl
    | some r => exact Lib.Table.key_of_get? hr
  unfold updateRecord
  dsimp only
  rw [Lib.Table.get?_put, hkey]

theorem sound_updateRecord (h : s.client.Sound s.staleThreshold) (coin : Asset) (price : ℚ) (now : Time) :
    (s.updateRecord coin price now).client.Sound s.staleThreshold := by
  intro k r hr
  rw [get?_updateRecord] at hr
  split_ifs at hr
  · cases hr
    refine ⟨?_, fun _ => rfl⟩
    cases hold : s.client.records.get? coin with
    | none => rfl
    | some u => exact (h coin u hold).threshold
  · exact h k r hr

theorem quote_updateRecord (s : CoinSubscription) (coin k : Asset) (price : ℚ) (now : Time) :
    (s.updateRecord coin price now).client.quote k = if coin = k then some (price, now) else s.client.quote k := by
  unfold CoinPriceClient.quote
  rw [get?_updateRecord]
  split_ifs <;> rfl

end CoinSubscription

/-! ### The price that is handed out -/

namespace CoinFeed

variable {f₀ f f' : CoinFeed} {a : Action} {l : Label} {limit : ℚ} {coin : Asset}
  {tr : List (Lib.Taken CoinFeed Action)}

/-- The records are checked against the client's threshold. -/
structure Checked (limit : ℚ) (f : CoinFeed) : Prop where
  threshold : f.subscription.staleThreshold = limit
  client : f.subscription.client.Sound limit

/-- Only `set_coins` and a price that is received touch the records. -/
theorem next_subscription (h : f.next l = some f') :
    f'.subscription = f.subscription ∨ (∃ coins, f'.subscription = f.subscription.setCoins coins) ∨
      ∃ coin price now, l = .receive (some (coin, price)) now ∧
        f'.subscription = f.subscription.updateRecord coin price now := by
  cases l with
  | setCoins coins =>
    cases h
    exact .inr (.inl ⟨coins, rfl⟩)
  | start =>
    simp only [next, Option.ite_none_left_eq_some, Option.some.injEq] at h
    obtain ⟨-, rfl⟩ := h
    exact .inl rfl
  | stop =>
    cases h
    exact .inl rfl
  | enter =>
    cases hp : f.phase <;> simp only [next, hp] at h <;> try cases h
    split_ifs at h <;> cases h <;> exact .inl rfl
  | connected =>
    cases hp : f.phase <;> simp only [next, hp] at h <;> cases h
    exact .inl rfl
  | turn now =>
    cases hp : f.phase <;> simp only [next, hp] at h <;> try cases h
    split_ifs at h <;> cases h <;> exact .inl rfl
  | send =>
    obtain ⟨c, now, round, message, rest, -, rfl⟩ := next_send h
    exact .inl rfl
  | sent =>
    obtain ⟨c, now, round, -, rfl⟩ := next_sent h
    exact .inl rfl
  | receive price now =>
    cases hp : f.phase <;> simp only [next, hp] at h <;> cases h
    cases price with
    | none => exact .inl rfl
    | some quoted => exact .inr (.inr ⟨quoted.1, quoted.2, now, rfl, rfl⟩)
  | fail =>
    cases hp : f.phase <;> simp only [next, hp] at h <;> cases h <;> exact .inl rfl

theorem Checked.next (h : f.Checked limit) (hnext : f.next l = some f') : f'.Checked limit := by
  obtain ⟨rfl, hclient⟩ := h
  obtain hsame | ⟨coins, hset⟩ | ⟨coin, price, now, -, hset⟩ := next_subscription hnext
  · exact ⟨by rw [hsame], by rwa [hsame]⟩
  · exact ⟨by rw [hset]; rfl, by rw [hset]; exact CoinSubscription.sound_setCoins hclient coins⟩
  · exact ⟨by rw [hset]; rfl, by rw [hset]; exact CoinSubscription.sound_updateRecord hclient coin price now⟩

/-- A check of the coin's record keeps what passes; any other action keeps all. -/
def Action.keeps (limit : ℚ) (coin : Asset) (a : Action) (q : ℚ × Time) : Bool :=
  match a.checkedAt coin with
  | none => true
  | some now => CoinPriceRecord.passes limit now q

/-- What a label leaves of the coin's quote. -/
theorem quote_next (hnext : f.next l = some f') :
    f'.subscription.client.quote coin = (l.quote coin).or (f.subscription.client.quote coin) := by
  by_cases hl : ∃ c price now, l = .receive (some (c, price)) now
  · obtain ⟨c, price, now, rfl⟩ := hl
    cases hp : f.phase <;> simp only [CoinFeed.next, hp] at hnext <;> cases hnext
    dsimp only
    rw [CoinSubscription.quote_updateRecord, Label.quote]
    split_ifs <;> rfl
  · have hnone : l.quote coin = none := by
      unfold Label.quote
      split
      · exact absurd ⟨_, _, _, rfl⟩ hl
      · rfl
    rw [hnone, Option.none_or]
    obtain hsame | ⟨coins, hset⟩ | ⟨c, price, now, hl', -⟩ := next_subscription hnext
    · rw [hsame]
    · rw [hset, CoinSubscription.quote_setCoins]
    · exact absurd ⟨c, price, now, hl'⟩ hl

/-- **The record of a coin is a register**: a quote of the coin sets it, a check clears what has become too old. -/
theorem quote_step (coin : Asset) (h : f.Checked limit) (hstep : ActStep f a f') : f'.Checked limit ∧
    f'.subscription.client.quote coin =
      (a.quote coin).or ((f.subscription.client.quote coin).filter (a.keeps limit coin)) := by
  have hall : ∀ q : Option (ℚ × Time), q.filter (fun _ => true) = q := fun q => by cases q <;> rfl
  unfold ActStep at hstep
  cases a with
  | loop l =>
    simp only [act, Option.ite_none_left_eq_some] at hstep
    obtain ⟨hl, hnext⟩ := hstep
    have hnone : l.quote coin = none := by
      unfold Label.quote
      split
      · exact absurd rfl hl
      · rfl
    refine ⟨h.next hnext, ?_⟩
    rw [quote_next hnext, hnone]
    exact (congrArg _ (hall _)).symm
  | frame m now =>
    have hnext : f.next (frameLabel m now) = some f' := by
      cases hp : f.phase <;> simp only [act, hp] at hstep <;> first | exact hstep | cases hstep
    refine ⟨h.next hnext, ?_⟩
    rw [quote_next hnext]
    exact congrArg _ (hall _).symm
  | read c now =>
    cases hstep
    refine ⟨⟨h.threshold, h.client.getPrice c now⟩, ?_⟩
    have hnone : (Action.read c now).quote coin = none := rfl
    rw [hnone, Option.none_or]
    refine (h.client.quote_getPrice c coin now).trans ?_
    unfold Action.keeps Action.checkedAt
    by_cases hc : c = coin
    · simp only [if_pos hc]
    · simp only [if_neg hc]
      exact (hall _).symm
  | readAll now =>
    cases hstep
    exact ⟨⟨h.threshold, h.client.checkAll now⟩, h.client.quote_checkAll coin now⟩

/-- A frame quotes the coin if its loop turn takes a price for it. -/
theorem quote_frame_iff {m : PriceFrame} {t now : Time} {price : ℚ} :
    (frameLabel m now).quote coin = some (price, t) ↔ m.quote = .ok (some (coin, price)) ∧ now = t := by
  unfold frameLabel
  rcases m.quote with e | _ | ⟨c, p⟩
  · simp [Label.quote]
  · simp [Label.quote]
  · by_cases hc : c = coin <;> simp [Label.quote, hc]

/-- The action does not quote the coin, and does not find what was quoted at `t` older than `limit`. -/
structure Action.Leaves (limit : ℚ) (coin : Asset) (t : Time) (a : Action) : Prop where
  unquoted : ∀ m now price, a = .frame m now → m.quote ≠ .ok (some (coin, price))
  passes : ∀ now, a.checkedAt coin = some now → now - t ≤ limit

theorem Action.quote_eq_some_iff {price : ℚ} {t : Time} :
    a.quote coin = some (price, t) ↔ ∃ m, a = .frame m t ∧ m.quote = .ok (some (coin, price)) := by
  constructor
  · intro h
    cases a with
    | frame m now =>
      obtain ⟨hm, rfl⟩ := quote_frame_iff.mp h
      exact ⟨m, rfl, hm⟩
    | _ => cases h
  · rintro ⟨m, rfl, hm⟩
    exact quote_frame_iff.mpr ⟨hm, rfl⟩

theorem Action.quote_eq_none_iff :
    a.quote coin = none ↔ ∀ m now price, a = .frame m now → m.quote ≠ .ok (some (coin, price)) := by
  rw [Option.eq_none_iff_forall_ne_some, Prod.forall]
  simp only [Ne, quote_eq_some_iff]
  constructor
  · rintro h m now price rfl hm
    exact h price now ⟨m, rfl, hm⟩
  · rintro h price t ⟨m, ha, hm⟩
    exact h m t price ha hm

theorem Action.keeps_iff {t : Time} {price : ℚ} :
    a.keeps limit coin (price, t) = true ↔ ∀ now, a.checkedAt coin = some now → now - t ≤ limit := by
  unfold keeps
  cases a.checkedAt coin with
  | none => simp
  | some now => simp [CoinPriceRecord.passes]

/-- **The price that is handed out** is the one of the last frame that quotes the coin, as long as neither this read
nor any check since then finds it too old. -/
theorem getUsdPrice_iff (hfresh : f₀.subscription.client.records = .empty)
    (hrun : Lib.Run ActStep f₀ tr f) {price : ℚ} (hprice : price ≠ 0) {now : Time} :
    f.subscription.client.getUsdPrice coin now = price ↔ ∃ before x after m t, tr = before ++ x :: after ∧
      x.label = .frame m t ∧ m.quote = .ok (some (coin, price)) ∧
      (∀ y ∈ after, y.label.Leaves f₀.subscription.staleThreshold coin t) ∧
      now - t ≤ f₀.subscription.staleThreshold := by
  have hchecked : f₀.Checked f₀.subscription.staleThreshold := by
    refine ⟨rfl, fun k r hr => ?_⟩
    rw [hfresh, Lib.Table.get?_empty] at hr
    cases hr
  have hnone : f₀.subscription.client.quote coin = none := by
    rw [CoinPriceClient.quote, hfresh]
    rfl
  have hstep : ∀ g a g', g.Checked f₀.subscription.staleThreshold → ActStep g a g' → _ :=
    fun g a g' hg => quote_step coin hg
  have hend := (hrun.invariant (fun g a g' hg h => (hstep g a g' hg h).1) hchecked).1
  rw [hend.client.getUsdPrice_eq_iff hprice]
  simp only [hrun.register_iff hstep hchecked hnone]
  constructor
  · rintro ⟨t, ⟨before, x, after, htr, hx, hafter⟩, hage⟩
    obtain ⟨m, hframe, hm⟩ := Action.quote_eq_some_iff.mp hx
    refine ⟨before, x, after, m, t, htr, hframe, hm, fun y hy => ?_, hage⟩
    obtain ⟨hunquoted, hkeeps⟩ := hafter y hy
    exact ⟨Action.quote_eq_none_iff.mp hunquoted, Action.keeps_iff.mp hkeeps⟩
  · rintro ⟨before, x, after, m, t, htr, hx, hm, hafter, hage⟩
    refine ⟨t, ⟨before, x, after, htr, ?_, fun y hy => ?_⟩, hage⟩
    · exact Action.quote_eq_some_iff.mpr ⟨m, hx, hm⟩
    · obtain ⟨hunquoted, hpasses⟩ := hafter y hy
      exact ⟨Action.quote_eq_none_iff.mpr hunquoted, Action.keeps_iff.mpr hpasses⟩

/-- A frame for BTC, in the format of a data array. -/
def bitcoinFrame (price : ℚ) : PriceFrame :=
  .payload { symbol := .text "btcusdt", data := .list [.dict (.num 59000) .none, .dict (.num 0) (.numStr price)] }

/-- A price that comes in the first round, a look at it, a frame that cannot be read, and a new connection. -/
def quotedOnce : List Action :=
  (firstRound.map .loop) ++ [.frame (bitcoinFrame 60000) 2, .read "BTC" 10, .loop (.turn 10), .loop .send,
    .loop .sent, .frame .garbled 11, .loop .enter]

theorem getUsdPrice_quoted : ∃ f tr, quotedOnce.foldlM act {} = some f ∧ Lib.Run ActStep {} tr f ∧
    f.reconnectCount = 1 ∧ f.subscription.client.getUsdPrice "BTC" 17 = 60000 ∧
    ∃ before x after m t, tr = before ++ x :: after ∧ x.label = .frame m t ∧ m.quote = .ok (some ("BTC", 60000)) ∧
      (∀ y ∈ after, y.label.Leaves 15 "BTC" t) ∧ 17 - t ≤ 15 := by
  have hend : (quotedOnce.foldlM act {}).map
      (fun f => (f.reconnectCount, f.subscription.client.getUsdPrice "BTC" 17)) = some (1, 60000) := by
    decide +kernel
  obtain ⟨f, hf, hend⟩ := Option.map_eq_some_iff.mp hend
  obtain ⟨hcount, hprice⟩ := Prod.mk.inj hend
  obtain ⟨tr, hrun⟩ := Lib.Run.of_foldlM hf
  exact ⟨f, tr, hf, hrun, hcount, hprice, (getUsdPrice_iff rfl hrun (by norm_num)).mp hprice⟩

end CoinFeed

end Polyfast
