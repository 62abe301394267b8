import Polyfast.Lib.Run
import Polyfast.MarketData.Subscriptions

/-!
# The rounds of the coin price client

`_persistent_loop` makes its subscribe messages when it is entered, before it connects, and sends these in every round
as long as the connection lasts. `set_coins` is called from another task, at any await of the loop.

* `CoinFeed`, `Step`: the client and its loop, cut at the awaits;
* `Round`: what was sent in a round, the coins that were tracked when it began, and those the messages were made for;
* `Sound.step`: every round sends the messages of the connection;
* `rounds_cover_iff`: when the rounds cover the tracked coins.
-/

namespace Polyfast

/-- `COIN_SYMBOLS`. -/
def coinSymbols : List (Asset × String) :=
  [("BTC", "btcusdt"), ("ETH", "ethusdt"), ("SOL", "solusdt"), ("DOGE", "dogeusdt"), ("XRP", "xrpusdt"),
    ("BNB", "bnbusdt")]

/-- `COIN_SYMBOLS.get(coin)`. -/
def coinSymbol (coin : Asset) : Option String := (coinSymbols.find? (fun e => e.1 = coin)).map Prod.snd

/-- A subscribe message; the filter is for one symbol. -/
structure SubscribeMessage where
  action : String := "subscribe"
  topic : String := "crypto_prices"
  type : String := "*"
  symbol : String
  deriving DecidableEq

/-- The messages for the coins that have a symbol. -/
def subscribeMessages (coins : List Asset) : List SubscribeMessage :=
  coins.filterMap (fun coin => (coinSymbol coin).map fun symbol => { symbol := symbol })

/-- A round of messages. -/
structure Round where
  /-- The coins when the loop was entered. -/
  entered : List Asset
  /-- The coins when the round began. -/
  tracked : List Asset
  sent : List SubscribeMessage := []
  deriving DecidableEq

namespace Round

variable (r : Round)

/-- What is sent is for the tracked coins that have a symbol, and for nothing else. -/
def Covers : Prop :=
  ∀ symbol, (∃ message ∈ r.sent, message.symbol = symbol) ↔ ∃ coin ∈ r.tracked, coinSymbol coin = some symbol

/-- Of the coins that have a symbol the same were tracked when the loop was entered and when the round began. -/
def Steady : Prop := ∀ coin, (coinSymbol coin).isSome = true → (coin ∈ r.entered ↔ coin ∈ r.tracked)

end Round

/-- A connection of `_persistent_loop`. -/
structure Connection where
  entered : List Asset
  subMsgs : List SubscribeMessage
  lastResub : Time := 0
  deriving DecidableEq

/-- Where the loop is. -/
inductive Phase
  | idle
  | connecting (c : Connection)
  | looping (c : Connection)
  | sending (c : Connection) (now : Time) (round : Round) (rest : List SubscribeMessage)
  | receiving (c : Connection)
  deriving DecidableEq

/-- The coin price client with its loop. -/
structure CoinFeed where
  subscription : CoinSubscription := {}
  resubInterval : ℚ := 0.15
  running : Bool := false
  phase : Phase := .idle
  resubCount : ℕ := 0
  reconnectCount : ℕ := 0
  /-- The rounds that were sent. -/
  rounds : List Round := []

/-- `_update_record`. -/
def CoinSubscription.updateRecord (s : CoinSubscription) (coin : Asset) (price : ℚ) (now : Time) : CoinSubscription :=
  let r := (s.client.records.get? coin).getD { coin := coin, staleThresholdSec := s.staleThreshold }
  { s with client := { s.client with
      records := s.client.records.put { r with usdPrice := price, status := .fresh, updatedAt := some now } } }

namespace CoinFeed

variable (f : CoinFeed)

inductive Label
  | setCoins (coins : List Asset)
  | start
  /-- The cancelled task is awaited. -/
  | stop
  /-- `_persistent_loop` is called. -/
  | enter
  | connected
  /-- The top of the inner loop. -/
  | turn (now : Time)
  | send
  | sent
  /-- A message or a timeout; a message may bring a price. -/
  | receive (price : Option (Asset × ℚ)) (now : Time)
  /-- An exception ends the connection. -/
  | fail

/-- What happens between two awaits, if it can happen now. -/
def next : Label → Option CoinFeed
  | .setCoins coins => some { f with subscription := f.subscription.setCoins coins }
  | .start => if f.running then none else some { f with running := true }
  | .stop => some { f with running := false, phase := .idle }
  | .enter =>
    match f.phase with
    | .idle =>
      if !f.running then none
      else if f.subscription.coins.isEmpty then some f
      else
        let c : Connection :=
          { entered := f.subscription.coins, subMsgs := subscribeMessages f.subscription.coins }
        some { f with phase := .connecting c }
    | _ => none
  | .connected =>
    match f.phase with
    | .connecting c => some { f with phase := .looping c }
    | _ => none
  | .turn now =>
    match f.phase with
    | .looping c =>
      if now - c.lastResub ≥ f.resubInterval then
        some { f with phase := .sending c now { entered := c.entered, tracked := f.subscription.coins } c.subMsgs }
      else some { f with phase := .receiving c }
    | _ => none
  | .send =>
    match f.phase with
    | .sending c now round (message :: rest) =>
      some { f with phase := .sending c now { round with sent := round.sent ++ [message] } rest }
    | _ => none
  | .sent =>
    match f.phase with
    | .sending c now round [] =>
      some { f with phase := .receiving { c with lastResub := now }, resubCount := f.resubCount + 1
                    rounds := f.rounds ++ [round] }
    | _ => none
  | .receive price now =>
    match f.phase with
    | .receiving c =>
      some { f with
        phase := .looping c
        subscription := match price with
          | some (coin, price) => f.subscription.updateRecord coin price now
          | none => f.subscription }
    | _ => none
  | .fail =>
    match f.phase with
    | .idle => none
    | _ => some { f with phase := .idle, reconnectCount := f.reconnectCount + 1 }

def Step (f : CoinFeed) (l : Label) (f' : CoinFeed) : Prop := f.next l = some f'

/-- The loop has not been entered. -/
structure Fresh (f : CoinFeed) : Prop where
  phase : f.phase = .idle
  rounds : f.rounds = []

end CoinFeed

/-! ### Every round sends the messages of the connection -/

/-- The connection sends the messages for the coins that it was entered with. -/
def Connection.Made (c : Connection) : Prop := c.subMsgs = subscribeMessages c.entered

/-- The round sent the messages for the coins that its connection was entered with. -/
def Round.Made (r : Round) : Prop := r.sent = subscribeMessages r.entered

/-- What is sent and what is left of a round are the messages of the connection. -/
def Phase.Made : Phase → Prop
  | .idle => True
  | .connecting c => c.Made
  | .looping c => c.Made
  | .sending c _ round rest => c.Made ∧ round.entered = c.entered ∧ round.sent ++ rest = c.subMsgs
  | .receiving c => c.Made

namespace CoinFeed

/-- The connection and the rounds are made as `_persistent_loop` makes them. -/
structure Sound (f : CoinFeed) : Prop where
  phase : f.phase.Made
  rounds : ∀ round ∈ f.rounds, round.Made

variable {f f' : CoinFeed} {l : Label}

theorem Fresh.sound (h : f.Fresh) : f.Sound where
  phase := by
    rw [h.phase]
    trivial
  rounds := by
    intro round hround
    rw [h.rounds] at hround
    cases hround

/-- One message of the round is sent. -/
theorem next_send (h : f.next .send = some f') : ∃ c now round message rest,
    f.phase = .sending c now round (message :: rest) ∧
      f' = { f with phase := .sending c now { round with sent := round.sent ++ [message] } rest } := by
  cases hp : f.phase with
  | sending c now round rest =>
    cases rest with
    | nil =>
      simp only [next, hp] at h
      cases h
    | cons message rest =>
      simp only [next, hp] at h
      cases h
      exact ⟨c, now, round, message, rest, rfl, rfl⟩
  | _ =>
    simp only [next, hp] at h
    cases h

/-- The round is over when nothing of it is left. -/
theorem next_sent (h : f.next .sent = some f') : ∃ c now round, f.phase = .sending c now round [] ∧
    f' = { f with phase := .receiving { c with lastResub := now }, resubCount := f.resubCount + 1
                  rounds := f.rounds ++ [round] } := by
  cases hp : f.phase with
  | sending c now round rest =>
    cases rest with
    | nil =>
      simp only [next, hp] at h
      cases h
      exact ⟨c, now, round, rfl, rfl⟩
    | cons message rest =>
      simp only [next, hp] at h
      cases h
  | _ =>
    simp only [next, hp] at h
    cases h

theorem Sound.step (hs : f.Sound) (h : Step f l f') : f'.Sound := by
  obtain ⟨hphase, hrounds⟩ := hs
  unfold Step at h
  cases l with
  | setCoins coins =>
    cases h
    exact ⟨hphase, hrounds⟩
  | start =>
    simp only [next, Option.ite_none_left_eq_some, Option.some.injEq] at h
    obtain ⟨-, rfl⟩ := h
    exact ⟨hphase, hrounds⟩
  | stop =>
    cases h
    exact ⟨trivial, hrounds⟩
  | enter =>
    cases hp : f.phase <;> simp only [next, hp] at h <;> try cases h
    split_ifs at h
    · cases h
      exact ⟨hphase, hrounds⟩
    · cases h
      exact ⟨rfl, hrounds⟩
  | connected =>
    cases hp : f.phase <;> simp only [next, hp] at h <;> cases h
    rw [hp] at hphase
    exact ⟨hphase, hrounds⟩
  | turn now =>
    cases hp : f.phase <;> simp only [next, hp] at h <;> try cases h
    rw [hp] at hphase
    split_ifs at h
    · cases h
      exact ⟨⟨hphase, rfl, rfl⟩, hrounds⟩
    · cases h
      exact ⟨hphase, hrounds⟩
  | send =>
    obtain ⟨c, now, round, message, rest, hp, rfl⟩ := next_send h
    rw [hp] at hphase
    obtain ⟨hmade, hentered, hsent⟩ := hphase
    exact ⟨⟨hmade, hentered, by rw [← hsent]; simp⟩, hrounds⟩
  | sent =>
    obtain ⟨c, now, round, hp, rfl⟩ := next_sent h
    rw [hp] at hphase
    obtain ⟨hmade, hentered, hsent⟩ := hphase
    refine ⟨hmade, ?_⟩
    -- nothing is left, so all the messages of the connection are sent
    intro r hr
    obtain hr | hr := List.mem_append.mp hr
    · exact hrounds r hr
    · rw [List.mem_singleton.mp hr, Round.Made, hentered, ← hmade, ← hsent, List.append_nil]
  | receive price now =>
    cases hp : f.phase <;> simp only [next, hp] at h <;> cases h
    rw [hp] at hphase
    exact ⟨hphase, hrounds⟩
  | fail =>
    cases hp : f.phase <;> simp only [next, hp] at h <;> cases h <;> exact ⟨trivial, hrounds⟩

end CoinFeed

/-! ### When the rounds cover the tracked coins -/

theorem mem_of_coinSymbol {coin : Asset} {symbol : String} (h : coinSymbol coin = some symbol) :
    (coin, symbol) ∈ coinSymbols := by
  obtain ⟨e, he, rfl⟩ := Option.map_eq_some_iff.mp h
  have hcoin : e.1 = coin := by simpa using List.find?_some he
  rw [← hcoin]
  exact List.mem_of_find?_eq_some he

/-- No two coins have the same symbol. -/
theorem coinSymbol_injective {coin coin' : Asset} {symbol : String} (h : coinSymbol coin = some symbol)
    (h' : coinSymbol coin' = some symbol) : coin = coin' := by
  have hall : ∀ e ∈ coinSymbols, ∀ e' ∈ coinSymbols, e.2 = e'.2 → e.1 = e'.1 := by decide
  exact hall _ (mem_of_coinSymbol h) _ (mem_of_coinSymbol h') rfl

theorem exists_mem_subscribeMessages {coins : List Asset} {symbol : String} :
    (∃ message ∈ subscribeMessages coins, message.symbol = symbol) ↔
      ∃ coin ∈ coins, coinSymbol coin = some symbol := by
  constructor
  · rintro ⟨message, hmem, rfl⟩
    obtain ⟨coin, hcoin, hmap⟩ := List.mem_filterMap.mp hmem
    obtain ⟨symbol, hsymbol, rfl⟩ := Option.map_eq_some_iff.mp hmap
    exact ⟨coin, hcoin, hsymbol⟩
  · rintro ⟨coin, hcoin, hsymbol⟩
    exact ⟨_, List.mem_filterMap.mpr ⟨coin, hcoin, by rw [hsymbol, Option.map_some]⟩, rfl⟩

/-- What is asked for tells which of the coins that have a symbol it is asked for. -/
theorem Round.Made.covers_iff {r : Round} (h : r.Made) : r.Covers ↔ r.Steady := by
  unfold Round.Covers
  rw [h]
  simp only [exists_mem_subscribeMessages]
  constructor
  · intro hcovers coin hknown
    obtain ⟨symbol, hsymbol⟩ := Option.isSome_iff_exists.mp hknown
    have hmem : ∀ coins : List Asset, (∃ c ∈ coins, coinSymbol c = some symbol) ↔ coin ∈ coins := by
      intro coins
      constructor
      · rintro ⟨c, hc, hsame⟩
        rwa [← coinSymbol_injective hsame hsymbol]
      · exact fun hc => ⟨coin, hc, hsymbol⟩
    rw [← hmem, ← hmem]
    exact hcovers symbol
  · intro hsteady symbol
    constructor
    · rintro ⟨coin, hcoin, hsymbol⟩
      exact ⟨coin, (hsteady coin (Option.isSome_of_eq_some hsymbol)).mp hcoin, hsymbol⟩
    · rintro ⟨coin, hcoin, hsymbol⟩
      exact ⟨coin, (hsteady coin (Option.isSome_of_eq_some hsymbol)).mpr hcoin, hsymbol⟩

namespace CoinFeed

variable {f₀ f : CoinFeed} {tr : List (Lib.Taken CoinFeed Label)}

theorem Sound.run (hs : f₀.Sound) (hrun : Lib.Run Step f₀ tr f) : f.Sound :=
  (hrun.invariant (fun _ _ _ hs h => hs.step h) hs).1

/-- The rounds of a run are for the coins that were tracked when they began, as far as these are the coins that the
loop was entered with. -/
theorem rounds_cover_iff (h : f₀.Fresh) (hrun : Lib.Run Step f₀ tr f) :
    (∀ round ∈ f.rounds, round.Covers) ↔ ∀ round ∈ f.rounds, round.Steady := by
  have hmade := (h.sound.run hrun).rounds
  exact forall₂_congr fun round hround => (hmade round hround).covers_iff

/-- The state after the labels, if these can happen one after the other. -/
def after (labels : List Label) : Option CoinFeed := labels.foldlM next {}

/-- A connection for BTC that has sent its first round. -/
def firstRound : List Label := [.setCoins ["btc"], .start, .enter, .connected, .turn 1, .send, .sent]

/-- A price comes, and the next round is sent. -/
def keptCoins : List Label := firstRound ++ [.receive (some ("BTC", 60000)) 2, .turn 2, .send, .sent]

/-- ETH is added before the next round. -/
def addedCoin : List Label := firstRound ++ [.setCoins ["btc", "eth"], .receive none 2, .turn 2, .send, .sent]

theorem rounds_cover_kept :
    ∃ f, after keptCoins = some f ∧ f.rounds.length = 2 ∧ ∀ round ∈ f.rounds, round.Covers := by
  have hrounds : (after keptCoins).map rounds =
      some (List.replicate 2 ⟨["BTC"], ["BTC"], [{ symbol := "btcusdt" }]⟩) := by
    decide +kernel
  obtain ⟨f, hf, hrounds⟩ := Option.map_eq_some_iff.mp hrounds
  obtain ⟨tr, hrun⟩ := Lib.Run.of_foldlM hf
  refine ⟨f, hf, by rw [hrounds, List.length_replicate], (rounds_cover_iff ⟨rfl, rfl⟩ hrun).mpr ?_⟩
  intro round hround
  rw [hrounds] at hround
  rw [List.eq_of_mem_replicate hround]
  exact fun coin _ => Iff.rfl

/-- The second round does not ask for the coin that was added. -/
theorem added_coin_not_asked :
    ∃ f tr, after addedCoin = some f ∧ Lib.Run Step {} tr f ∧ ¬ ∀ round ∈ f.rounds, round.Covers := by
  have hrounds : (after addedCoin).map rounds = some
      [⟨["BTC"], ["BTC"], [{ symbol := "btcusdt" }]⟩, ⟨["BTC"], ["BTC", "ETH"], [{ symbol := "btcusdt" }]⟩] := by
    decide +kernel
  obtain ⟨f, hf, hrounds⟩ := Option.map_eq_some_iff.mp hrounds
  obtain ⟨tr, hrun⟩ := Lib.Run.of_foldlM hf
  refine ⟨f, tr, hf, hrun, ?_⟩
  intro hall
  rw [hrounds] at hall
  have hcovers := hall _ (List.mem_cons_of_mem _ List.mem_cons_self) "ethusdt"
  exact absurd (hcovers.mpr ⟨"ETH", by decide, by decide⟩) (by simp)

end CoinFeed

end Polyfast
