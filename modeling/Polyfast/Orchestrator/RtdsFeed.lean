import Polyfast.MarketData.RtdsLoop
import Polyfast.Orchestrator.SubscriptionManager

/-!
# The subscription manager and the RTDS client together

`apply_diff` tells the client which tokens the bridge routes; `run_forever` sends them again on every new connection.

* `RtdsFeed.Step`: a diff is applied, or the client goes on;
* `refines`: for the manager that is what it was taken for, a connection that comes and goes;
* `asked_for_routed`: the server has been asked for the tokens that are routed.
-/

namespace Polyfast

namespace SubscriptionManager

variable (m : SubscriptionManager) (eventMap : EventMap)

/-- `apply_diff` up to the resubscription, and whether anything has changed. -/
def applyAssets (diff : SubscriptionDiff) : SubscriptionManager × Bool :=
  let m := diff.toSubscribe.foldl (fun m asset => m.takeOn eventMap asset) m
  let m := diff.toUnsubscribe.foldl drop m
  let (m, rotated) := diff.unchanged.foldl (refreshAll eventMap) (m, false)
  (m, !diff.toSubscribe.isEmpty || !diff.toUnsubscribe.isEmpty || rotated)

theorem applyDiff_eq (diff : SubscriptionDiff) (sent : Bool) : m.applyDiff eventMap diff sent =
    if (m.applyAssets eventMap diff).2 then (m.applyAssets eventMap diff).1.resubscribe sent
    else (m.applyAssets eventMap diff).1 :=
  rfl

variable {m eventMap}

theorem rtdsClient_foldl_takeOn (l : List Asset) :
    (l.foldl (fun m asset => m.takeOn eventMap asset) m).rtdsClient = m.rtdsClient := by
  induction l generalizing m with
  | nil => rfl
  | cons x l ih => exact ih

theorem rtdsClient_foldl_drop (l : List Asset) : (l.foldl drop m).rtdsClient = m.rtdsClient := by
  induction l generalizing m with
  | nil => rfl
  | cons x l ih => exact ih

theorem rtdsClient_foldl_refreshAll (l : List Asset) (acc : SubscriptionManager × Bool) :
    (l.foldl (refreshAll eventMap) acc).1.rtdsClient = acc.1.rtdsClient := by
  induction l generalizing acc with
  | nil => rfl
  | cons x l ih =>
    rw [List.foldl_cons, ih]
    change (acc.1.refresh eventMap x).rtdsClient = _
    unfold refresh
    split_ifs <;> rfl

theorem rtdsClient_applyAssets (diff : SubscriptionDiff) :
    (m.applyAssets eventMap diff).1.rtdsClient = m.rtdsClient := by
  unfold applyAssets
  dsimp only
  rw [rtdsClient_foldl_refreshAll, rtdsClient_foldl_drop, rtdsClient_foldl_takeOn]

end SubscriptionManager

namespace RtdsLink

variable {r r' : RtdsLink}

theorem client_subscribe (tokenIds : List TokenId) (sent : Bool) :
    (r.subscribe tokenIds sent).client = (r.client.subscribe tokenIds sent).1 := by
  unfold RtdsLink.subscribe RTDSClient.subscribe
  split_ifs <;> rfl

theorem client_track (tokenIds : List TokenId) (sent : Bool) : (r.track tokenIds sent).client =
    let client := r.client.updateSubscription tokenIds
    if client.isConnected then (client.subscribe tokenIds sent).1 else client := by
  unfold track
  dsimp only
  split_ifs
  · exact client_subscribe (r := { r with client := r.client.updateSubscription tokenIds }) tokenIds sent
  · rfl

theorem tokens_resubscribe (sent : Bool) :
    (r.resubscribe sent).client.subscribedTokens = r.client.subscribedTokens := by
  unfold RtdsLink.resubscribe
  split_ifs
  · rfl
  · rw [client_subscribe]
    exact r.client.subscribedTokens_subscribe sent

theorem tokens_head : r.head.1.client.subscribedTokens = r.client.subscribedTokens := by
  unfold head
  split_ifs <;> try rfl
  cases r.client.state <;> rfl

theorem tokens_receive : r.receive.1.client.subscribedTokens = r.client.subscribedTokens := by
  unfold receive
  split_ifs
  · rfl
  · exact tokens_head

theorem tokens_subscribeFresh (sent : Bool) :
    (r.subscribeFresh sent).1.client.subscribedTokens = r.client.subscribedTokens := by
  unfold subscribeFresh
  split_ifs
  · exact tokens_receive
  · exact tokens_receive
  · exact tokens_resubscribe sent

/-- Only `update_subscription` and `subscribe` of other tasks change what is tracked. -/
theorem tokens_turn {spot : Spot} {event : Event} {out : RtdsLink × Spot} (hturn : r.turn spot event = some out) :
    out.1.client.subscribedTokens = r.client.subscribedTokens := by
  unfold turn at hturn
  split at hturn
  · cases hturn
    exact tokens_head
  · cases hturn
    exact tokens_subscribeFresh _
  · cases hturn
    rfl
  · cases hturn
    rfl
  · cases hturn
    split_ifs
    · rfl
    · exact tokens_resubscribe _
  · cases hturn
    rfl
  · cases hturn
    exact tokens_subscribeFresh _
  · cases hturn
    exact tokens_receive
  · cases hturn
    rfl
  · cases hturn
    split_ifs
    · exact tokens_head
    · exact tokens_head
  · cases hturn
    exact tokens_head
  · cases hturn

theorem tokens_step {l : Label} (hstep : Step r l r') (hl : ∀ tokenIds sent, l ≠ .track tokenIds sent) :
    r'.client.subscribedTokens = r.client.subscribedTokens := by
  unfold Step at hstep
  cases l with
  | start =>
    cases hstep
    rfl
  | loop i event =>
    obtain ⟨spot, out, -, hturn, rfl⟩ := next_loop hstep
    exact tokens_turn hturn
  | track tokenIds sent => exact absurd rfl (hl tokenIds sent)
  | disconnect =>
    cases hstep
    split_ifs <;> rfl
  | closed =>
    simp only [next, Option.ite_none_left_eq_some, Option.some.injEq] at hstep
    obtain ⟨-, rfl⟩ := hstep
    rfl

end RtdsLink

/-- The manager, and the client that it tells. -/
structure RtdsFeed where
  manager : SubscriptionManager := {}
  link : RtdsLink := {}

namespace RtdsFeed

variable (f : RtdsFeed)

/-- The client is the manager's. -/
def withLink (link : RtdsLink) : RtdsFeed where
  manager := { f.manager with rtdsClient := link.client }
  link := link

/-- `apply_diff` with the diff for the assets. -/
def apply (assets : List Asset) (eventMap : EventMap) (sent : Bool) : RtdsFeed :=
  let applied := f.manager.applyAssets eventMap (f.manager.computeDiff assets)
  let f := { f with manager := applied.1 }
  if applied.2 then f.withLink (f.link.track applied.1.bridge.registeredTokenIds sent) else f

inductive Label
  | apply (assets : List Asset) (eventMap : EventMap) (sent : Bool)
  | link (l : RtdsLink.Label)

/-- The client is told its tokens by the manager only. -/
def next : Label → Option RtdsFeed
  | .apply assets eventMap sent => some (f.apply assets eventMap sent)
  | .link (.track _ _) => none
  | .link l => (f.link.next l).map f.withLink

def Step (f : RtdsFeed) (l : Label) (f' : RtdsFeed) : Prop := f.next l = some f'

/-- The manager's client is the one that is connected. -/
def Coherent (f : RtdsFeed) : Prop := f.manager.rtdsClient = f.link.client

/-- Nothing is subscribed, and `run_forever` has not been called. -/
structure Fresh (f : RtdsFeed) : Prop where
  manager : f.manager = {}
  link : f.link.Fresh

variable {f f' : RtdsFeed} {l : Label} {assets : List Asset} {eventMap : EventMap} {sent : Bool}

theorem Coherent.apply_manager (h : f.Coherent) :
    (f.apply assets eventMap sent).manager = f.manager.applyDiff eventMap (f.manager.computeDiff assets) sent := by
  rw [SubscriptionManager.applyDiff_eq]
  unfold apply
  dsimp only
  split_ifs
  · have hclient : (f.manager.applyAssets eventMap (f.manager.computeDiff assets)).1.rtdsClient = f.link.client :=
      (SubscriptionManager.rtdsClient_applyAssets _).trans h
    rw [withLink, SubscriptionManager.resubscribe, hclient, RtdsLink.client_track]
  · rfl

/-- A diff is applied, or the client goes on. -/
theorem step_cases (h : Step f l f') :
    (∃ assets eventMap sent, l = .apply assets eventMap sent ∧ f' = f.apply assets eventMap sent) ∨
      ∃ l' link', l = .link l' ∧ (∀ tokenIds sent, l' ≠ .track tokenIds sent) ∧ f.link.Step l' link' ∧
        f' = f.withLink link' := by
  unfold Step at h
  cases l with
  | apply assets eventMap sent => exact .inl ⟨assets, eventMap, sent, rfl, (Option.some.inj h).symm⟩
  | link l' =>
    have hlink : (∀ tokenIds sent, l' ≠ .track tokenIds sent) ∧ (f.link.next l').map f.withLink = some f' := by
      cases l' with
      | track tokenIds sent => cases h
      | _ => exact ⟨by simp, h⟩
    obtain ⟨link', hstep, hf'⟩ := Option.map_eq_some_iff.mp hlink.2
    exact .inr ⟨l', link', rfl, hlink.1, hstep, hf'.symm⟩

theorem Coherent.apply (h : f.Coherent) : (f.apply assets eventMap sent).Coherent := by
  unfold RtdsFeed.apply
  dsimp only
  split_ifs
  · rfl
  · exact (SubscriptionManager.rtdsClient_applyAssets _).trans h

/-- **Refinement.** What the client does is, for the manager, a connection that comes and goes. -/
theorem refines {f₀ : RtdsFeed} {tr : List (Lib.Taken RtdsFeed Label)} (h₀ : f₀.Coherent)
    (hrun : Lib.Run Step f₀ tr f) :
    ∃ m tr', Lib.Run SubscriptionManager.Step f₀.manager tr' m ∧ f.Coherent ∧ f.manager = m := by
  refine hrun.simulate (R := fun f m => f.Coherent ∧ f.manager = m) ?_ ⟨h₀, rfl⟩
  rintro f l f' m ⟨hf, rfl⟩ hstep
  rcases step_cases hstep with ⟨assets, eventMap, sent, rfl, rfl⟩ | ⟨l, link', rfl, hl, hlink, rfl⟩
  · exact ⟨_, _, .single (.apply f.manager assets eventMap sent), hf.apply, hf.apply_manager⟩
  · refine ⟨_, _, .single (.connection f.manager link'.client.state link'.client.hasWs), rfl, ?_⟩
    have htokens : link'.client.subscribedTokens = f.manager.rtdsClient.subscribedTokens :=
      (RtdsLink.tokens_step hlink hl).trans (congrArg RTDSClient.subscribedTokens hf.symm)
    have hclient : RTDSClient.mk link'.client.state link'.client.hasWs f.manager.rtdsClient.subscribedTokens =
        link'.client := by
      rw [← htokens]
    rw [withLink, ← hclient]

theorem link_sound (h : f.link.Sound) (hstep : Step f l f') : f'.link.Sound := by
  rcases step_cases hstep with ⟨assets, eventMap, sent, rfl, rfl⟩ | ⟨l, link', rfl, -, hlink, rfl⟩
  · unfold apply
    dsimp only
    split_ifs
    · exact h.step (l := .track _ sent) rfl
    · exact h
  · exact h.step hlink

/-- **The server has been asked for what is routed.** However the connection fares and whatever is applied meanwhile:
on an open connection whose last subscribe message was not lost, the server has been asked for exactly the tokens that
the bridge routes, all of them tokens of the event that their asset is subscribed for; only where no token is routed any
more does it keep what it was asked for before. -/
theorem asked_for_routed {f₀ : RtdsFeed} {tr : List (Lib.Taken RtdsFeed Label)} (h₀ : f₀.Fresh)
    (hrun : Lib.Run Step f₀ tr f) (hconnected : f.link.client.isConnected = true) (hlost : f.link.lost = false) :
    (f.link.asked.getD [] = f.manager.bridge.registeredTokenIds ↔
        (f.manager.bridge.registeredTokenIds = [] → f.link.asked = none)) ∧
      (f.manager.bridge.registeredTokenIds ≠ [] → ∀ tokenId ∈ f.link.asked.getD [],
        ∃ route ∈ f.manager.bridge.tokenRoutes.records, route.tokenId = tokenId ∧
          f.manager.activeEvents.get? route.asset = some route.conditionId) := by
  have hcoherent : f₀.Coherent := by
    rw [Coherent, h₀.manager, h₀.link.client]
  obtain ⟨m, tr', hmanager, hf, rfl⟩ := refines hcoherent hrun
  rw [h₀.manager] at hmanager
  have hrepresents := (hmanager.invariant (I := SubscriptionManager.Represents) (fun _ _ _ hm hs => hm.step hs)
    SubscriptionManager.represents_empty).1
  have hsound := (hrun.invariant (I := fun f => f.link.Sound) (fun _ _ _ h hstep => link_sound h hstep)
    h₀.link.sound).1
  have htokens : f.link.client.subscribedTokens = f.manager.bridge.registeredTokenIds := by
    rw [← hf]
    exact hrepresents.tracks
  refine ⟨?_, fun hne tokenId hmem => ?_⟩
  · rw [← htokens]
    exact hsound.core.asked_iff hconnected hlost
  · have hasked := hsound.core.current hconnected hlost (htokens ▸ hne)
    rw [hasked, Option.getD_some, htokens, WSPriceBridge.registeredTokenIds, ← Lib.Table.map_key_records] at hmem
    obtain ⟨route, hroute, hid⟩ := List.mem_map.mp hmem
    exact ⟨route, hroute, hid, hrepresents.routed.route route hroute⟩

/-- The state after the labels, if these can happen one after the other. -/
def after (labels : List Label) : Option RtdsFeed := labels.foldlM next {}

/-- The connection drops, and BTC comes to its second event before there is another one. -/
def rotatedWhileOff : List Label :=
  [.apply ["BTC"] (SubscriptionManager.oneCoin "first" "1" "2") true, .link .start, .link (.loop 0 .begin),
    .link (.loop 0 (.connected true)), .link (.loop 0 (.resumed true)), .link (.loop 0 .dropped),
    .apply ["BTC"] (SubscriptionManager.oneCoin "second" "3" "4") true, .link (.loop 0 (.connected true))]

theorem asked_for_rotated : ∃ f, after rotatedWhileOff = some f ∧ f.link.asked.getD [] = ["3", "4"] := by
  have hstate : (after rotatedWhileOff).map (fun f => (f.link.client.isConnected, f.link.lost,
      f.manager.bridge.registeredTokenIds)) = some (true, false, ["3", "4"]) := by
    decide +kernel
  obtain ⟨f, hf, hstate⟩ := Option.map_eq_some_iff.mp hstate
  simp only [Prod.mk.injEq] at hstate
  obtain ⟨hconnected, hlost, htokens⟩ := hstate
  obtain ⟨tr, hrun⟩ := Lib.Run.of_foldlM hf
  have hasked := (asked_for_routed ⟨rfl, ⟨rfl, rfl, rfl⟩⟩ hrun hconnected hlost).1
  rw [htokens] at hasked
  exact ⟨f, hf, hasked.mpr fun hnil => by cases hnil⟩

end RtdsFeed

end Polyfast
