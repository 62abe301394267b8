import Polyfast.Domain.StartupGuard
import Polyfast.Lib.Run
import Polyfast.MarketData.Subscriptions

/-!
# The connection loop of the RTDS client

`run_forever` connects, subscribes, receives until the connection drops, and reconnects with a growing wait. Each call
of it stands at an await (`Spot`). `start` makes a new call, `stop` calls `disconnect`, which cancels none: after a stop
and a start an earlier call may still be there. Other tasks track tokens meanwhile.

* `RtdsLink.Step`: one await ends, a call is started, tokens are tracked, or the client is disconnected;
* `Sound.step`: what holds of the connection at every await;
* `asked_iff`: what the server has been asked for on an open connection;
* `stays_down_iff`: when a client that was disconnected stays so until the next start;
* `recovers`: the connection can always be had back.
-/

namespace Polyfast

/-- Where a call of `run_forever` stands. -/
inductive Spot
  /-- The task has not run yet. -/
  | created
  /-- `connect`, at `websockets.connect`. -/
  | connecting
  /-- `reconnect`, before the attempt. -/
  | sleeping (attempt : ℕ) (wait : ℚ)
  /-- `reconnect`, at `websockets.connect`. -/
  | retrying (attempt : ℕ)
  /-- `reconnect`, sending the tokens. -/
  | resubscribing
  /-- Sending the tokens after a connection. -/
  | subscribing
  | receiving
  /-- For the shutdown event, or for `reconnect_backoff_max` seconds. -/
  | waiting
  /-- Connected without a socket: the loop would turn without an await. -/
  | spinning
  | ended
  deriving DecidableEq

namespace Spot

/-- A connection is being made. -/
def opening : Spot → Bool
  | connecting | retrying _ => true
  | _ => false

end Spot

structure RtdsLink where
  client : RTDSClient := {}
  reconnectBackoffBase : ℚ := 2
  reconnectBackoffMax : ℚ := 30
  /-- `_shutdown_event` is set. -/
  shutdown : Bool := false
  /-- Calls of `disconnect` that wait for the socket to be closed. -/
  closing : ℕ := 0
  /-- The tokens of the last subscribe message that was sent on the socket. -/
  asked : Option (List TokenId) := none
  /-- The last subscribe message for the socket could not be sent. -/
  lost : Bool := false
  reconnectAttempts : ℕ := 0
  totalMessages : ℕ := 0
  healthIncidents : IncidentLog := .empty
  /-- The calls of `run_forever`. -/
  loops : List Spot := []

namespace RtdsLink

variable (r : RtdsLink)

/-- How long `reconnect` sleeps before an attempt. -/
def backoff (attempt : ℕ) : ℚ := min (r.reconnectBackoffBase ^ min attempt 5) r.reconnectBackoffMax

def setState (state : ConnectionState) : RtdsLink := { r with client := { r.client with state := state } }

/-- `subscribe`, where `sent` says whether the message can be sent. -/
def subscribe (tokenIds : List TokenId) (sent : Bool) : RtdsLink :=
  if !r.client.isConnected || !r.client.hasWs then r
  else if tokenIds.isEmpty then r
  else
    { r with
      client := (r.client.subscribe tokenIds sent).1
      asked := if sent then some tokenIds else r.asked
      lost := !sent }

/-- `_resubscribe`. -/
def resubscribe (sent : Bool) : RtdsLink :=
  if r.client.subscribedTokens.isEmpty then r else r.subscribe r.client.subscribedTokens sent

/-- What `apply_diff` does when something has changed: the tokens are tracked, and sent if the client is connected. -/
def track (tokenIds : List TokenId) (sent : Bool) : RtdsLink :=
  let r := { r with client := r.client.updateSubscription tokenIds }
  if r.client.isConnected then r.subscribe tokenIds sent else r

/-- A round of `reconnect`, up to its sleep. -/
def attemptReconnect (attempt : ℕ) : RtdsLink × Spot :=
  ({ r with reconnectAttempts := attempt }, .sleeping attempt (r.backoff attempt))

/-- The head of the loop of `run_forever`. -/
def head : RtdsLink × Spot :=
  if r.shutdown then (r, .ended)
  else if r.client.isConnected then (r, if r.client.hasWs then .receiving else .spinning)
  else
    match r.client.state with
    | .disconnected => (r.setState .connecting, .connecting)
    | .failed | .reconnecting => (r.setState .reconnecting).attemptReconnect 1
    | .connecting | .connected => (r, .waiting)

/-- `_receive_loop` is called; without a socket it returns at once. -/
def receive : RtdsLink × Spot := if r.client.hasWs then (r, .receiving) else r.head

/-- `websockets.connect` has given a socket, on which nothing was sent yet. -/
def opened : RtdsLink :=
  { r with client := { r.client with state := .connected, hasWs := true }, asked := none, lost := false }

/-- The tokens are sent on a connection of `run_forever`, if there are any. -/
def subscribeFresh (sent : Bool) : RtdsLink × Spot :=
  if r.client.subscribedTokens.isEmpty then r.receive
  else if !r.client.isConnected || !r.client.hasWs then r.receive
  else (r.resubscribe sent, .subscribing)

/-- `connect` has failed. -/
def connectFailed (error : String) : RtdsLink :=
  { r.setState .failed with
    healthIncidents := r.healthIncidents.append
      { severity := .warning, category := "market_data", message := s!"RTDS WebSocket connection failed: {error}"
        suggestedAction := "Check network connectivity and RTDS endpoint availability." } }

/-- How the await of a call ends. -/
inductive Event
  | begin
  /-- There is a connection; `sent` says whether a message can be sent on it. -/
  | connected (sent : Bool)
  | refused (error : String)
  /-- A message has been sent, or has failed; `sent` is for the next one. -/
  | resumed (sent : Bool)
  | message
  | dropped
  | woke

/-- What a call does when its await ends, up to the next one. -/
def turn : Spot → Event → Option (RtdsLink × Spot)
  | .created, .begin => some { r with shutdown := false }.head
  | .connecting, .connected sent => some ({ r.opened with reconnectAttempts := 0 }.subscribeFresh sent)
  | .connecting, .refused error => some (r.connectFailed error, .waiting)
  | .sleeping attempt _, .woke => some (r, if r.shutdown then .waiting else .retrying attempt)
  | .retrying _, .connected sent =>
    some (if r.client.subscribedTokens.isEmpty then r.opened.receive else (r.opened.resubscribe sent, .resubscribing))
  | .retrying attempt, .refused _ => some (r.attemptReconnect (attempt + 1))
  | .resubscribing, .resumed sent => some (r.subscribeFresh sent)
  | .subscribing, .resumed _ => some r.receive
  | .receiving, .message => some ({ r with totalMessages := r.totalMessages + 1 }, .receiving)
  | .receiving, .dropped => some (if r.client.isConnected then (r.setState .disconnected).head else r.head)
  | .waiting, .woke => some r.head
  | _, _ => none

inductive Label
  /-- `create_task(run_forever())`. -/
  | start
  | loop (i : ℕ) (event : Event)
  | track (tokenIds : List TokenId) (sent : Bool)
  /-- `disconnect` is called. -/
  | disconnect
  /-- The socket has been closed for a call of `disconnect`. -/
  | closed

/-- `disconnect` behind the closing of the socket. -/
def disconnected : RtdsLink :=
  { r with client := { r.client with state := .disconnected, hasWs := false }, asked := none, lost := false }

/-- Call `i` has come to its next await. -/
def place (i : ℕ) (out : RtdsLink × Spot) : RtdsLink := { out.1 with loops := out.1.loops.set i out.2 }

def next : Label → Option RtdsLink
  | .start => some { r with loops := r.loops ++ [.created] }
  | .loop i event => r.loops[i]?.bind fun spot => (r.turn spot event).map (place i)
  | .track tokenIds sent => some (r.track tokenIds sent)
  | .disconnect =>
    let r := { r with shutdown := true }
    some (if r.client.hasWs then { r with closing := r.closing + 1 } else r.disconnected)
  | .closed => if r.closing = 0 then none else some { r with closing := r.closing - 1 }.disconnected

def Step (r : RtdsLink) (l : Label) (r' : RtdsLink) : Prop := r.next l = some r'

/-- No call has been started. -/
structure Fresh (r : RtdsLink) : Prop where
  client : r.client = {}
  asked : r.asked = none
  loops : r.loops = []

/-! ### What holds at every await -/

/-- What holds of the connection. -/
structure Core (r : RtdsLink) : Prop where
  socket : r.client.isConnected = true → r.client.hasWs = true
  /-- Unless it was lost, the last message was for the tokens that are tracked, if there are any. -/
  current : r.client.isConnected = true → r.lost = false → r.client.subscribedTokens ≠ [] →
    r.asked = some r.client.subscribedTokens
  nonempty : r.asked ≠ some []

/-- What holds of a call that has come to its next await. -/
structure Lands (r : RtdsLink) (out : RtdsLink × Spot) : Prop where
  core : out.1.Core
  backoff : out.1.backoff = r.backoff
  loops : out.1.loops = r.loops
  awake : out.2 ≠ .spinning
  connecting : out.1.client.state = .connecting → out.2 = .connecting ∨ r.client.state = .connecting
  sleeping : ∀ attempt wait, out.2 = .sleeping attempt wait → wait = r.backoff attempt

variable {r}

theorem isConnected_iff {c : RTDSClient} : c.isConnected = true ↔ c.state = .connected := decide_eq_true_iff

theorem Core.setState (h : r.Core) {state : ConnectionState} (hstate : state ≠ .connected) :
    (r.setState state).Core where
  socket hc := absurd (isConnected_iff.mp hc) hstate
  current hc := absurd (isConnected_iff.mp hc) hstate
  nonempty := h.nonempty

/-- A message goes out where the client is connected and there is something to ask for. -/
theorem subscribe_sends (hsocket : r.client.isConnected = true → r.client.hasWs = true)
    (hconnected : r.client.isConnected = true) {tokenIds : List TokenId} (hne : tokenIds ≠ []) (sent : Bool) :
    r.subscribe tokenIds sent =
      { r with client := { r.client with subscribedTokens := tokenIds }
               asked := if sent then some tokenIds else r.asked, lost := !sent } := by
  have hws : (!r.client.isConnected || !r.client.hasWs) = false := by
    rw [hconnected, hsocket hconnected]
    rfl
  have hempty : ¬ tokenIds.isEmpty = true := fun h => hne (List.isEmpty_iff.mp h)
  rw [RtdsLink.subscribe, RTDSClient.subscribe, hws, if_neg Bool.false_ne_true, if_neg Bool.false_ne_true,
    if_neg hempty, if_neg hempty]

theorem subscribe_silent (h : r.client.isConnected = false ∨ tokenIds = []) (sent : Bool) :
    r.subscribe tokenIds sent = r := by
  unfold RtdsLink.subscribe
  rcases h with h | rfl
  · rw [h]
    rfl
  · simp

/-- After `subscribe` the last message was for the tokens that are tracked, unless it was lost. -/
theorem core_subscribe (hsocket : r.client.isConnected = true → r.client.hasWs = true) (hnonempty : r.asked ≠ some [])
    (sent : Bool) : (r.subscribe r.client.subscribedTokens sent).Core := by
  by_cases hsends : r.client.isConnected = true ∧ r.client.subscribedTokens ≠ []
  · rw [subscribe_sends hsocket hsends.1 hsends.2]
    refine ⟨hsocket, fun _ hlost _ => ?_, ?_⟩
    · have hsent : sent = true := by simpa using hlost
      rw [hsent]
      rfl
    · cases sent with
      | true => exact fun hnil => hsends.2 (Option.some.inj hnil)
      | false => exact hnonempty
  · have hsilent : r.client.isConnected = false ∨ r.client.subscribedTokens = [] := by
      rw [not_and_or, Bool.not_eq_true, not_not] at hsends
      exact hsends
    rw [subscribe_silent hsilent]
    refine ⟨hsocket, fun hconnected _ hne => ?_, hnonempty⟩
    rcases hsilent with hoff | hnil
    · rw [hoff] at hconnected
      cases hconnected
    · exact absurd hnil hne

theorem Core.resubscribe (h : r.Core) (sent : Bool) : (r.resubscribe sent).Core := by
  unfold RtdsLink.resubscribe
  split_ifs
  · exact h
  · exact core_subscribe h.socket h.nonempty sent

theorem Core.track (h : r.Core) (tokenIds : List TokenId) (sent : Bool) : (r.track tokenIds sent).Core := by
  unfold RtdsLink.track
  dsimp only
  split_ifs with hconnected
  · exact core_subscribe (r := { r with client := r.client.updateSubscription tokenIds }) h.socket h.nonempty sent
  · exact ⟨h.socket, fun hc => absurd hc hconnected, h.nonempty⟩

theorem core_opened (sent : Bool) : (r.opened.resubscribe sent).Core := by
  have hsocket : r.opened.client.isConnected = true → r.opened.client.hasWs = true := fun _ => rfl
  have hnonempty : r.opened.asked ≠ some [] := fun h => by cases h
  unfold RtdsLink.resubscribe
  split_ifs with hempty
  · exact ⟨hsocket, fun _ _ hne => absurd (List.isEmpty_iff.mp hempty) hne, hnonempty⟩
  · exact core_subscribe hsocket hnonempty sent

theorem core_disconnected : r.disconnected.Core where
  socket hc := absurd hc Bool.false_ne_true
  current hc := absurd hc Bool.false_ne_true
  nonempty h := by cases h

theorem backoff_subscribe (tokenIds : List TokenId) (sent : Bool) :
    (r.subscribe tokenIds sent).backoff = r.backoff ∧ (r.subscribe tokenIds sent).loops = r.loops ∧
      (r.subscribe tokenIds sent).client.state = r.client.state := by
  unfold RtdsLink.subscribe RTDSClient.subscribe
  split_ifs <;> exact ⟨rfl, rfl, rfl⟩

theorem backoff_resubscribe (sent : Bool) :
    (r.resubscribe sent).backoff = r.backoff ∧ (r.resubscribe sent).loops = r.loops ∧
      (r.resubscribe sent).client.state = r.client.state := by
  unfold RtdsLink.resubscribe
  split_ifs
  · exact ⟨rfl, rfl, rfl⟩
  · exact backoff_subscribe _ sent

/-- A call that has come to an await without changing the connection. -/
theorem Core.lands (h : r.Core) {spot : Spot} (hawake : spot ≠ .spinning)
    (hsleeping : ∀ attempt wait, spot ≠ .sleeping attempt wait) : r.Lands (r, spot) where
  core := h
  backoff := rfl
  loops := rfl
  awake := hawake
  connecting := .inr
  sleeping attempt wait heq := absurd heq (hsleeping attempt wait)

/-- What a call comes to from a state that differs in the connection only. -/
theorem Lands.trans {r' : RtdsLink} {out : RtdsLink × Spot} (h : r'.Lands out) (hbackoff : r'.backoff = r.backoff)
    (hloops : r'.loops = r.loops) (hstate : r'.client.state = .connecting → r.client.state = .connecting) :
    r.Lands out where
  core := h.core
  backoff := h.backoff.trans hbackoff
  loops := h.loops.trans hloops
  awake := h.awake
  connecting hc := (h.connecting hc).imp_right hstate
  sleeping attempt wait heq := hbackoff ▸ h.sleeping attempt wait heq

theorem lands_attemptReconnect (h : r.Core) (attempt : ℕ) : r.Lands (r.attemptReconnect attempt) where
  core := ⟨h.socket, h.current, h.nonempty⟩
  backoff := rfl
  loops := rfl
  awake heq := by cases heq
  connecting := .inr
  sleeping _ _ heq := by
    cases heq
    rfl

theorem Core.lands_head (h : r.Core) : r.Lands r.head := by
  unfold head
  by_cases hshutdown : r.shutdown = true
  · rw [if_pos hshutdown]
    exact h.lands (by decide) (fun _ _ heq => by cases heq)
  rw [if_neg hshutdown]
  by_cases hconnected : r.client.isConnected = true
  · rw [if_pos hconnected, h.socket hconnected]
    exact h.lands (by decide) (fun _ _ heq => by cases heq)
  rw [if_neg hconnected]
  have hreconnect : r.Lands ((r.setState .reconnecting).attemptReconnect 1) :=
    (lands_attemptReconnect (h.setState (by decide)) 1).trans rfl rfl (fun heq => by cases heq)
  cases r.client.state with
  | disconnected =>
    exact
      { core := h.setState (by decide)
        backoff := rfl
        loops := rfl
        awake := fun heq => by cases heq
        connecting := fun _ => .inl rfl
        sleeping := fun _ _ heq => by cases heq }
  | failed => exact hreconnect
  | reconnecting => exact hreconnect
  | connecting => exact h.lands (by decide) (fun _ _ heq => by cases heq)
  | connected => exact h.lands (by decide) (fun _ _ heq => by cases heq)

theorem Core.lands_receive (h : r.Core) : r.Lands r.receive := by
  unfold receive
  split_ifs
  · exact h.lands (by decide) (fun _ _ heq => by cases heq)
  · exact h.lands_head

theorem Core.lands_subscribing (h : r.Core) {spot : Spot} (hspot : spot = .subscribing ∨ spot = .resubscribing) :
    r.Lands (r, spot) := by
  rcases hspot with rfl | rfl
  · exact h.lands (by decide) (fun _ _ heq => by cases heq)
  · exact h.lands (by decide) (fun _ _ heq => by cases heq)

theorem Core.lands_subscribeFresh (h : r.Core) (sent : Bool) : r.Lands (r.subscribeFresh sent) := by
  unfold subscribeFresh
  split_ifs
  · exact h.lands_receive
  · exact h.lands_receive
  · obtain ⟨hbackoff, hloops, hstate⟩ := backoff_resubscribe (r := r) sent
    exact ((h.resubscribe sent).lands_subscribing (.inl rfl)).trans hbackoff hloops (fun heq => hstate ▸ heq)

theorem subscribeFresh_opened (sent : Bool) : r.opened.subscribeFresh sent =
    if r.client.subscribedTokens.isEmpty then (r.opened, .receiving) else (r.opened.resubscribe sent, .subscribing) :=
  rfl

theorem state_opened_resubscribe (sent : Bool) : (r.opened.resubscribe sent).client.state = .connected :=
  (backoff_resubscribe (r := r.opened) sent).2.2

/-- A new connection asks for the tokens at once, if there are any. -/
theorem lands_opened {spot : Spot} (hspot : spot = .subscribing ∨ spot = .resubscribing) (sent : Bool) : r.Lands
    (if r.client.subscribedTokens.isEmpty then (r.opened, .receiving) else (r.opened.resubscribe sent, spot)) := by
  have hcore := core_opened (r := r) sent
  split_ifs with hempty
  · have hsame : r.opened.resubscribe sent = r.opened := if_pos hempty
    rw [hsame] at hcore
    exact (hcore.lands (by decide) (fun _ _ heq => by cases heq)).trans rfl rfl (fun heq => by cases heq)
  · obtain ⟨hbackoff, hloops, hstate⟩ := backoff_resubscribe (r := r.opened) sent
    refine (hcore.lands_subscribing hspot).trans hbackoff hloops (fun heq => ?_)
    rw [hstate] at heq
    cases heq

theorem Core.lands_dropped (h : r.Core) :
    r.Lands (if r.client.isConnected then (r.setState .disconnected).head else r.head) := by
  split_ifs
  · exact (h.setState (by decide)).lands_head.trans rfl rfl (fun heq => by cases heq)
  · exact h.lands_head

theorem Core.connectFailed (h : r.Core) (error : String) : (r.connectFailed error).Core where
  socket hc := absurd hc Bool.false_ne_true
  current hc := absurd hc Bool.false_ne_true
  nonempty := h.nonempty

/-- **One turn of a call**, from an await to the next one. -/
theorem Core.lands_turn (h : r.Core) {spot : Spot} {event : Event} {out : RtdsLink × Spot}
    (hturn : r.turn spot event = some out) : r.Lands out := by
  unfold turn at hturn
  split at hturn
  · -- `run_forever` begins
    cases hturn
    have hbegun : Core { r with shutdown := false } := ⟨h.socket, h.current, h.nonempty⟩
    exact hbegun.lands_head.trans rfl rfl id
  · cases hturn
    exact (lands_opened (r := { r with reconnectAttempts := 0 }) (.inl rfl) _).trans rfl rfl id
  · cases hturn
    exact ((h.connectFailed _).lands (by decide) (fun _ _ heq => by cases heq)).trans rfl rfl (fun heq => by cases heq)
  · cases hturn
    split_ifs
    · exact h.lands (by decide) (fun _ _ heq => by cases heq)
    · exact h.lands (fun heq => by cases heq) (fun _ _ heq => by cases heq)
  · cases hturn
    exact lands_opened (.inr rfl) _
  · cases hturn
    exact lands_attemptReconnect h _
  · cases hturn
    exact h.lands_subscribeFresh _
  · cases hturn
    exact h.lands_receive
  · cases hturn
    have hmore : Core { r with totalMessages := r.totalMessages + 1 } := ⟨h.socket, h.current, h.nonempty⟩
    exact (hmore.lands (by decide) (fun _ _ heq => by cases heq)).trans rfl rfl id
  · cases hturn
    exact h.lands_dropped
  · cases hturn
    exact h.lands_head
  · cases hturn

/-- A call does not leave `connect` with the client at `CONNECTING`. -/
theorem turn_connecting {event : Event} {out : RtdsLink × Spot} (hturn : r.turn .connecting event = some out) :
    out.1.client.state ≠ .connecting := by
  intro hstate
  cases event with
  | connected sent =>
    cases hturn
    change (RtdsLink.subscribeFresh (opened { r with reconnectAttempts := 0 }) sent).1.client.state = _ at hstate
    rw [subscribeFresh_opened] at hstate
    split_ifs at hstate
    · cases hstate
    · rw [state_opened_resubscribe] at hstate
      cases hstate
  | refused error =>
    cases hturn
    cases hstate
  | _ => cases hturn

/-- What holds of the client and its calls at every await. -/
structure Sound (r : RtdsLink) : Prop where
  core : r.Core
  /-- Whoever has set `CONNECTING` is still connecting. -/
  connecting : r.client.state = .connecting → .connecting ∈ r.loops
  awake : .spinning ∉ r.loops
  sleeping : ∀ attempt wait, .sleeping attempt wait ∈ r.loops → wait = r.backoff attempt

variable {r' : RtdsLink} {l : Label} {i : ℕ} {event : Event}

theorem next_loop (h : r.next (.loop i event) = some r') : ∃ spot out, r.loops[i]? = some spot ∧
    r.turn spot event = some out ∧ r' = place i out := by
  obtain ⟨spot, hspot, h⟩ := Option.bind_eq_some_iff.mp h
  obtain ⟨out, hturn, rfl⟩ := Option.map_eq_some_iff.mp h
  exact ⟨spot, out, hspot, hturn, rfl⟩

/-- The steps, but for a turn of a call, on the connection and the calls. -/
theorem Sound.same_loops (h : r.Sound) (hcore : r'.Core) (hloops : r'.loops = r.loops)
    (hbackoff : r'.backoff = r.backoff)
    (hstate : r'.client.state = .connecting → r.client.state = .connecting) : r'.Sound where
  core := hcore
  connecting hc := hloops ▸ h.connecting (hstate hc)
  awake := hloops ▸ h.awake
  sleeping attempt wait hmem := by
    rw [hbackoff]
    exact h.sleeping attempt wait (hloops ▸ hmem)

theorem track_same (tokenIds : List TokenId) (sent : Bool) :
    (r.track tokenIds sent).loops = r.loops ∧ (r.track tokenIds sent).backoff = r.backoff ∧
      (r.track tokenIds sent).client.state = r.client.state := by
  unfold track
  dsimp only
  split_ifs
  · obtain ⟨hbackoff, hloops, hstate⟩ :=
      backoff_subscribe (r := { r with client := r.client.updateSubscription tokenIds }) tokenIds sent
    exact ⟨hloops, hbackoff, hstate⟩
  · exact ⟨rfl, rfl, rfl⟩

theorem Sound.turn (h : r.Sound) {spot : Spot} {out : RtdsLink × Spot} (hspot : r.loops[i]? = some spot)
    (hturn : r.turn spot event = some out) : (place i out).Sound := by
  have hlands := h.core.lands_turn hturn
  have hi : i < r.loops.length := (List.getElem?_eq_some_iff.mp hspot).1
  refine ⟨⟨hlands.core.socket, hlands.core.current, hlands.core.nonempty⟩, ?_, ?_, ?_⟩
  · intro hstate
    change .connecting ∈ out.1.loops.set i out.2
    rw [hlands.loops]
    rcases hlands.connecting hstate with hhere | hbefore
    · rw [hhere]
      exact List.mem_set hi .connecting
    · obtain ⟨j, hj⟩ := List.mem_iff_getElem?.mp (h.connecting hbefore)
      have hne : i ≠ j := by
        rintro rfl
        rw [hspot] at hj
        cases hj
        exact turn_connecting hturn hstate
      refine List.mem_iff_getElem?.mpr ⟨j, ?_⟩
      rw [List.getElem?_set_ne hne]
      exact hj
  · intro hmem
    change .spinning ∈ out.1.loops.set i out.2 at hmem
    rw [hlands.loops] at hmem
    rcases List.mem_or_eq_of_mem_set hmem with hold | hnew
    · exact h.awake hold
    · exact hlands.awake hnew.symm
  · intro attempt wait hmem
    change .sleeping attempt wait ∈ out.1.loops.set i out.2 at hmem
    change wait = out.1.backoff attempt
    rw [hlands.backoff]
    rw [hlands.loops] at hmem
    rcases List.mem_or_eq_of_mem_set hmem with hold | hnew
    · exact h.sleeping attempt wait hold
    · exact hlands.sleeping attempt wait hnew.symm

theorem Sound.step (h : r.Sound) (hstep : Step r l r') : r'.Sound := by
  unfold Step at hstep
  cases l with
  | start =>
    cases hstep
    refine ⟨⟨h.core.socket, h.core.current, h.core.nonempty⟩, ?_, ?_, ?_⟩
    · exact fun hstate => List.mem_append_left _ (h.connecting hstate)
    · exact fun hmem => h.awake (by simpa using hmem)
    · exact fun attempt wait hmem => h.sleeping attempt wait (by simpa using hmem)
  | loop i event =>
    obtain ⟨spot, out, hspot, hturn, rfl⟩ := next_loop hstep
    exact h.turn hspot hturn
  | track tokenIds sent =>
    cases hstep
    obtain ⟨hloops, hbackoff, hstate⟩ := track_same (r := r) tokenIds sent
    exact h.same_loops (h.core.track tokenIds sent) hloops hbackoff (fun heq => hstate ▸ heq)
  | disconnect =>
    cases hstep
    split_ifs
    · exact h.same_loops ⟨h.core.socket, h.core.current, h.core.nonempty⟩ rfl rfl id
    · exact h.same_loops core_disconnected rfl rfl (fun heq => by cases heq)
  | closed =>
    simp only [next, Option.ite_none_left_eq_some, Option.some.injEq] at hstep
    obtain ⟨-, rfl⟩ := hstep
    exact h.same_loops core_disconnected rfl rfl (fun heq => by cases heq)

theorem Fresh.sound (h : r.Fresh) : r.Sound where
  core :=
    { socket := fun hc => by rw [h.client] at hc; cases hc
      current := fun hc => by rw [h.client] at hc; cases hc
      nonempty := fun heq => by rw [h.asked] at heq; cases heq }
  connecting hstate := by
    rw [h.client] at hstate
    cases hstate
  awake hmem := by
    rw [h.loops] at hmem
    cases hmem
  sleeping _ _ hmem := by
    rw [h.loops] at hmem
    cases hmem

/-! ### What the server has been asked for -/

variable {r₀ : RtdsLink} {tr : List (Lib.Taken RtdsLink Label)}

theorem Fresh.run (h₀ : r₀.Fresh) (hrun : Lib.Run Step r₀ tr r) : r.Sound :=
  (hrun.invariant (fun _ _ _ h hstep => h.step hstep) h₀.sound).1

/-- On an open connection whose last message was not lost the server has been asked for the tracked tokens, unless
there are none any more: nothing is sent then. -/
theorem Core.asked_iff (h : r.Core) (hconnected : r.client.isConnected = true) (hlost : r.lost = false) :
    r.asked.getD [] = r.client.subscribedTokens ↔ (r.client.subscribedTokens = [] → r.asked = none) := by
  by_cases htokens : r.client.subscribedTokens = []
  · rw [htokens]
    constructor
    · intro hasked _
      cases ha : r.asked with
      | none => rfl
      | some tokenIds =>
        rw [ha] at hasked
        rw [Option.getD_some] at hasked
        exact absurd (by rw [ha, hasked]) h.nonempty
    · intro hnone
      rw [hnone rfl]
      rfl
  · rw [h.current hconnected hlost htokens]
    exact ⟨fun _ hnil => absurd hnil htokens, fun _ => rfl⟩

/-! ### After a stop -/

/-- `disconnect` has been through. -/
structure Down (r : RtdsLink) : Prop where
  shutdown : r.shutdown = true
  state : r.client.state = .disconnected
  socket : r.client.hasWs = false

/-- No connection is being made. -/
def Quiet (r : RtdsLink) : Prop := ∀ spot ∈ r.loops, spot.opening = false

theorem Down.not_connected (h : r.Down) : r.client.isConnected = false := by
  unfold RTDSClient.isConnected
  rw [h.state]
  rfl

theorem Down.head (h : r.Down) : r.head = (r, .ended) := if_pos h.shutdown

theorem Down.receive (h : r.Down) : r.receive = (r, .ended) := by
  unfold RtdsLink.receive
  rw [h.socket, if_neg Bool.false_ne_true, h.head]

theorem Down.subscribeFresh (h : r.Down) (sent : Bool) : r.subscribeFresh sent = (r, .ended) := by
  unfold RtdsLink.subscribeFresh
  rw [h.not_connected]
  split_ifs
  · exact h.receive
  · exact h.receive
  · rename_i hno
    exact absurd rfl hno

/-- A call that makes no connection, and does not begin, leaves the client as it is. -/
theorem Down.turn (h : r.Down) {spot : Spot} {out : RtdsLink × Spot} (hturn : r.turn spot event = some out)
    (hspot : spot.opening = false) (hevent : event ≠ .begin) :
    out.1.Down ∧ out.1.loops = r.loops ∧ out.2.opening = false := by
  unfold RtdsLink.turn at hturn
  split at hturn
  · exact absurd rfl hevent
  · cases hspot
  · cases hspot
  · cases hturn
    rw [h.shutdown]
    exact ⟨h, rfl, rfl⟩
  · cases hspot
  · cases hspot
  · cases hturn
    rw [h.subscribeFresh]
    exact ⟨h, rfl, rfl⟩
  · cases hturn
    rw [h.receive]
    exact ⟨h, rfl, rfl⟩
  · cases hturn
    exact ⟨⟨h.shutdown, h.state, h.socket⟩, rfl, rfl⟩
  · cases hturn
    rw [h.not_connected, if_neg Bool.false_ne_true, h.head]
    exact ⟨h, rfl, rfl⟩
  · cases hturn
    rw [h.head]
    exact ⟨h, rfl, rfl⟩
  · cases hturn

theorem Down.step (h : r.Down) (hquiet : r.Quiet) (hstep : Step r l r') (hl : ∀ i, l ≠ .loop i .begin) :
    r'.Down ∧ r'.Quiet := by
  unfold Step at hstep
  cases l with
  | start =>
    cases hstep
    refine ⟨⟨h.shutdown, h.state, h.socket⟩, fun spot hspot => ?_⟩
    rcases List.mem_append.mp hspot with hold | hnew
    · exact hquiet spot hold
    · rw [List.mem_singleton.mp hnew]
      rfl
  | loop i event =>
    obtain ⟨spot, out, hspot, hturn, rfl⟩ := next_loop hstep
    obtain ⟨hdown, hloops, hout⟩ :=
      h.turn hturn (hquiet spot (List.mem_of_getElem? hspot)) (fun heq => hl i (by rw [heq]))
    refine ⟨⟨hdown.shutdown, hdown.state, hdown.socket⟩, fun spot' hspot' => ?_⟩
    change spot' ∈ out.1.loops.set i out.2 at hspot'
    rw [hloops] at hspot'
    rcases List.mem_or_eq_of_mem_set hspot' with hold | rfl
    · exact hquiet spot' hold
    · exact hout
  | track tokenIds sent =>
    cases hstep
    have hoff : (r.client.updateSubscription tokenIds).isConnected = false := h.not_connected
    have htrack : r.track tokenIds sent = { r with client := r.client.updateSubscription tokenIds } := by
      unfold track
      dsimp only
      rw [hoff, if_neg Bool.false_ne_true]
    rw [htrack]
    exact ⟨⟨h.shutdown, h.state, h.socket⟩, hquiet⟩
  | disconnect =>
    cases hstep
    rw [h.socket, if_neg Bool.false_ne_true]
    exact ⟨⟨rfl, rfl, rfl⟩, hquiet⟩
  | closed =>
    simp only [next, Option.ite_none_left_eq_some, Option.some.injEq] at hstep
    obtain ⟨-, rfl⟩ := hstep
    exact ⟨⟨h.shutdown, rfl, rfl⟩, hquiet⟩

/-- A connection that is being made can be there next. -/
theorem connects {spot : Spot} (hspot : r.loops[i]? = some spot) (hopening : spot.opening = true) :
    ∃ r', Step r (.loop i (.connected true)) r' ∧ r'.client.isConnected = true := by
  have hout : ∃ out, r.turn spot (.connected true) = some out ∧ out.1.client.isConnected = true := by
    cases spot with
    | connecting =>
      refine ⟨_, rfl, ?_⟩
      change (RtdsLink.subscribeFresh (opened { r with reconnectAttempts := 0 }) true).1.client.isConnected = true
      rw [subscribeFresh_opened]
      split_ifs
      · rfl
      · exact isConnected_iff.mpr (state_opened_resubscribe true)
    | retrying attempt =>
      refine ⟨_, rfl, ?_⟩
      split_ifs
      · rfl
      · exact isConnected_iff.mpr (state_opened_resubscribe true)
    | _ => cases hopening
  obtain ⟨out, hturn, hconnected⟩ := hout
  refine ⟨place i out, ?_, hconnected⟩
  rw [Step, next, hspot, Option.bind_some, hturn, Option.map_some]

/-- **After a stop.** A client that has been disconnected stays so, whatever happens until `run_forever` begins anew,
iff no call of `run_forever` was making a connection when `disconnect` was through. -/
theorem stays_down_iff (h : r.Down) :
    (∀ tr r', Lib.Run Step r tr r' → (∀ x ∈ tr, ∀ i, x.label ≠ .loop i .begin) → r'.client.isConnected = false) ↔
      ∀ spot ∈ r.loops, spot.opening = false := by
  constructor
  · intro hdown spot hspot
    by_contra hopening
    obtain ⟨i, hi⟩ := List.mem_iff_getElem?.mp hspot
    obtain ⟨r', hstep, hconnected⟩ := connects hi (Bool.eq_true_of_not_eq_false hopening)
    have hoff := hdown _ r' (.single hstep) (by simp)
    rw [hconnected] at hoff
    cases hoff
  · intro hquiet tr r' hrun hbegin
    have hall := hrun.invariant_under (I := fun r => r.Down ∧ r.Quiet) (C := fun _ l => ∀ i, l ≠ .loop i .begin)
      (fun _ _ _ hr hl hstep => hr.1.step hr.2 hstep hl) ⟨h, hquiet⟩ hbegin
    exact hall.1.1.not_connected

/-! ### The way back -/

/-- The client receives on an open connection, and the server has been told. -/
structure Served (tokenIds : List TokenId) (r : RtdsLink) : Prop where
  connected : r.client.isConnected = true
  told : r.lost = false
  receives : .receiving ∈ r.loops
  tokens : r.client.subscribedTokens = tokenIds

/-- A call of `run_forever` goes on. -/
def Turn (r : RtdsLink) (l : Label) (r' : RtdsLink) : Prop := Step r l r' ∧ ∃ i event, l = .loop i event

/-- The next await of a call, once it is there. -/
theorem place_spot {spot : Spot} (hspot : r.loops[i]? = some spot) {out : RtdsLink × Spot}
    (hloops : out.1.loops = r.loops) : (place i out).loops[i]? = some out.2 := by
  have hi : i < r.loops.length := (List.getElem?_eq_some_iff.mp hspot).1
  rw [place, hloops, List.getElem?_set_self hi]

theorem step_turn {spot : Spot} (hspot : r.loops[i]? = some spot) {out : RtdsLink × Spot}
    (hturn : r.turn spot event = some out) : Turn r (.loop i event) (place i out) := by
  refine ⟨?_, i, event, rfl⟩
  rw [Step, next, hspot, Option.bind_some, hturn, Option.map_some]

theorem resubscribe_connected (hsocket : r.client.isConnected = true → r.client.hasWs = true)
    (hconnected : r.client.isConnected = true) (hne : r.client.subscribedTokens ≠ []) :
    r.resubscribe true = { r with asked := some r.client.subscribedTokens, lost := false } := by
  have hempty : ¬ r.client.subscribedTokens.isEmpty = true := fun h => hne (List.isEmpty_iff.mp h)
  rw [RtdsLink.resubscribe, if_neg hempty, subscribe_sends hsocket hconnected hne]
  rfl

theorem within_subscribing (hspot : r.loops[i]? = some .subscribing) (hconnected : r.client.isConnected = true)
    (hws : r.client.hasWs = true) (htold : r.lost = false) :
    Lib.Within Turn 1 r (Served r.client.subscribedTokens) := by
  have hreceive : r.receive = (r, .receiving) := if_pos hws
  have hturn : r.turn .subscribing (.resumed true) = some (r, .receiving) := congrArg some hreceive
  refine .cons (step_turn hspot hturn) (.now ⟨hconnected, htold, ?_, rfl⟩)
  exact List.mem_of_getElem? (place_spot hspot rfl)

/-- A call at the sending of the tokens, or about to send them, on an open connection. -/
theorem within_resubscribing (hspot : r.loops[i]? = some .resubscribing) (hconnected : r.client.isConnected = true)
    (hws : r.client.hasWs = true) (hne : r.client.subscribedTokens ≠ []) :
    Lib.Within Turn 2 r (Served r.client.subscribedTokens) := by
  have hempty : ¬ r.client.subscribedTokens.isEmpty = true := fun h => hne (List.isEmpty_iff.mp h)
  have hopen : ¬ (!r.client.isConnected || !r.client.hasWs) = true := by
    rw [hconnected, hws]
    exact Bool.false_ne_true
  have hturn : r.turn .resubscribing (.resumed true) = some (r.resubscribe true, .subscribing) := by
    rw [turn, subscribeFresh, if_neg hempty, if_neg hopen]
  rw [resubscribe_connected (fun _ => hws) hconnected hne] at hturn
  exact .cons (step_turn hspot hturn) (within_subscribing (place_spot hspot rfl) hconnected hws rfl)

/-- A connection has come up, for a client that may have set its attempts back: without tokens the call receives at
once. -/
theorem within_opened {spot : Spot} (hspot : r.loops[i]? = some spot) {u : RtdsLink} (hloops : u.loops = r.loops)
    (hsame : u.client = r.client) {after : Spot} {n : ℕ}
    (hturn : r.turn spot (.connected true) = some (if u.client.subscribedTokens.isEmpty then (u.opened, .receiving)
      else (u.opened.resubscribe true, after)))
    (hafter : u.client.subscribedTokens ≠ [] →
      Lib.Within Turn n (place i ({ u.opened with asked := some u.client.subscribedTokens }, after))
        (Served r.client.subscribedTokens)) :
    Lib.Within Turn (n + 1) r (Served r.client.subscribedTokens) := by
  by_cases htokens : u.client.subscribedTokens = []
  · rw [if_pos (List.isEmpty_iff.mpr htokens)] at hturn
    refine (Lib.Within.cons (step_turn hspot hturn) (.now ⟨rfl, rfl, ?_, ?_⟩)).mono (Nat.le_add_left 1 n)
    · exact List.mem_of_getElem? (place_spot hspot hloops)
    · change u.client.subscribedTokens = r.client.subscribedTokens
      rw [hsame]
  · have hempty : ¬ u.client.subscribedTokens.isEmpty = true := fun h => htokens (List.isEmpty_iff.mp h)
    have hsent : u.opened.resubscribe true = { u.opened with asked := some u.client.subscribedTokens } :=
      resubscribe_connected (r := u.opened) (fun _ => rfl) rfl htokens
    rw [if_neg hempty, hsent] at hturn
    exact .cons (step_turn hspot hturn) (hafter htokens)

theorem within_retrying {attempt : ℕ} (hspot : r.loops[i]? = some (.retrying attempt)) :
    Lib.Within Turn 3 r (Served r.client.subscribedTokens) :=
  within_opened hspot rfl rfl rfl fun hne => within_resubscribing (place_spot hspot rfl) rfl rfl hne

theorem within_connecting (hspot : r.loops[i]? = some .connecting) :
    Lib.Within Turn 2 r (Served r.client.subscribedTokens) :=
  within_opened (u := { r with reconnectAttempts := 0 }) hspot rfl rfl rfl fun _ =>
    within_subscribing (place_spot hspot rfl) rfl rfl rfl

theorem within_sleeping {attempt : ℕ} {wait : ℚ} (hspot : r.loops[i]? = some (.sleeping attempt wait))
    (hshutdown : r.shutdown = false) : Lib.Within Turn 4 r (Served r.client.subscribedTokens) := by
  have hturn : r.turn (.sleeping attempt wait) .woke = some (r, .retrying attempt) := by
    rw [turn, hshutdown, if_neg Bool.false_ne_true]
  exact .cons (step_turn hspot hturn) (within_retrying (place_spot hspot rfl))

/-- A call has come to the head of the loop, and the client has not been connected. -/
theorem within_head (h : r.Sound) {spot : Spot} (hspot : r.loops[i]? = some spot) (hshutdown : r.shutdown = false)
    (hoff : r.client.isConnected = false) (hplaced : (place i r.head).Sound) :
    Lib.Within Turn 4 (place i r.head) (Served r.client.subscribedTokens) := by
  have hnext := place_spot hspot (h.core.lands_head).loops
  have hhead : r.head = match r.client.state with
      | .disconnected => (r.setState .connecting, .connecting)
      | .failed | .reconnecting => (r.setState .reconnecting).attemptReconnect 1
      | .connecting | .connected => (r, .waiting) := by
    rw [head, hshutdown, hoff]
    rfl
  cases hstate : r.client.state with
  | disconnected =>
    rw [hstate] at hhead
    rw [hhead] at hnext ⊢
    exact (within_connecting hnext).mono (by decide)
  | failed =>
    rw [hstate] at hhead
    rw [hhead] at hnext ⊢
    exact within_sleeping hnext hshutdown
  | reconnecting =>
    rw [hstate] at hhead
    rw [hhead] at hnext ⊢
    exact within_sleeping hnext hshutdown
  | connecting =>
    -- another call is connecting
    rw [hstate] at hhead
    rw [hhead] at hplaced ⊢
    obtain ⟨j, hj⟩ := List.mem_iff_getElem?.mp (hplaced.connecting hstate)
    exact (within_connecting hj).mono (by decide)
  | connected => exact absurd (isConnected_iff.mpr hstate) (by rw [hoff]; exact Bool.false_ne_true)

theorem within_receiving (h : r.Sound) (hspot : r.loops[i]? = some .receiving) (hshutdown : r.shutdown = false) :
    Lib.Within Turn 5 r (Served r.client.subscribedTokens) := by
  by_cases hconnected : r.client.isConnected = true
  · cases htold : r.lost with
    | false => exact (Lib.Within.now ⟨hconnected, htold, List.mem_of_getElem? hspot, rfl⟩).mono (by decide)
    | true =>
      -- the connection has to be made anew before anything can be sent again
      have hturn : r.turn .receiving .dropped = some (r.setState .disconnected).head := by rw [turn, if_pos hconnected]
      have hsound : (r.setState .disconnected).Sound :=
        h.same_loops (h.core.setState (by decide)) rfl rfl (fun heq => by cases heq)
      exact .cons (step_turn hspot hturn)
        (within_head hsound hspot hshutdown rfl (h.turn hspot hturn))
  · have hturn : r.turn .receiving .dropped = some r.head := by rw [turn, if_neg hconnected]
    exact .cons (step_turn hspot hturn)
      (within_head h hspot hshutdown (Bool.eq_false_of_not_eq_true hconnected) (h.turn hspot hturn))

/-- A call comes to the head of the loop. -/
theorem within_at_head (h : r.Sound) {spot : Spot} (hspot : r.loops[i]? = some spot) (hshutdown : r.shutdown = false)
    (hplaced : (place i r.head).Sound) : Lib.Within Turn 5 (place i r.head) (Served r.client.subscribedTokens) := by
  by_cases hconnected : r.client.isConnected = true
  · have hhead : r.head = (r, .receiving) := by
      rw [head, hshutdown, if_neg Bool.false_ne_true, if_pos hconnected, h.core.socket hconnected, if_pos rfl]
    rw [hhead] at hplaced ⊢
    exact within_receiving hplaced (place_spot hspot rfl) hshutdown
  · exact (within_head h hspot hshutdown (Bool.eq_false_of_not_eq_true hconnected) hplaced).mono (by decide)

/-- A call comes to `_receive_loop`. -/
theorem within_at_receive (h : r.Sound) {spot : Spot} (hspot : r.loops[i]? = some spot) (hshutdown : r.shutdown = false)
    (hplaced : (place i r.receive).Sound) :
    Lib.Within Turn 5 (place i r.receive) (Served r.client.subscribedTokens) := by
  unfold receive at hplaced ⊢
  split_ifs at hplaced ⊢
  · exact within_receiving hplaced (place_spot hspot rfl) hshutdown
  · exact within_at_head h hspot hshutdown hplaced

theorem within_spot (h : r.Sound) {spot : Spot} (hspot : r.loops[i]? = some spot) (hshutdown : r.shutdown = false)
    (hlive : spot ≠ .ended) : Lib.Within Turn 6 r (Served r.client.subscribedTokens) := by
  cases spot with
  | created =>
    let r₁ : RtdsLink := { r with shutdown := false }
    have hsound : r₁.Sound := h.same_loops ⟨h.core.socket, h.core.current, h.core.nonempty⟩ rfl rfl id
    have hturn : r.turn .created .begin = some r₁.head := rfl
    exact .cons (step_turn hspot hturn) (within_at_head hsound hspot rfl (h.turn hspot hturn))
  | connecting => exact (within_connecting hspot).mono (by decide)
  | sleeping attempt wait => exact (within_sleeping hspot hshutdown).mono (by decide)
  | retrying attempt => exact (within_retrying hspot).mono (by decide)
  | resubscribing =>
    have hturn : r.turn .resubscribing (.resumed true) = some (r.subscribeFresh true) := rfl
    by_cases hsends : r.client.isConnected = true ∧ r.client.subscribedTokens ≠ []
    · exact (within_resubscribing hspot hsends.1 (h.core.socket hsends.1) hsends.2).mono (by decide)
    · have hreceive : r.subscribeFresh true = r.receive := by
        rw [not_and_or, Bool.not_eq_true, not_not] at hsends
        unfold subscribeFresh
        rcases hsends with hoff | hnil
        · rw [hoff]
          split_ifs with _ hopen
          · rfl
          · rfl
          · exact absurd rfl hopen
        · rw [hnil]
          rfl
      rw [hreceive] at hturn
      exact .cons (step_turn hspot hturn) (within_at_receive h hspot hshutdown (h.turn hspot hturn))
  | subscribing =>
    have hturn : r.turn .subscribing (.resumed true) = some r.receive := rfl
    exact .cons (step_turn hspot hturn) (within_at_receive h hspot hshutdown (h.turn hspot hturn))
  | receiving => exact (within_receiving h hspot hshutdown).mono (by decide)
  | waiting =>
    have hturn : r.turn .waiting .woke = some r.head := rfl
    exact .cons (step_turn hspot hturn) (within_at_head h hspot hshutdown (h.turn hspot hturn))
  | spinning => exact absurd (List.mem_of_getElem? hspot) h.awake
  | ended => exact absurd rfl hlive

/-- **The way back.** However a run has gone, drops, failed attempts, lost messages, stops and starts included: while
the client has not been shut down and a call of `run_forever` is left, six turns of these can lead to an open connection
on which the server has been told of the tracked tokens and a call receives. -/
theorem recovers (h₀ : r₀.Fresh) (hrun : Lib.Run Step r₀ tr r) (hshutdown : r.shutdown = false)
    (hlive : ∃ spot ∈ r.loops, spot ≠ .ended) : Lib.Within Turn 6 r (Served r.client.subscribedTokens) := by
  obtain ⟨spot, hmem, hlive⟩ := hlive
  obtain ⟨i, hi⟩ := List.mem_iff_getElem?.mp hmem
  exact within_spot (h₀.run hrun) hi hshutdown hlive

/-- The state after the labels, if these can happen one after the other. -/
def after (labels : List Label) : Option RtdsLink := labels.foldlM next {}

/-- The second attempt to connect is under way, for one token. -/
def secondAttempt : List Label :=
  [.track ["1"] true, .start, .loop 0 .begin, .loop 0 (.refused "refused"), .loop 0 .woke, .loop 0 .woke]

theorem recovers_second : ∃ r, after secondAttempt = some r ∧
    Lib.Within Turn 6 r (Served ["1"]) := by
  have hstate : (after secondAttempt).map (fun r => (r.shutdown, r.loops, r.client.subscribedTokens)) =
      some (false, [.retrying 1], ["1"]) := by
    decide +kernel
  obtain ⟨r, hr, hstate⟩ := Option.map_eq_some_iff.mp hstate
  simp only [Prod.mk.injEq] at hstate
  obtain ⟨hshutdown, hloops, htokens⟩ := hstate
  obtain ⟨tr, hrun⟩ := Lib.Run.of_foldlM hr
  refine ⟨r, hr, ?_⟩
  have hway := recovers ⟨rfl, rfl, rfl⟩ hrun hshutdown
    ⟨.retrying 1, by rw [hloops]; exact List.mem_cons_self, by decide⟩
  rwa [htokens] at hway

/-- The bot is stopped while the client connects for the first time. -/
def stoppedConnecting : List Label := [.start, .loop 0 .begin, .disconnect]

/-- The connection comes up afterwards. -/
theorem stays_down_connecting : ∃ r, after stoppedConnecting = some r ∧ ¬ ∀ tr r', Lib.Run Step r tr r' →
    (∀ x ∈ tr, ∀ i, x.label ≠ .loop i .begin) → r'.client.isConnected = false := by
  have hstate : (after stoppedConnecting).map (fun r => (r.shutdown, r.client.state, r.client.hasWs, r.loops)) =
      some (true, .disconnected, false, [.connecting]) := by
    decide +kernel
  obtain ⟨r, hr, hstate⟩ := Option.map_eq_some_iff.mp hstate
  simp only [Prod.mk.injEq] at hstate
  obtain ⟨hshutdown, hdown, hsocket, hloops⟩ := hstate
  refine ⟨r, hr, fun hstays => ?_⟩
  have hopening := (stays_down_iff ⟨hshutdown, hdown, hsocket⟩).mp hstays .connecting
    (by rw [hloops]; exact List.mem_cons_self)
  cases hopening

end RtdsLink

end Polyfast
