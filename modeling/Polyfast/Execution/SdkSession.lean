import Polyfast.Lib.Run
import Polyfast.Lib.Text
import Polyfast.AuthClients.CredentialStore
import Polyfast.Execution.ClobClientWrapper

/-!
# The wrapper and the credential store

Every method of the wrapper first compares the store's version with the one it saw last and builds a new SDK
client if they differ. An order call that sleeps between its two attempts does not ask again when it wakes,
and a client that cannot be built leaves the old one in place.

* `ClobClientWrapper.ensureInitialized`, `ClobClientWrapper.initializeSdk`: the check and what it does;
* `SdkSession.Step`: loads of credentials, checks and order calls in any order;
* `Tracked`, `Tracked.step`: whose client the wrapper has;
* `posted_current_iff`: when every order is posted with the client of the current version.
-/

namespace Polyfast

/-- `ClobClient`, with the version of the store it was built from. -/
structure SdkClient where
  key : String
  chainId : ℕ
  apiKey : String
  apiSecret : String
  apiPassphrase : String
  signatureType : ℕ
  funder : Option String
  version : ℕ
  deriving DecidableEq

structure ClobClientWrapper where
  privateKey : String := ""
  apiKey : String := ""
  apiSecret : String := ""
  apiPassphrase : String := ""
  chainId : ℕ := 137
  signatureType : ℕ := 0
  client : Option SdkClient := none
  initialized : Bool := false
  lastCredVersion : ℤ := -1

namespace ClobClientWrapper

variable (w : ClobClientWrapper) (store : CredentialStore)

/-- The client that `initialize` builds. -/
def build : SdkClient where
  key := w.privateKey
  chainId := w.chainId
  apiKey := w.apiKey
  apiSecret := w.apiSecret
  apiPassphrase := w.apiPassphrase
  signatureType := w.signatureType
  funder := if store.credentials.funderAddress ≠ "" then some store.credentials.funderAddress else none
  version := store.version

/-- `initialize`; the SDK may raise. The old client stays unless a new one is there. -/
def initializeSdk (raises : Bool) : ClobClientWrapper :=
  if w.privateKey ≠ "" ∧ w.apiKey ≠ "" then
    if raises then { w with initialized := false }
    else { w with client := some (w.build store), initialized := true }
  else { w with initialized := false }

/-- A private key with its `0x`. -/
def hexKey (pk : String) : String := if pk ≠ "" ∧ !Lib.beginsWith pk "0x" then "0x" ++ pk else pk

/-- The wrapper with the keys and the version of the store. -/
def takeKeys : ClobClientWrapper :=
  { w with
    privateKey := hexKey store.credentials.privateKey
    apiKey := store.credentials.apiKey
    apiSecret := store.credentials.apiSecret
    apiPassphrase := store.credentials.apiPassphrase
    lastCredVersion := store.version }

/-- `_ensure_initialized`. -/
def ensureInitialized (raises : Bool) : ClobClientWrapper :=
  if (store.version : ℤ) = w.lastCredVersion then w else (w.takeKeys store).initializeSdk store raises

/-- The client that `send_market_fok_order` goes on with, if it does. -/
def readyClient : Option SdkClient := if w.initialized then w.client else none

end ClobClientWrapper

/-- The side of the SDK. -/
inductive SdkSide
  | buy
  | sell
  deriving DecidableEq

/-- `MarketOrderArgs` of a fill-or-kill order. -/
structure MarketOrderArgs where
  tokenId : TokenId
  amount : ℚ
  side : SdkSide

/-- The arguments that `send_market_fok_order` makes. -/
def marketOrderArgs (tokenId : TokenId) (side : String) (amount : ℚ) : MarketOrderArgs where
  tokenId := tokenId
  amount := amount
  side := if side.toUpper = "BUY" then .buy else .sell

/-- An order was created and posted. -/
def Attempt.isPosted : Attempt → Bool
  | posted _ _ _ => true
  | notCreated _ => false

/-- The store, the wrapper, and the order calls that sleep between their attempts. -/
structure SdkSession where
  store : CredentialStore
  wrapper : ClobClientWrapper
  sleeping : List MarketOrderArgs := []

namespace SdkSession

variable (s : SdkSession)

/-- The check at the start of every method of the wrapper. -/
def checked (raises : Bool) : SdkSession :=
  { s with wrapper := s.wrapper.ensureInitialized s.store raises }

/-- `send_market_fok_order` up to its sleep or its end; an import of the SDK may raise before the loop. -/
def send (args : MarketOrderArgs) (raises : Bool) (first : Option Attempt) : SdkSession :=
  let s := s.checked raises
  match s.wrapper.readyClient, first with
  | some _, some a => if a.isTransient then { s with sleeping := s.sleeping ++ [args] } else s
  | _, _ => s

/-- What happens: credentials are loaded, a method of the wrapper makes its check, an order call starts, or
wakes for its second attempt, or is cancelled at its sleep. -/
inductive Label
  | load (credentials : Credentials)
  | check (raises : Bool)
  | send (tokenId : TokenId) (side : String) (amount : ℚ) (raises : Bool) (first : Option Attempt)
  | wake (args : MarketOrderArgs) (second : Attempt)
  | cancelled (args : MarketOrderArgs)

inductive Step : SdkSession → Label → SdkSession → Prop
  | load (s : SdkSession) (credentials : Credentials) :
      Step s (.load credentials) { s with store := s.store.load credentials }
  | check (s : SdkSession) (raises : Bool) : Step s (.check raises) (s.checked raises)
  | send (s : SdkSession) (tokenId : TokenId) (side : String) (amount : ℚ) (raises : Bool)
      (first : Option Attempt) : Step s (.send tokenId side amount raises first)
        (s.send (marketOrderArgs tokenId side amount) raises first)
  | wake (s : SdkSession) (l₁ l₂ : List MarketOrderArgs) (args : MarketOrderArgs) (second : Attempt)
      (h : s.sleeping = l₁ ++ args :: l₂) : Step s (.wake args second) { s with sleeping := l₁ ++ l₂ }
  | cancelled (s : SdkSession) (l₁ l₂ : List MarketOrderArgs) (args : MarketOrderArgs)
      (h : s.sleeping = l₁ ++ args :: l₂) : Step s (.cancelled args) { s with sleeping := l₁ ++ l₂ }

/-- The client with which a step creates and posts an order. -/
def posting : Label → Option SdkClient
  | .send _ _ _ raises (some first) =>
    if first.isPosted then (s.checked raises).wrapper.readyClient else none
  | .wake _ second => if second.isPosted then s.wrapper.client else none
  | _ => none

/-- The client of an order is that of the store's version. -/
def PostsCurrent (l : Label) : Prop := ∀ c, s.posting l = some c → c.version = s.store.version

/-- **The condition on a step.** When a second attempt posts, the check at the start of the call would pass
again: the wrapper has seen the store's version, and its client is initialized. -/
def ChecksAgain (l : Label) : Prop :=
  ∀ args second, l = .wake args second → second.isPosted = true →
    (s.store.version : ℤ) = s.wrapper.lastCredVersion ∧ s.wrapper.initialized = true

/-- The wrapper as constructed, no order call yet. -/
structure Start : Prop where
  client : s.wrapper.client = none
  initialized : s.wrapper.initialized = false
  lastCredVersion : s.wrapper.lastCredVersion = -1
  sleeping : s.sleeping = []

/-- Whose client the wrapper has: that of the version seen last iff it is initialized, else an older one. -/
structure Tracked : Prop where
  seen : s.wrapper.lastCredVersion ≤ s.store.version
  client : ∀ c, s.wrapper.client = some c → (c.version : ℤ) ≤ s.wrapper.lastCredVersion
  initialized : s.wrapper.initialized = true ↔
    ∃ c, s.wrapper.client = some c ∧ (c.version : ℤ) = s.wrapper.lastCredVersion
  built : ∀ c, s.wrapper.client = some c → c.version = s.store.version →
    c = (s.wrapper.takeKeys s.store).build s.store
  sleeping : s.sleeping ≠ [] → s.wrapper.client ≠ none

variable {s} {s' : SdkSession} {l : Label}

theorem Start.tracked (h : Start s) : Tracked s where
  seen := by
    rw [h.lastCredVersion]
    omega
  client c hc := by
    rw [h.client] at hc
    cases hc
  initialized := by simp [h.initialized, h.client]
  built c hc := by
    rw [h.client] at hc
    cases hc
  sleeping hs := absurd h.sleeping hs

theorem Tracked.load (h : Tracked s) (credentials : Credentials) :
    Tracked { s with store := s.store.load credentials } where
  seen := h.seen.trans (by simp [CredentialStore.load])
  client := h.client
  initialized := h.initialized
  built c hc hv := by
    -- the client is of an earlier version
    have hle := (h.client c hc).trans h.seen
    simp only [CredentialStore.load] at hv
    omega
  sleeping := h.sleeping

/-- The check either finds the version it knows, or takes the keys of the new one and builds its client or
does not. -/
theorem ensureInitialized_cases (w : ClobClientWrapper) (store : CredentialStore) (raises : Bool) :
    ((store.version : ℤ) = w.lastCredVersion ∧ w.ensureInitialized store raises = w) ∨
    ((store.version : ℤ) ≠ w.lastCredVersion ∧
      (w.ensureInitialized store raises = { w.takeKeys store with initialized := false } ∨
        w.ensureInitialized store raises =
          { w.takeKeys store with client := some ((w.takeKeys store).build store), initialized := true })) := by
  unfold ClobClientWrapper.ensureInitialized
  split_ifs with hv
  · exact .inl ⟨hv, rfl⟩
  · refine .inr ⟨hv, ?_⟩
    unfold ClobClientWrapper.initializeSdk
    split_ifs
    · exact .inl rfl
    · exact .inr rfl
    · exact .inl rfl

/-- After the check the wrapper has seen the store's version. -/
theorem lastCredVersion_checked (s : SdkSession) (raises : Bool) :
    (s.checked raises).wrapper.lastCredVersion = s.store.version := by
  obtain ⟨hv, heq⟩ | ⟨-, heq | heq⟩ := ensureInitialized_cases s.wrapper s.store raises
  · rw [checked, heq]
    exact hv.symm
  · rw [checked, heq]
    rfl
  · rw [checked, heq]
    rfl

theorem Tracked.checked (h : Tracked s) (raises : Bool) : Tracked (s.checked raises) := by
  obtain ⟨hv, heq⟩ | ⟨hv, heq | heq⟩ := ensureInitialized_cases s.wrapper s.store raises
  · rw [SdkSession.checked, heq]
    exact h
  · -- no client could be built: the old one is of an older version
    have hold : ∀ c, s.wrapper.client = some c → (c.version : ℤ) < s.store.version := fun c hc =>
      (h.client c hc).trans_lt (lt_of_le_of_ne h.seen hv.symm)
    rw [SdkSession.checked, heq]
    refine ⟨le_rfl, fun c hc => (hold c hc).le, ⟨fun hf => absurd hf Bool.false_ne_true, ?_⟩,
      fun c hc hcv => ?_, h.sleeping⟩
    · rintro ⟨c, hc, hcv⟩
      exact absurd hcv (hold c hc).ne
    · exact absurd (congrArg Nat.cast hcv) (hold c hc).ne
  · rw [SdkSession.checked, heq]
    refine ⟨le_rfl, fun c hc => ?_, ⟨fun _ => ⟨_, rfl, rfl⟩, fun _ => rfl⟩, fun c hc _ => ?_,
      fun _ hnone => by cases hnone⟩
    · obtain rfl := Option.some.inj hc
      exact le_rfl
    · exact (Option.some.inj hc).symm

theorem readyClient_eq_some {w : ClobClientWrapper} {c : SdkClient} (h : w.readyClient = some c) :
    w.initialized = true ∧ w.client = some c := by
  unfold ClobClientWrapper.readyClient at h
  split_ifs at h with hi
  exact ⟨hi, h⟩

theorem Tracked.send (h : Tracked s) (args : MarketOrderArgs) (raises : Bool) (first : Option Attempt) :
    Tracked (s.send args raises first) := by
  have hc := h.checked raises
  unfold SdkSession.send
  dsimp only
  cases hready : (s.checked raises).wrapper.readyClient with
  | none => exact hc
  | some c =>
    cases first with
    | none => exact hc
    | some a =>
      dsimp only
      split_ifs
      · refine ⟨hc.seen, hc.client, hc.initialized, hc.built, fun _ hnone => ?_⟩
        rw [(readyClient_eq_some hready).2] at hnone
        cases hnone
      · exact hc

/-- Fewer calls sleep. -/
theorem Tracked.woken (h : Tracked s) {l₁ l₂ : List MarketOrderArgs} {args : MarketOrderArgs}
    (hsplit : s.sleeping = l₁ ++ args :: l₂) : Tracked { s with sleeping := l₁ ++ l₂ } :=
  ⟨h.seen, h.client, h.initialized, h.built, fun _ => h.sleeping (by simp [hsplit])⟩

theorem Tracked.step (h : Tracked s) (hs : Step s l s') : Tracked s' := by
  cases hs with
  | load credentials => exact h.load credentials
  | check raises => exact h.checked raises
  | send tokenId side amount raises first => exact h.send _ raises first
  | wake l₁ l₂ args second hsplit => exact h.woken hsplit
  | cancelled l₁ l₂ args hsplit => exact h.woken hsplit

/-- **An initialized wrapper that has seen the store's version** has the client of that version. -/
theorem Tracked.current_iff (h : Tracked s) {c : SdkClient} (hc : s.wrapper.client = some c) :
    c.version = s.store.version ↔
      (s.store.version : ℤ) = s.wrapper.lastCredVersion ∧ s.wrapper.initialized = true := by
  have hle := h.client c hc
  have hseen := h.seen
  constructor
  · intro hv
    have hlast : (c.version : ℤ) = s.wrapper.lastCredVersion := by omega
    exact ⟨by omega, h.initialized.mpr ⟨c, hc, hlast⟩⟩
  · rintro ⟨hv, hi⟩
    obtain ⟨c', hc', hlast⟩ := h.initialized.mp hi
    rw [hc] at hc'
    obtain rfl := Option.some.inj hc'
    omega

/-- The first attempt of a call follows its check. -/
theorem Tracked.send_current (h : Tracked s) (tokenId : TokenId) (side : String) (amount : ℚ) (raises : Bool)
    (first : Option Attempt) : s.PostsCurrent (.send tokenId side amount raises first) := by
  intro c hc
  cases first with
  | none => cases hc
  | some a =>
    simp only [posting] at hc
    split_ifs at hc
    obtain ⟨hi, hclient⟩ := readyClient_eq_some hc
    exact ((h.checked raises).current_iff hclient).mpr ⟨(lastCredVersion_checked s raises).symm, hi⟩

/-- The second attempt takes the client that is there when the call wakes. -/
theorem Tracked.wake_current_iff (h : Tracked s) {l₁ l₂ : List MarketOrderArgs} {args : MarketOrderArgs}
    (hsplit : s.sleeping = l₁ ++ args :: l₂) (second : Attempt) :
    s.PostsCurrent (.wake args second) ↔ s.ChecksAgain (.wake args second) := by
  obtain ⟨c, hc⟩ := Option.ne_none_iff_exists'.mp (h.sleeping (by simp [hsplit]))
  have hcur := h.current_iff hc
  constructor
  · rintro hpost args' second' heq hp
    obtain ⟨rfl, rfl⟩ := Label.wake.inj heq
    exact hcur.mp (hpost c (by simp only [posting, hp, if_true, hc]))
  · intro hagain c' hc'
    simp only [posting] at hc'
    split_ifs at hc' with hp
    rw [hc] at hc'
    obtain rfl := Option.some.inj hc'
    exact hcur.mpr (hagain args second rfl hp)

theorem postsCurrent_of_none (h : s.posting l = none) : s.PostsCurrent l := by
  intro c hc
  rw [h] at hc
  cases hc

theorem checksAgain_of_ne_wake (h : ∀ args second, l ≠ .wake args second) : s.ChecksAgain l :=
  fun args second heq _ => absurd heq (h args second)

/-- **One step** posts with the current client iff the check would pass again. -/
theorem Tracked.postsCurrent_iff (h : Tracked s) (hs : Step s l s') : s.PostsCurrent l ↔ s.ChecksAgain l := by
  cases hs with
  | load credentials => exact iff_of_true (postsCurrent_of_none rfl) (checksAgain_of_ne_wake fun _ _ => nofun)
  | check raises => exact iff_of_true (postsCurrent_of_none rfl) (checksAgain_of_ne_wake fun _ _ => nofun)
  | send tokenId side amount raises first =>
    exact iff_of_true (h.send_current tokenId side amount raises first) (checksAgain_of_ne_wake fun _ _ => nofun)
  | wake l₁ l₂ args second hsplit => exact h.wake_current_iff hsplit second
  | cancelled l₁ l₂ args hsplit =>
    exact iff_of_true (postsCurrent_of_none rfl) (checksAgain_of_ne_wake fun _ _ => nofun)

/-- **Credential freshness.** In a run of loads, checks and order calls, every order is posted with a client
of the store's version at that moment iff at every second attempt the check of the call would pass again. -/
theorem posted_current_iff {start : SdkSession} {tr : List (Lib.Taken SdkSession Label)} (hstart : Start start)
    (hrun : Lib.Run Step start tr s) :
    (∀ x ∈ tr, x.pre.PostsCurrent x.label) ↔ ∀ x ∈ tr, x.pre.ChecksAgain x.label :=
  hrun.forall_iff (I := Tracked) (fun _ _ _ ht hs => ⟨ht.postsCurrent_iff hs, fun _ => ht.step hs⟩)
    hstart.tracked

/-- A client of the store's version is built from its credentials. -/
theorem posted_credentials {start : SdkSession} {tr : List (Lib.Taken SdkSession Label)} (hstart : Start start)
    (hrun : Lib.Run Step start tr s) {c : SdkClient} (hc : s.wrapper.client = some c)
    (hv : c.version = s.store.version) :
    c.key = ClobClientWrapper.hexKey s.store.credentials.privateKey ∧
      c.apiKey = s.store.credentials.apiKey ∧ c.apiSecret = s.store.credentials.apiSecret ∧
      c.apiPassphrase = s.store.credentials.apiPassphrase := by
  obtain ⟨htracked, -⟩ := hrun.invariant (I := Tracked) (fun _ _ _ ht hs => ht.step hs) hstart.tracked
  rw [htracked.built c hc hv]
  exact ⟨rfl, rfl, rfl, rfl⟩

/-! ### Runs -/

/-- A wrapper and a store as constructed. -/
def newSession : SdkSession := { store := {}, wrapper := {} }

theorem newSession_start : Start newSession := ⟨rfl, rfl, rfl, rfl⟩

/-- Credentials with which a client can be built. -/
def firstCredentials : Credentials where
  apiKey := "key"
  apiSecret := "secret"
  apiPassphrase := "passphrase"
  privateKey := "0x1"
  funderAddress := "funder"

/-- A new private key whose API keys could not be derived. -/
def keyOnly : Credentials where
  privateKey := "0x2"
  funderAddress := "other"

/-- A posted order whose answer timed out. -/
def timedOut : Attempt := .posted false 0 (.raised { name := "TimeoutError", types := [.timeoutError] })

/-- A posted order that is matched. -/
def fills : Attempt := .posted true 0 (.dict { success := .bool true, status := "matched" })

/-- The arguments of the order. -/
def oneDollar : MarketOrderArgs := marketOrderArgs "token" "BUY" 1

theorem posted_current_retry :
    ∃ tr s, Lib.Run Step newSession tr s ∧ tr.length = 3 ∧ ∀ x ∈ tr, x.pre.PostsCurrent x.label := by
  have hrun := ((Lib.Run.single (Step.load newSession firstCredentials)).snoc
    (.send _ "token" "BUY" 1 false (some timedOut))).snoc (.wake _ [] [] oneDollar fills rfl)
  refine ⟨_, _, hrun, rfl, (posted_current_iff newSession_start hrun).mpr fun x hx args second heq _ => ?_⟩
  rcases List.mem_cons.mp hx with rfl | hx
  · cases heq
  · rcases List.mem_cons.mp hx with rfl | hx
    · cases heq
    · obtain rfl := List.mem_singleton.mp hx
      exact ⟨by decide +kernel, by decide +kernel⟩

/-- **An order with the old key**: while the call sleeps, a new private key is loaded, and the call wakes
and posts with the client of the old one. -/
theorem posted_stale :
    ¬∀ start tr s, Start start → Lib.Run Step start tr s → ∀ x ∈ tr, x.pre.PostsCurrent x.label := by
  intro hall
  have hrun := ((Lib.Run.single (Step.load newSession firstCredentials)).snoc
    (.send _ "token" "BUY" 1 false (some timedOut))).snoc (.load _ keyOnly)
  have hwake := hrun.snoc (.wake _ [] [] oneDollar fills rfl)
  have hpost := hall _ _ _ newSession_start hwake _ (List.mem_append_right _ List.mem_cons_self)
    ((({ newSession with store := newSession.store.load firstCredentials }).checked false).wrapper.build
      (newSession.store.load firstCredentials)) (by decide +kernel)
  exact absurd hpost (by decide +kernel)

end SdkSession

end Polyfast
