import Mathlib.Tactic.Common
import Polyfast.AuthClients.CredentialStore
import Polyfast.Execution.BalanceManager
import Polyfast.Lib.Text

/-!
# Saving credentials

`POST /credential/update` takes a private key and a relayer key, derives the wallet address and the keys of the
trading API, loads the store, and then asks for the balance. What it calls outside (the derivations, the file, the
balance) is in `CredentialCalls`.

* `credentialUpdate`: the endpoint, exit by exit;
* `CleanUpdate`: it refuses and leaves the store alone, or answers, and enables trading only after a fetch;
* `cleanUpdate_iff`: it does unless it gets to the balance, and the balance is fetched.
-/

namespace Polyfast

/-! ### `int(text, 16)` -/

def isSpace (c : Char) : Bool := c = ' ' || ('\t' ≤ c && c ≤ '\r')

def isHexDigit (c : Char) : Bool := ('0' ≤ c && c ≤ '9') || ('a' ≤ c && c ≤ 'f') || ('A' ≤ c && c ≤ 'F')

def skipSign : List Char → List Char
  | '+' :: cs | '-' :: cs => cs
  | cs => cs

/-- `0x` may stand before the digits, with an underscore behind it. -/
def skipBase : List Char → List Char
  | '0' :: 'x' :: cs | '0' :: 'X' :: cs => if cs.head? = some '_' then cs.tail else cs
  | cs => cs

/-- What is left behind the digits; an underscore stands between two of them only. `prev` is the character before. -/
def skipDigits (prev : Char) : List Char → Option (List Char)
  | [] => if prev = '_' then none else some []
  | c :: cs =>
    if isHexDigit c || c = '_' then
      if c = '_' && prev = '_' then none else skipDigits c cs
    else if prev = '_' then none else some (c :: cs)

/-- Whether `int(text, 16)` returns. `ascii` is the ASCII character that is read for a character: white space and
digits have one in every script. -/
def readsHex (ascii : Char → Char) (text : List Char) : Bool :=
  let cs := skipBase (skipSign ((text.map ascii).dropWhile isSpace))
  cs.head?.elim false isHexDigit && (skipDigits ' ' cs).elim false (·.all isSpace)

/-! ### The endpoint -/

/-- The body of the request; what is not set is kept. -/
structure CredentialUpdateRequest where
  privateKey : Option String := none
  relayerKey : Option String := none

structure CredentialUpdateResponse where
  success : Bool
  hasTradingApi : Bool
  hasSigning : Bool
  hasRelayer : Bool
  canPlaceOrders : Bool
  canAutoClaim : Bool
  isFullyReady : Bool
  validated : Bool
  validationStatus : String
  missingFields : List String
  message : String
  deriving DecidableEq

/-- How the endpoint can fail: an `HTTPException`, or an exception that nobody raised on purpose. -/
inductive CredentialApiError
  | http (status : ℕ) (detail : String)
  | nameError (name : String)
  deriving DecidableEq

/-- The orchestrator as far as the endpoint uses it. -/
structure CredentialDesk where
  credentialStore : CredentialStore := {}
  balanceManager : BalanceManager := {}
  tradingEnabled : Bool := false

/-- What the endpoint calls: `Account.from_key(pk).address`, the API keys that a `ClobClient` with a key and a funder
derives, `save_encrypted`, and the balance fetch function. -/
structure CredentialCalls where
  accountAddress : String → Except PyError String
  createOrDeriveApiCreds : String → String → Except PyError (String × String × String)
  saveEncrypted : Credentials → Except PyError Bool
  fetchReply : FetchReply
  now : Time
  ascii : Char → Char

/-- `_compute_missing_input`. -/
def computeMissingInput (privateKey relayerKey : String) : List String :=
  (if privateKey = "" then ["private_key"] else []) ++ if relayerKey = "" then ["relayer_key"] else []

def with0x (pk : String) : String := if Lib.beginsWith pk "0x" then pk else "0x" ++ pk

def Credentials.canPlaceOrders (c : Credentials) : Bool := c.hasTradingCredentials && c.hasSigningCredentials

/-- `_build_response`. -/
def buildResponse (creds : Credentials) (missing : List String) (message : String) : CredentialUpdateResponse where
  success := true
  hasTradingApi := creds.hasTradingCredentials
  hasSigning := creds.hasSigningCredentials
  hasRelayer := creds.hasRelayerCredentials
  canPlaceOrders := creds.canPlaceOrders
  canAutoClaim := creds.canPlaceOrders && creds.hasRelayerCredentials
  isFullyReady := false
  validated := false
  validationStatus := "not_run"
  missingFields := missing
  message := message

namespace CredentialCalls

variable (calls : CredentialCalls)

/-- `_derive_funder_address`. -/
def deriveFunderAddress (privateKey : String) : Except PyError String := calls.accountAddress (with0x privateKey)

/-- `_derive_api_creds`. -/
def deriveApiCreds (privateKey funderAddress : String) : Except PyError (String × String × String) :=
  calls.createOrDeriveApiCreds (with0x privateKey) funderAddress

end CredentialCalls

/-- The name `can_place_orders` in `credential_update`: neither the function nor its module binds it. -/
def canPlaceOrdersName : Except CredentialApiError Bool := .error (.nameError "can_place_orders")

namespace CredentialDesk

variable (o : CredentialDesk) (calls : CredentialCalls)

def load (creds : Credentials) : CredentialDesk := { o with credentialStore := o.credentialStore.load creds }

/-- What `save_encrypted` answers is not looked at, and an exception is dropped. -/
def saved (_ : Except PyError Bool) : CredentialDesk := o

/-- From the loaded store on: the file, the balance, and the answer. -/
def finishUpdate (creds : Credentials) (missing : List String) :
    CredentialDesk × Except CredentialApiError CredentialUpdateResponse :=
  let o := o.saved (calls.saveEncrypted creds)
  let (balanceManager, balanceOk) := o.balanceManager.fetch calls.fetchReply calls.now
  let o := { o with balanceManager := balanceManager }
  -- `and` looks the name up only if the balance is there
  match if balanceOk then canPlaceOrdersName else .ok false with
  | .error e => (o, .error e)
  | .ok enable =>
    let o := if enable then { o with tradingEnabled := true } else o
    let message := if missing.isEmpty then "Credential kaydedildi — doğrulama bekleniyor"
      else "Credential kaydedildi — " ++ ", ".intercalate missing ++ " eksik"
    (o, .ok (buildResponse creds missing message))

/-- From the well-formed key on: the derivations. -/
def derive (pk rk : String) (missing : List String) :
    CredentialDesk × Except CredentialApiError CredentialUpdateResponse :=
  match calls.deriveFunderAddress pk with
  | .error _ => (o, .error (.http 422 "Private key'den cüzdan adresi türetilemedi"))
  | .ok funder =>
    match calls.deriveApiCreds pk funder with
    | .error _ =>
      let creds : Credentials := { privateKey := pk, funderAddress := funder, relayerKey := rk }
      (o.load creds, .ok (buildResponse creds missing
        "Cüzdan adresi türetildi ama API anahtarları oluşturulamadı — tekrar deneyin"))
    | .ok (apiKey, apiSecret, apiPassphrase) =>
      let creds : Credentials :=
        { apiKey := apiKey, apiSecret := apiSecret, apiPassphrase := apiPassphrase, privateKey := pk
          funderAddress := funder, relayerKey := rk }
      (o.load creds).finishUpdate calls creds missing

/-- The endpoint, where there is an orchestrator. -/
def update (body : CredentialUpdateRequest) :
    CredentialDesk × Except CredentialApiError CredentialUpdateResponse :=
  let existing := o.credentialStore.credentials
  let pk := body.privateKey.getD existing.privateKey
  let rk := body.relayerKey.getD existing.relayerKey
  let missing := computeMissingInput pk rk
  if pk = "" then (o, .ok (buildResponse existing missing "Private key gerekli"))
  else if !readsHex calls.ascii ((with0x pk).toList.drop 2) then
    (o, .error (.http 422 "Private key geçersiz hex formatı"))
  else if (with0x pk).length ≠ 66 then (o, .error (.http 422 "Private key 64 hex karakter olmalı"))
  else o.derive calls pk rk missing

end CredentialDesk

/-- `credential_update`. -/
def credentialUpdate (calls : CredentialCalls) (orch : Option CredentialDesk) (body : CredentialUpdateRequest) :
    Option CredentialDesk × Except CredentialApiError CredentialUpdateResponse :=
  match orch with
  | none => (none, .error (.http 503 "Orchestrator not initialized"))
  | some o =>
    let (o, answer) := o.update calls body
    (some o, answer)

theorem credentialUpdate_some (calls : CredentialCalls) (o : CredentialDesk) (body : CredentialUpdateRequest) :
    credentialUpdate calls (some o) body = (some (o.update calls body).1, (o.update calls body).2) := rfl

/-! ### What an update does -/

/-- A reply that `fetch` can read. -/
def FetchReply.readable : FetchReply → Bool
  | .raises | .none => false
  | .number _ | .other => true
  | .dict available total => available.toFloat.isOk && total.toFloat.isOk

theorem BalanceManager.fetch_snd (b : BalanceManager) (reply : FetchReply) (now : Time) :
    (b.fetch reply now).2 = (b.hasFetchFn && reply.readable) := by
  unfold fetch FetchReply.readable
  cases b.hasFetchFn with
  | false => rfl
  | true =>
    cases reply with
    | dict available total =>
      dsimp only
      cases available.toFloat <;> cases total.toFloat <;> rfl
    | _ => rfl

/-- The update refuses with a 503 or a 422 and leaves the store alone, or it answers; and it enables trading only if
the balance was fetched and the new credentials can place orders. -/
def CleanUpdate (calls : CredentialCalls) (orch : Option CredentialDesk) (body : CredentialUpdateRequest) : Prop :=
  ((∃ status detail, (status = 503 ∨ status = 422) ∧
      (credentialUpdate calls orch body).2 = .error (.http status detail) ∧
      (credentialUpdate calls orch body).1.map (·.credentialStore) = orch.map (·.credentialStore)) ∨
    ∃ response, (credentialUpdate calls orch body).2 = .ok response) ∧
  ∀ o o', orch = some o → (credentialUpdate calls orch body).1 = some o' →
    o.tradingEnabled = false → o'.tradingEnabled = true →
      (o.balanceManager.fetch calls.fetchReply calls.now).2 = true ∧
        o'.credentialStore.credentials.canPlaceOrders = true

theorem CleanUpdate.ne_nameError {calls : CredentialCalls} {orch : Option CredentialDesk}
    {body : CredentialUpdateRequest} (h : CleanUpdate calls orch body) (name : String) :
    (credentialUpdate calls orch body).2 ≠ .error (.nameError name) := by
  intro hname
  obtain ⟨⟨status, detail, -, hhttp, -⟩ | ⟨response, hok⟩, -⟩ := h
  · rw [hname] at hhttp
    cases hhttp
  · rw [hname] at hok
    cases hok

namespace CredentialDesk

variable {o : CredentialDesk} {calls : CredentialCalls} {body : CredentialUpdateRequest}

/-- The key is there and well formed, and both derivations succeed. -/
def ReachesBalance (o : CredentialDesk) (calls : CredentialCalls) (body : CredentialUpdateRequest) : Prop :=
  let pk := body.privateKey.getD o.credentialStore.credentials.privateKey
  pk ≠ "" ∧ readsHex calls.ascii ((with0x pk).toList.drop 2) = true ∧ (with0x pk).length = 66 ∧
    ∃ funder, calls.deriveFunderAddress pk = .ok funder ∧ ∃ keys, calls.deriveApiCreds pk funder = .ok keys

/-- Without a balance the update answers. -/
theorem finishUpdate_of_unfetched (creds : Credentials) (missing : List String)
    (h : (o.balanceManager.fetch calls.fetchReply calls.now).2 = false) :
    ∃ response, (o.finishUpdate calls creds missing).2 = .ok response := by
  unfold finishUpdate saved
  dsimp only
  rw [h]
  exact ⟨_, rfl⟩

/-- **A balance that is there ends the update**: the name that is looked up next is not bound. -/
theorem finishUpdate_of_fetched (creds : Credentials) (missing : List String)
    (h : (o.balanceManager.fetch calls.fetchReply calls.now).2 = true) :
    (o.finishUpdate calls creds missing).2 = .error (.nameError "can_place_orders") := by
  unfold finishUpdate saved
  dsimp only
  rw [h]
  rfl

theorem tradingEnabled_finishUpdate (creds : Credentials) (missing : List String) :
    (o.finishUpdate calls creds missing).1.tradingEnabled = o.tradingEnabled := by
  unfold finishUpdate saved
  dsimp only
  cases (o.balanceManager.fetch calls.fetchReply calls.now).2 <;> rfl

/-- The exits before the balance, and the way to it. -/
theorem update_cases (o : CredentialDesk) (calls : CredentialCalls) (body : CredentialUpdateRequest) :
    (¬o.ReachesBalance calls body ∧
      ((∃ detail, o.update calls body = (o, .error (.http 422 detail))) ∨
        (o.update calls body).1.tradingEnabled = o.tradingEnabled ∧
          ∃ response, (o.update calls body).2 = .ok response)) ∨
    o.ReachesBalance calls body ∧
      ∃ creds missing, o.update calls body = (o.load creds).finishUpdate calls creds missing := by
  unfold update derive ReachesBalance
  dsimp only
  split_ifs with hempty hhex hlen
  · exact .inl ⟨fun h => h.1 hempty, .inr ⟨rfl, _, rfl⟩⟩
  · refine .inl ⟨fun h => ?_, .inl ⟨_, rfl⟩⟩
    rw [h.2.1] at hhex
    cases hhex
  · exact .inl ⟨fun h => hlen h.2.2.1, .inl ⟨_, rfl⟩⟩
  · cases hfunder : calls.deriveFunderAddress (body.privateKey.getD o.credentialStore.credentials.privateKey) with
    | error e =>
      refine .inl ⟨?_, .inl ⟨_, rfl⟩⟩
      rintro ⟨-, -, -, funder, hderived, -⟩
      cases hderived
    | ok funder =>
      dsimp only
      cases hkeys : calls.deriveApiCreds (body.privateKey.getD o.credentialStore.credentials.privateKey) funder with
      | error e =>
        refine .inl ⟨?_, .inr ⟨rfl, _, rfl⟩⟩
        rintro ⟨-, -, -, funder', hderived, keys, hderived'⟩
        obtain rfl := Except.ok.inj hderived
        rw [hkeys] at hderived'
        cases hderived'
      | ok keys =>
        have hread : readsHex calls.ascii
            ((with0x (body.privateKey.getD o.credentialStore.credentials.privateKey)).toList.drop 2) = true := by
          simpa using hhex
        exact .inr ⟨⟨hempty, hread, not_not.mp hlen, funder, rfl, keys, hkeys⟩, _, _, rfl⟩

/-- **The endpoint enables nothing**, and disables nothing. -/
theorem tradingEnabled_update (o : CredentialDesk) (calls : CredentialCalls) (body : CredentialUpdateRequest) :
    (o.update calls body).1.tradingEnabled = o.tradingEnabled := by
  rcases o.update_cases calls body with ⟨-, ⟨detail, heq⟩ | ⟨hsame, -⟩⟩ | ⟨-, creds, missing, heq⟩
  · rw [heq]
  · exact hsame
  · rw [heq]
    exact tradingEnabled_finishUpdate creds missing

end CredentialDesk

/-- **When an update is clean**: exactly if it does not get to a balance that is then fetched. -/
theorem cleanUpdate_iff (calls : CredentialCalls) (orch : Option CredentialDesk) (body : CredentialUpdateRequest) :
    CleanUpdate calls orch body ↔
      ¬∃ o, orch = some o ∧ o.ReachesBalance calls body ∧ o.balanceManager.hasFetchFn = true ∧
        calls.fetchReply.readable = true := by
  cases orch with
  | none =>
    refine iff_of_true ⟨.inl ⟨503, _, .inl rfl, rfl, rfl⟩, fun o o' h => ?_⟩ ?_
    · cases h
    · rintro ⟨o, h, -⟩
      cases h
  | some o =>
    have hone : (∃ o', some o = some o' ∧ o'.ReachesBalance calls body ∧ o'.balanceManager.hasFetchFn = true ∧
        calls.fetchReply.readable = true) ↔
        o.ReachesBalance calls body ∧ (o.balanceManager.fetch calls.fetchReply calls.now).2 = true := by
      rw [BalanceManager.fetch_snd, Bool.and_eq_true]
      simp
    have henable : ∀ p p', some o = some p → (credentialUpdate calls (some o) body).1 = some p' →
        p.tradingEnabled = false → p'.tradingEnabled = true →
        (p.balanceManager.fetch calls.fetchReply calls.now).2 = true ∧
          p'.credentialStore.credentials.canPlaceOrders = true := by
      intro p p' hp hp' hoff hon
      rw [credentialUpdate_some] at hp'
      obtain rfl := Option.some.inj hp
      obtain rfl := Option.some.inj hp'
      rw [o.tradingEnabled_update, hoff] at hon
      cases hon
    rw [hone]
    rcases o.update_cases calls body with ⟨hshort, hexit⟩ | ⟨hreaches, creds, missing, heq⟩
    · refine iff_of_true ⟨?_, henable⟩ fun h => hshort h.1
      rcases hexit with ⟨detail, heq⟩ | ⟨-, hanswer⟩
      · have hrefused : credentialUpdate calls (some o) body = (some o, .error (.http 422 detail)) := by
          rw [credentialUpdate_some, heq]
        exact .inl ⟨422, detail, .inr rfl, by rw [hrefused], by rw [hrefused]⟩
      · exact .inr hanswer
    · have hlast : (credentialUpdate calls (some o) body).2 = ((o.load creds).finishUpdate calls creds missing).2 := by
        rw [credentialUpdate_some, heq]
      cases hfetch : (o.balanceManager.fetch calls.fetchReply calls.now).2 with
      | false =>
        have hanswer := CredentialDesk.finishUpdate_of_unfetched (o := o.load creds) creds missing hfetch
        rw [← hlast] at hanswer
        exact iff_of_true ⟨.inr hanswer, henable⟩ fun h => Bool.false_ne_true h.2
      | true =>
        have hanswer := CredentialDesk.finishUpdate_of_fetched (o := o.load creds) creds missing hfetch
        rw [← hlast] at hanswer
        exact iff_of_false (fun h => h.ne_nameError _ hanswer) (not_not.mpr ⟨hreaches, rfl⟩)

/-- Two derivations that succeed, and a balance of 10. -/
def derivingCalls : CredentialCalls where
  accountAddress _ := .ok "0x71C7db5a9b2d9e4F71C7db5a9b2d9e4F71C7db5a"
  createOrDeriveApiCreds _ _ := .ok ("key", "secret", "passphrase")
  saveEncrypted _ := .ok true
  fetchReply := .dict (.num 10) (.num 10)
  now := 300
  ascii c := c

/-- A key of 64 hex digits, and a relayer key. -/
def keyBody : CredentialUpdateRequest where
  privateKey := some "1111111111111111111111111111111111111111111111111111111111111111"
  relayerKey := some "relayer"

/-- The store is loaded, the endpoint ends in a `NameError`, and trading is not enabled. -/
theorem update_ends_in_nameError :
    ((credentialUpdate derivingCalls (some {}) keyBody).2 = .error (.nameError "can_place_orders") ∧
      (credentialUpdate derivingCalls (some {}) keyBody).1.map (·.credentialStore.version) = some 1 ∧
      (credentialUpdate derivingCalls (some {}) keyBody).1.map (·.tradingEnabled) = some false) ∧
    ¬CleanUpdate derivingCalls (some {}) keyBody := by
  have hanswer : (credentialUpdate derivingCalls (some {}) keyBody).2 = .error (.nameError "can_place_orders") := by
    decide +kernel
  exact ⟨⟨hanswer, by decide +kernel, by decide +kernel⟩, fun h => h.ne_nameError _ hanswer⟩

end Polyfast
