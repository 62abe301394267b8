import Polyfast.Api.Credential
import Polyfast.Api.Dashboard
import Polyfast.AuthClients.BaseClient
import Polyfast.Lib.Observe

/-!
# What the credential API gives away

`GET /credential/status` shows the credentials under masks, `POST /credential/validate` tries them, and
`POST /credential/update` answers with what can be done with them. What the trading API replies to the second is in
`TradingReply`.

* `maskCredentials`, `CredentialDesk.status`, `CredentialDesk.validate`: the two endpoints;
* `Credentials.view`: what is left of the credentials under the masks, and whether the private key is well formed;
* `update_alike`: an update of the same look is answered alike and keeps the look;
* `CredentialCall.Alike`: requests of the same look. What an update derives from the key is asked for outside, and is
  taken to look alike too;
* `credentials_given_away`: no session of the three endpoints tells two sets of credentials apart iff their views are
  the same, where the requests look alike.
-/

namespace Polyfast

/-! ### Masks -/

/-- `_mask`. -/
def mask (first last : ℕ) (value : String) : String :=
  if value = "" then ""
  else if value.length ≤ first + last + 4 then "****"
  else String.ofList (value.toList.take first) ++ "****" ++ String.ofList (value.toList.drop (value.length - last))

/-- `_mask_private_key`. -/
def maskPrivateKey (pk : String) : String :=
  if pk = "" then ""
  else
    let clean := with0x pk
    if clean.length ≤ 8 then "0x****" else "0x****" ++ String.ofList (clean.toList.drop (clean.length - 4))

structure MaskedFields where
  apiKey : String
  apiSecret : String
  apiPassphrase : String
  privateKey : String
  funderAddress : String
  relayerKey : String
  deriving DecidableEq

/-- `_mask_credentials`. -/
def maskCredentials (creds : Credentials) : MaskedFields where
  apiKey := mask 4 4 creds.apiKey
  apiSecret := if creds.apiSecret = "" then "" else "****"
  apiPassphrase := if creds.apiPassphrase = "" then "" else "****"
  privateKey := maskPrivateKey creds.privateKey
  funderAddress := mask 6 4 creds.funderAddress
  relayerKey := mask 4 4 creds.relayerKey

example : mask 4 4 "sk-1234567890" = "sk-1****7890" := by decide +kernel

/-! ### The endpoints -/

structure CredentialStatusResponse where
  hasAny : Bool
  hasTradingApi : Bool
  hasSigning : Bool
  hasRelayer : Bool
  canPlaceOrders : Bool
  canAutoClaim : Bool
  validated : Bool
  validationStatus : String
  failedChecks : List String
  isFullyReady : Bool
  missingFields : List String
  maskedFields : MaskedFields
  deriving DecidableEq

inductive CheckStatus
  | passed
  | failed
  | skipped
  deriving DecidableEq

structure CheckResult where
  name : String
  label : String
  status : CheckStatus
  message : String
  relatedFields : List String
  deriving DecidableEq

structure CredentialValidateResponse where
  validated : Bool
  validationStatus : String
  checks : List CheckResult
  failedChecks : List String
  hasTradingApi : Bool
  hasSigning : Bool
  hasRelayer : Bool
  canPlaceOrders : Bool
  canAutoClaim : Bool
  isFullyReady : Bool
  message : String
  deriving DecidableEq

/-- What comes of the calls to the trading API: an answer with a balance, which `int` reads or not, one without, or
an exception. -/
inductive TradingReply
  | balance (raw : Option ℤ)
  | noBalance
  | clientError (category : ErrorCategory)
  | timeoutError
  | connectionError
  | otherError

/-- The check of the trading API, with what is told of it. -/
def TradingReply.outcome : TradingReply → CheckStatus × String
  | .balance (some raw) => (.passed, "Bakiye: " ++ fmtUsd (raw / 1000000))
  | .noBalance => (.failed, "API yanıt verdi ama bakiye alınamadı")
  | .clientError .auth => (.failed, "API anahtarları geçersiz — bilgileri kontrol edin")
  | .clientError .network | .connectionError =>
    (.failed, "Bağlantı kurulamadı — internet bağlantınızı kontrol edin")
  | .clientError .timeout | .timeoutError => (.failed, "Bağlantı zaman aşımına uğradı — tekrar deneyin")
  | .clientError .rateLimit => (.failed, "Çok fazla istek — biraz bekleyip tekrar deneyin")
  | .clientError .server => (.failed, "Polymarket sunucu hatası — daha sonra tekrar deneyin")
  | .clientError .validation | .clientError .unknown | .balance none | .otherError =>
    (.failed, "Beklenmeyen hata — tekrar deneyin")

/-- `_check_trading_api`. -/
def checkTradingApi (creds : Credentials) (reply : TradingReply) : CheckResult :=
  let (status, message) := if creds.privateKey = "" then (.failed, "Private key eksik") else reply.outcome
  { name := "trading_api", label := "Trading API", status := status, message := message
    relatedFields := ["private_key"] }

/-- `_check_relayer`. -/
def checkRelayer (creds : Credentials) : CheckResult :=
  let (status, message) :=
    if creds.hasRelayerCredentials then (.passed, "Relayer key mevcut") else (.failed, "Relayer key eksik")
  { name := "relayer", label := "Relayer", status := status, message := message, relatedFields := ["relayer_key"] }

/-- What `credential_validate` makes of its checks. -/
def validateResponse (creds : Credentials) (trading relayer : CheckResult) : CredentialValidateResponse :=
  let checks := [trading, relayer]
  let failed := (checks.filter (fun c => c.status = .failed)).map (·.name)
  let passedCount := (checks.filter (fun c => c.status = .passed)).length
  let validationStatus := if passedCount = 2 then "passed" else if passedCount = 0 then "failed" else "partial"
  let isFullyReady := decide (validationStatus = "passed")
  let canPlaceOrders := creds.canPlaceOrders && decide (trading.status = .passed)
  let balanceInfo := checks.foldl (fun info c =>
    if c.name = "trading_api" ∧ c.status = .passed ∧ Lib.occursIn "Bakiye:" c.message then " — " ++ c.message
    else info) ""
  { validated := true
    validationStatus := validationStatus
    checks := checks
    failedChecks := failed
    hasTradingApi := creds.hasTradingCredentials
    hasSigning := creds.hasSigningCredentials
    hasRelayer := creds.hasRelayerCredentials
    canPlaceOrders := canPlaceOrders
    canAutoClaim := canPlaceOrders && creds.hasRelayerCredentials && decide (relayer.status = .passed)
    isFullyReady := isFullyReady
    message :=
      if isFullyReady then "Hoş geldiniz!" ++ balanceInfo
      else if validationStatus = "partial" then "Eksik kontrol: " ++ ", ".intercalate failed
      else "Kontroller başarısız — bilgileri kontrol edin" }

namespace CredentialDesk

variable (o : CredentialDesk)

/-- `credential_status`, where there is an orchestrator. -/
def status : CredentialStatusResponse :=
  let creds := o.credentialStore.credentials
  let canAutoClaim := creds.canPlaceOrders && creds.hasRelayerCredentials
  let missing := computeMissingInput creds.privateKey creds.relayerKey
  let balanceOk := decide (o.balanceManager.available > 0)
  let isReady := creds.canPlaceOrders && canAutoClaim && balanceOk && missing.isEmpty
  { hasAny := decide (creds.privateKey ≠ "")
    hasTradingApi := creds.hasTradingCredentials
    hasSigning := creds.hasSigningCredentials
    hasRelayer := creds.hasRelayerCredentials
    canPlaceOrders := creds.canPlaceOrders
    canAutoClaim := canAutoClaim
    validated := balanceOk
    validationStatus := if isReady then "passed" else "not_run"
    failedChecks := []
    isFullyReady := isReady
    missingFields := missing
    maskedFields := maskCredentials creds }

/-- `credential_validate`, where there is an orchestrator. -/
def validate (reply : TradingReply) : CredentialValidateResponse :=
  let creds := o.credentialStore.credentials
  validateResponse creds (checkTradingApi creds reply) (checkRelayer creds)

end CredentialDesk

/-- A request to the API, with what is answered from outside. -/
inductive CredentialCall
  | status
  | update (body : CredentialUpdateRequest) (calls : CredentialCalls)
  | validate (reply : TradingReply)

inductive CredentialAnswer
  | status (response : CredentialStatusResponse)
  | update (response : Except CredentialApiError CredentialUpdateResponse)
  | validate (response : CredentialValidateResponse)

def CredentialDesk.serve (o : CredentialDesk) : CredentialCall → CredentialDesk × CredentialAnswer
  | .status => (o, .status o.status)
  | .update body calls => ((o.update calls body).1, .update (o.update calls body).2)
  | .validate reply => (o, .validate (o.validate reply))

/-! ### Views -/

/-- What a mask leaves of a text. -/
inductive Shown
  | empty
  | hidden
  | ends (first last : List Char)
  deriving DecidableEq

namespace Shown

/-- The text under the mask. -/
def render (head : String) : Shown → String
  | empty => ""
  | hidden => head ++ "****"
  | ends first last => head ++ String.ofList first ++ "****" ++ String.ofList last

/-- So many characters are left at both ends. -/
def Fits (m n : ℕ) : Shown → Prop
  | empty | hidden => True
  | ends first last => first.length = m ∧ last.length = n

/-- **A mask is read back**: the text under it tells what it leaves. -/
theorem eq_of_render {head : String} {m n : ℕ} (hpos : 0 < m + n) {x y : Shown} (hx : x.Fits m n) (hy : y.Fits m n)
    (h : x.render head = y.render head) : x = y := by
  have hlists := congrArg String.toList h
  have hlengths := congrArg List.length hlists
  cases x with
  | empty =>
    cases y with
    | empty => rfl
    | hidden => simp [render] at hlengths
    | ends first last => simp [render] at hlengths
  | hidden =>
    cases y with
    | empty => simp [render] at hlengths
    | hidden => rfl
    | ends first last =>
      obtain ⟨hfirst, hlast⟩ := hy
      simp [render] at hlengths
      omega
  | ends first last =>
    obtain ⟨hfirst, hlast⟩ := hx
    cases y with
    | empty => simp [render] at hlengths
    | hidden =>
      simp [render] at hlengths
      omega
    | ends first' last' =>
      obtain ⟨hfirst', hlast'⟩ := hy
      simp only [render, String.toList_append, String.toList_ofList] at hlists
      rw [List.append_assoc, List.append_assoc, List.append_assoc, List.append_assoc] at hlists
      have htails := List.append_cancel_left hlists
      obtain ⟨rfl, hrest⟩ := List.append_inj htails (hfirst.trans hfirst'.symm)
      obtain rfl := List.append_cancel_left hrest
      rfl

end Shown

def shown (first last : ℕ) (value : String) : Shown :=
  if value = "" then .empty
  else if value.length ≤ first + last + 4 then .hidden
  else .ends (value.toList.take first) (value.toList.drop (value.length - last))

def shownKey (pk : String) : Shown :=
  if pk = "" then .empty
  else if (with0x pk).length ≤ 8 then .hidden
  else .ends [] ((with0x pk).toList.drop ((with0x pk).length - 4))

section Masks

variable {m n : ℕ} {v w : String}

theorem shown_eq_empty_iff : shown m n v = .empty ↔ v = "" := by
  unfold shown
  split_ifs with hempty hshort
  · exact iff_of_true rfl hempty
  · exact iff_of_false (by simp) hempty
  · exact iff_of_false (by simp) hempty

theorem shownKey_eq_empty_iff : shownKey v = .empty ↔ v = "" := by
  unfold shownKey
  split_ifs with hempty hshort
  · exact iff_of_true rfl hempty
  · exact iff_of_false (by simp) hempty
  · exact iff_of_false (by simp) hempty

theorem shown_fits (v : String) : (shown m n v).Fits m n := by
  unfold shown
  split_ifs with hempty hshort
  · trivial
  · trivial
  · have hlength : v.toList.length = v.length := String.length_toList
    refine ⟨?_, ?_⟩
    · rw [List.length_take]
      omega
    · rw [List.length_drop]
      omega

theorem shownKey_fits (v : String) : (shownKey v).Fits 0 4 := by
  unfold shownKey
  split_ifs with hempty hshort
  · trivial
  · trivial
  · have hlength : (with0x v).toList.length = (with0x v).length := String.length_toList
    refine ⟨rfl, ?_⟩
    rw [List.length_drop]
    omega

theorem mask_eq_render (v : String) : mask m n v = (shown m n v).render "" := by
  unfold mask shown
  split_ifs
  · rfl
  · rfl
  · rw [Shown.render, String.empty_append]

theorem maskPrivateKey_eq_render (v : String) : maskPrivateKey v = (shownKey v).render "0x" := by
  unfold maskPrivateKey shownKey
  dsimp only
  split_ifs
  · rfl
  · rfl
  · rfl

/-- **Equal masks** leave the same. -/
theorem mask_eq_iff (hpos : 0 < m + n) : mask m n v = mask m n w ↔ shown m n v = shown m n w := by
  rw [mask_eq_render, mask_eq_render]
  exact ⟨Shown.eq_of_render hpos (shown_fits v) (shown_fits w), congrArg _⟩

theorem maskPrivateKey_eq_iff : maskPrivateKey v = maskPrivateKey w ↔ shownKey v = shownKey w := by
  rw [maskPrivateKey_eq_render, maskPrivateKey_eq_render]
  exact ⟨Shown.eq_of_render (by decide) (shownKey_fits v) (shownKey_fits w), congrArg _⟩

end Masks

/-- How an update finds a private key. -/
inductive KeyCheck
  | malformed
  | wrongLength
  | ok
  deriving DecidableEq

def keyCheck (ascii : Char → Char) (pk : String) : KeyCheck :=
  if !readsHex ascii ((with0x pk).toList.drop 2) then .malformed
  else if (with0x pk).length ≠ 66 then .wrongLength
  else .ok

/-- What is told of a private key. -/
def keyView (ascii : Char → Char) (pk : String) : Shown × KeyCheck := (shownKey pk, keyCheck ascii pk)

theorem keyView_eq_iff {ascii : Char → Char} {v w : String} :
    keyView ascii v = keyView ascii w ↔ shownKey v = shownKey w ∧ keyCheck ascii v = keyCheck ascii w := by
  unfold keyView
  rw [Prod.mk.injEq]

/-- What is told of the keys of the trading API: the first under its mask, of the others whether they are there. -/
def apiView : String × String × String → Shown × Bool × Bool
  | (apiKey, apiSecret, apiPassphrase) => (shown 4 4 apiKey, decide (apiSecret = ""), decide (apiPassphrase = ""))

@[ext] structure CredentialsView where
  api : Shown × Bool × Bool
  privateKey : Shown × KeyCheck
  funderAddress : Shown
  relayerKey : Shown
  deriving DecidableEq

namespace Credentials

variable {c c' : Credentials} {ascii : Char → Char}

def view (ascii : Char → Char) (c : Credentials) : CredentialsView where
  api := apiView (c.apiKey, c.apiSecret, c.apiPassphrase)
  privateKey := keyView ascii c.privateKey
  funderAddress := shown 6 4 c.funderAddress
  relayerKey := shown 4 4 c.relayerKey

/-- The same fields are empty. -/
structure SameEmpty (c c' : Credentials) : Prop where
  apiKey : c.apiKey = "" ↔ c'.apiKey = ""
  apiSecret : c.apiSecret = "" ↔ c'.apiSecret = ""
  apiPassphrase : c.apiPassphrase = "" ↔ c'.apiPassphrase = ""
  privateKey : c.privateKey = "" ↔ c'.privateKey = ""
  funderAddress : c.funderAddress = "" ↔ c'.funderAddress = ""
  relayerKey : c.relayerKey = "" ↔ c'.relayerKey = ""

theorem sameEmpty (h : c.view ascii = c'.view ascii) : SameEmpty c c' := by
  obtain ⟨hapi, hprivate, hfunder, hrelayer⟩ := CredentialsView.mk.inj h
  simp only [apiView, Prod.mk.injEq, decide_eq_decide] at hapi
  have hkey := (keyView_eq_iff.mp hprivate).1
  refine ⟨?_, hapi.2.1, hapi.2.2, ?_, ?_, ?_⟩
  · rw [← shown_eq_empty_iff (m := 4) (n := 4), hapi.1, shown_eq_empty_iff]
  · rw [← shownKey_eq_empty_iff, hkey, shownKey_eq_empty_iff]
  · rw [← shown_eq_empty_iff (m := 6) (n := 4), hfunder, shown_eq_empty_iff]
  · rw [← shown_eq_empty_iff (m := 4) (n := 4), hrelayer, shown_eq_empty_iff]

namespace SameEmpty

variable (h : SameEmpty c c')

include h

theorem hasTradingCredentials : c.hasTradingCredentials = c'.hasTradingCredentials := by
  simp only [Credentials.hasTradingCredentials, ne_eq, h.apiKey, h.apiSecret, h.apiPassphrase]

theorem hasSigningCredentials : c.hasSigningCredentials = c'.hasSigningCredentials := by
  simp only [Credentials.hasSigningCredentials, ne_eq, h.privateKey, h.funderAddress]

theorem hasRelayerCredentials : c.hasRelayerCredentials = c'.hasRelayerCredentials := by
  simp only [Credentials.hasRelayerCredentials, ne_eq, h.relayerKey]

theorem canPlaceOrders : c.canPlaceOrders = c'.canPlaceOrders := by
  unfold Credentials.canPlaceOrders
  rw [h.hasTradingCredentials, h.hasSigningCredentials]

theorem buildResponse (missing : List String) (message : String) :
    buildResponse c missing message = Polyfast.buildResponse c' missing message := by
  unfold Polyfast.buildResponse
  rw [h.hasTradingCredentials, h.hasSigningCredentials, h.hasRelayerCredentials, h.canPlaceOrders]

theorem checkTradingApi (reply : TradingReply) : checkTradingApi c reply = Polyfast.checkTradingApi c' reply := by
  simp only [Polyfast.checkTradingApi, h.privateKey]

theorem checkRelayer : checkRelayer c = Polyfast.checkRelayer c' := by
  unfold Polyfast.checkRelayer
  rw [h.hasRelayerCredentials]

theorem validateResponse (trading relayer : CheckResult) :
    validateResponse c trading relayer = Polyfast.validateResponse c' trading relayer := by
  unfold Polyfast.validateResponse
  rw [h.hasTradingCredentials, h.hasSigningCredentials, h.hasRelayerCredentials, h.canPlaceOrders]

end SameEmpty

/-- **The masks** tell what the view has, but for the check of the key. -/
theorem maskCredentials_eq_iff (ascii : Char → Char) : maskCredentials c = maskCredentials c' ↔
    (c.view ascii).api = (c'.view ascii).api ∧ shownKey c.privateKey = shownKey c'.privateKey ∧
      (c.view ascii).funderAddress = (c'.view ascii).funderAddress ∧
      (c.view ascii).relayerKey = (c'.view ascii).relayerKey := by
  have hstars : ∀ v w : String,
      ((if v = "" then "" else "****") = if w = "" then "" else "****") ↔ (v = "" ↔ w = "") := by
    intro v w
    by_cases hv : v = "" <;> by_cases hw : w = "" <;> simp [hv, hw]
  simp only [maskCredentials, MaskedFields.mk.injEq, view, apiView, Prod.mk.injEq, decide_eq_decide, hstars,
    maskPrivateKey_eq_iff, mask_eq_iff (show 0 < 4 + 4 by decide), mask_eq_iff (show 0 < 6 + 4 by decide), and_assoc]

end Credentials

/-! ### Requests of the same look -/

namespace CredentialDesk

variable (o : CredentialDesk) (calls : CredentialCalls) (body : CredentialUpdateRequest)

/-- The private key of an update. -/
def keyFor : String := body.privateKey.getD o.credentialStore.credentials.privateKey

def relayerFor : String := body.relayerKey.getD o.credentialStore.credentials.relayerKey

/-- An update looks at the key, and then derives. -/
theorem update_eq : o.update calls body =
    if o.keyFor body = "" then
      (o, .ok (buildResponse o.credentialStore.credentials
        (computeMissingInput (o.keyFor body) (o.relayerFor body)) "Private key gerekli"))
    else match keyCheck calls.ascii (o.keyFor body) with
      | .malformed => (o, .error (.http 422 "Private key geçersiz hex formatı"))
      | .wrongLength => (o, .error (.http 422 "Private key 64 hex karakter olmalı"))
      | .ok => o.derive calls (o.keyFor body) (o.relayerFor body)
          (computeMissingInput (o.keyFor body) (o.relayerFor body)) := by
  unfold update keyCheck keyFor relayerFor
  dsimp only
  split_ifs <;> rfl

end CredentialDesk

/-- Requests that look the same to who sees the answers. The credentials that they bring have the same views; the
address and the API keys that are derived from the private key look the same under their masks, or fail alike; and what
is answered from outside besides, and the clock, are the same. -/
inductive CredentialCall.Alike (ascii : Char → Char) (o o' : CredentialDesk) : CredentialCall → CredentialCall → Prop
  | status : Alike ascii o o' .status .status
  | validate (reply : TradingReply) : Alike ascii o o' (.validate reply) (.validate reply)
  | update (body body' : CredentialUpdateRequest) (calls calls' : CredentialCalls) (hascii : calls.ascii = ascii)
      (hascii' : calls'.ascii = ascii)
      (key : body.privateKey.map (keyView ascii) = body'.privateKey.map (keyView ascii))
      (relayer : body.relayerKey.map (shown 4 4) = body'.relayerKey.map (shown 4 4))
      (funder : (calls.deriveFunderAddress (o.keyFor body)).toOption.map (shown 6 4) =
        (calls'.deriveFunderAddress (o'.keyFor body')).toOption.map (shown 6 4))
      (api : ∀ f f', calls.deriveFunderAddress (o.keyFor body) = .ok f →
        calls'.deriveFunderAddress (o'.keyFor body') = .ok f' →
        (calls.deriveApiCreds (o.keyFor body) f).toOption.map apiView =
          (calls'.deriveApiCreds (o'.keyFor body') f').toOption.map apiView)
      (fetchReply : calls.fetchReply = calls'.fetchReply) (now : calls.now = calls'.now) :
      Alike ascii o o' (.update body calls) (.update body' calls')

namespace CredentialDesk

variable {o o' : CredentialDesk} {calls calls' : CredentialCalls} {ascii : Char → Char}

/-- The same balance, and credentials of the same view. -/
structure SameView (ascii : Char → Char) (o o' : CredentialDesk) : Prop where
  balanceManager : o.balanceManager = o'.balanceManager
  view : o.credentialStore.credentials.view ascii = o'.credentialStore.credentials.view ascii

theorem computeMissingInput_congr {pk pk' rk rk' : String} (hpk : pk = "" ↔ pk' = "") (hrk : rk = "" ↔ rk' = "") :
    computeMissingInput pk rk = computeMissingInput pk' rk' := by
  simp only [computeMissingInput, hpk, hrk]

/-- **From the loaded store on**: the balance is fetched alike. -/
theorem finishUpdate_alike {creds creds' : Credentials} {missing : List String}
    (hbalance : o.balanceManager = o'.balanceManager) (hview : creds.view ascii = creds'.view ascii)
    (hreply : calls.fetchReply = calls'.fetchReply) (hnow : calls.now = calls'.now) :
    ((o.load creds).finishUpdate calls creds missing).2 = ((o'.load creds').finishUpdate calls' creds' missing).2 ∧
      SameView ascii ((o.load creds).finishUpdate calls creds missing).1
        ((o'.load creds').finishUpdate calls' creds' missing).1 := by
  have hresponse := (Credentials.sameEmpty hview).buildResponse missing
  unfold finishUpdate saved load
  dsimp only
  rw [hbalance, hreply, hnow]
  cases (o'.balanceManager.fetch calls'.fetchReply calls'.now).2 with
  | true => exact ⟨rfl, rfl, hview⟩
  | false => exact ⟨congrArg Except.ok (hresponse _), rfl, hview⟩

/-- **The derivations** are answered alike. -/
theorem derive_alike {pk pk' rk rk' : String} {missing : List String} (h : SameView ascii o o')
    (hkey : keyView ascii pk = keyView ascii pk') (hrelayer : shown 4 4 rk = shown 4 4 rk')
    (hfunder : (calls.deriveFunderAddress pk).toOption.map (shown 6 4) =
      (calls'.deriveFunderAddress pk').toOption.map (shown 6 4))
    (hapi : ∀ f f', calls.deriveFunderAddress pk = .ok f → calls'.deriveFunderAddress pk' = .ok f' →
      (calls.deriveApiCreds pk f).toOption.map apiView = (calls'.deriveApiCreds pk' f').toOption.map apiView)
    (hreply : calls.fetchReply = calls'.fetchReply) (hnow : calls.now = calls'.now) :
    (o.derive calls pk rk missing).2 = (o'.derive calls' pk' rk' missing).2 ∧
      SameView ascii (o.derive calls pk rk missing).1 (o'.derive calls' pk' rk' missing).1 := by
  unfold derive
  cases hf : calls.deriveFunderAddress pk with
  | error e =>
    cases hf' : calls'.deriveFunderAddress pk' with
    | error e' => exact ⟨rfl, h⟩
    | ok funder' =>
      rw [hf, hf'] at hfunder
      cases hfunder
  | ok funder =>
    cases hf' : calls'.deriveFunderAddress pk' with
    | error e' =>
      rw [hf, hf'] at hfunder
      cases hfunder
    | ok funder' =>
      have haddress : shown 6 4 funder = shown 6 4 funder' := by
        rw [hf, hf'] at hfunder
        exact Option.some.inj hfunder
      have hkeys := hapi funder funder' hf hf'
      dsimp only
      cases hk : calls.deriveApiCreds pk funder with
      | error e =>
        cases hk' : calls'.deriveApiCreds pk' funder' with
        | error e' =>
          have hview : Credentials.view ascii { privateKey := pk, funderAddress := funder, relayerKey := rk } =
              Credentials.view ascii { privateKey := pk', funderAddress := funder', relayerKey := rk' } := by
            simp only [Credentials.view, hkey, haddress, hrelayer]
          exact ⟨congrArg Except.ok ((Credentials.sameEmpty hview).buildResponse missing _), h.balanceManager, hview⟩
        | ok keys' =>
          rw [hk, hk'] at hkeys
          cases hkeys
      | ok keys =>
        cases hk' : calls'.deriveApiCreds pk' funder' with
        | error e' =>
          rw [hk, hk'] at hkeys
          cases hkeys
        | ok keys' =>
          rw [hk, hk'] at hkeys
          have hviews : apiView keys = apiView keys' := Option.some.inj hkeys
          refine finishUpdate_alike h.balanceManager ?_ hreply hnow
          simp only [Credentials.view, hkey, haddress, hrelayer, hviews]

/-- **An update** of the same look is answered alike, and keeps the look. -/
theorem update_alike {body body' : CredentialUpdateRequest} (h : SameView ascii o o')
    (hcall : CredentialCall.Alike ascii o o' (.update body calls) (.update body' calls')) :
    (o.update calls body).2 = (o'.update calls' body').2 ∧
      SameView ascii (o.update calls body).1 (o'.update calls' body').1 := by
  cases hcall with
  | update _ _ _ _ hascii hascii' key relayer funder api fetchReply now =>
    have hkey : keyView ascii (o.keyFor body) = keyView ascii (o'.keyFor body') := by
      rw [keyFor, keyFor, ← Option.getD_map (keyView ascii), ← Option.getD_map (keyView ascii), key]
      exact congrArg _ (congrArg CredentialsView.privateKey h.view)
    have hrelayer : shown 4 4 (o.relayerFor body) = shown 4 4 (o'.relayerFor body') := by
      rw [relayerFor, relayerFor, ← Option.getD_map (shown 4 4), ← Option.getD_map (shown 4 4), relayer]
      exact congrArg _ (congrArg CredentialsView.relayerKey h.view)
    obtain ⟨hshown, hsameCheck⟩ := keyView_eq_iff.mp hkey
    have hempty : o.keyFor body = "" ↔ o'.keyFor body' = "" := by
      rw [← shownKey_eq_empty_iff, hshown, shownKey_eq_empty_iff]
    have hempty' : o.relayerFor body = "" ↔ o'.relayerFor body' = "" := by
      rw [← shown_eq_empty_iff (m := 4) (n := 4), hrelayer, shown_eq_empty_iff]
    have hmissing := computeMissingInput_congr hempty hempty'
    have hcheck : keyCheck calls.ascii (o.keyFor body) = keyCheck calls'.ascii (o'.keyFor body') := by
      rw [hascii, hascii', hsameCheck]
    rw [update_eq, update_eq, hmissing, hcheck]
    by_cases hpk : o.keyFor body = ""
    · rw [if_pos hpk, if_pos (hempty.mp hpk)]
      exact ⟨congrArg Except.ok ((Credentials.sameEmpty h.view).buildResponse _ _), h⟩
    · rw [if_neg hpk, if_neg fun hpk' => hpk (hempty.mpr hpk')]
      cases keyCheck calls'.ascii (o'.keyFor body') with
      | malformed => exact ⟨rfl, h⟩
      | wrongLength => exact ⟨rfl, h⟩
      | ok => exact derive_alike h hkey hrelayer funder api fetchReply now

/-- What is shown without a change. -/
theorem status_alike (h : SameView ascii o o') : o.status = o'.status := by
  have hempty := Credentials.sameEmpty h.view
  have hmasks : maskCredentials o.credentialStore.credentials = maskCredentials o'.credentialStore.credentials := by
    refine (Credentials.maskCredentials_eq_iff ascii).mpr ⟨?_, ?_, ?_, ?_⟩
    · rw [h.view]
    · exact (keyView_eq_iff.mp (congrArg CredentialsView.privateKey h.view)).1
    · rw [h.view]
    · rw [h.view]
  have hmissing := computeMissingInput_congr hempty.privateKey hempty.relayerKey
  unfold status
  dsimp only
  rw [hmasks, hmissing, hempty.canPlaceOrders, hempty.hasRelayerCredentials, hempty.hasTradingCredentials,
    hempty.hasSigningCredentials, h.balanceManager]
  simp only [ne_eq, hempty.privateKey]

theorem validate_alike (h : SameView ascii o o') (reply : TradingReply) : o.validate reply = o'.validate reply := by
  have hempty := Credentials.sameEmpty h.view
  unfold validate
  dsimp only
  rw [hempty.checkTradingApi, hempty.checkRelayer, hempty.validateResponse]

/-- **One request** of the same look. -/
theorem serve_alike {call call' : CredentialCall} (h : SameView ascii o o')
    (hcall : CredentialCall.Alike ascii o o' call call') :
    (o.serve call).2 = (o'.serve call').2 ∧ SameView ascii (o.serve call).1 (o'.serve call').1 := by
  cases hcall with
  | status => exact ⟨congrArg CredentialAnswer.status (status_alike h), h⟩
  | validate reply => exact ⟨congrArg CredentialAnswer.validate (validate_alike h reply), h⟩
  | update body body' calls calls' hascii hascii' key relayer funder api fetchReply now =>
    obtain ⟨hanswer, hview⟩ := update_alike h
      (.update body body' calls calls' hascii hascii' key relayer funder api fetchReply now)
    exact ⟨congrArg CredentialAnswer.update hanswer, hview⟩

/-- Outside nothing is derived. -/
def silent (ascii : Char → Char) : CredentialCalls where
  accountAddress _ := .error .valueError
  createOrDeriveApiCreds _ _ := .error .valueError
  saveEncrypted _ := .ok false
  fetchReply := .raises
  now := 0
  ascii := ascii

/-- The refusal of an update that gets no further than the derivations. -/
def refusal : KeyCheck → String
  | .malformed => "Private key geçersiz hex formatı"
  | .wrongLength => "Private key 64 hex karakter olmalı"
  | .ok => "Private key'den cüzdan adresi türetilemedi"

theorem eq_of_refusal {x y : KeyCheck} (h : refusal x = refusal y) : x = y := by
  revert h
  cases x <;> cases y <;> decide

theorem update_silent (hpk : o.credentialStore.credentials.privateKey ≠ "") :
    (o.update (silent ascii) {}).2 =
      .error (.http 422 (refusal (keyCheck ascii o.credentialStore.credentials.privateKey))) := by
  have hkey : o.keyFor {} = o.credentialStore.credentials.privateKey := rfl
  rw [update_eq, hkey, if_neg hpk]
  have hascii : (silent ascii).ascii = ascii := rfl
  rw [hascii]
  cases keyCheck ascii o.credentialStore.credentials.privateKey <;> rfl

/-- **Views that differ are told apart** by the status, or by an update that brings nothing. -/
theorem view_of_answers (h : ∀ call call', CredentialCall.Alike ascii o o' call call' →
    (o.serve call).2 = (o'.serve call').2) :
    o.credentialStore.credentials.view ascii = o'.credentialStore.credentials.view ascii := by
  have hstatus : o.status = o'.status := CredentialAnswer.status.inj (h .status .status .status)
  have hmasks := congrArg CredentialStatusResponse.maskedFields hstatus
  obtain ⟨hapi, hshown, hfunder, hrelayer⟩ := (Credentials.maskCredentials_eq_iff ascii).mp hmasks
  have hcheck : keyCheck ascii o.credentialStore.credentials.privateKey =
      keyCheck ascii o'.credentialStore.credentials.privateKey := by
    by_cases hpk : o.credentialStore.credentials.privateKey = ""
    · have hpk' := shownKey_eq_empty_iff.mp (hshown.symm.trans (shownKey_eq_empty_iff.mpr hpk))
      rw [hpk, hpk']
    · have hpk' : o'.credentialStore.credentials.privateKey ≠ "" := fun hpk' =>
        hpk (shownKey_eq_empty_iff.mp (hshown.trans (shownKey_eq_empty_iff.mpr hpk')))
      have hupdate := CredentialAnswer.update.inj (h _ _ (.update {} {} (silent ascii) (silent ascii) rfl rfl rfl rfl
        rfl (fun f f' hf => by cases hf) rfl rfl))
      rw [update_silent hpk, update_silent hpk'] at hupdate
      exact eq_of_refusal (CredentialApiError.http.inj (Except.error.inj hupdate)).2
  have hkey : keyView ascii o.credentialStore.credentials.privateKey =
      keyView ascii o'.credentialStore.credentials.privateKey := keyView_eq_iff.mpr ⟨hshown, hcheck⟩
  exact CredentialsView.ext hapi hkey hfunder hrelayer

/-- **What the API gives away** of the credentials, over all sessions: with the same balance, no two sessions of the
same look tell two sets of credentials apart iff their views are the same. Of the same look are requests whose derived
addresses and API keys look the same as well, and whose answers from outside are equal. The view has the first and last
four characters of the API key and of the relayer key, six and four of the address, the last four of the private key,
each of a text that is long enough only, whether the private key is well formed, and of the secret and the passphrase no
more than whether they are there. -/
theorem credentials_given_away (ascii : Char → Char) {o o' : CredentialDesk}
    (hbalance : o.balanceManager = o'.balanceManager) :
    Lib.Indistinguishable serve (CredentialCall.Alike ascii) o o' ↔
      o.credentialStore.credentials.view ascii = o'.credentialStore.credentials.view ascii := by
  refine Lib.indistinguishable_iff (P := fun o o' => o.balanceManager = o'.balanceManager)
    (R := fun o o' => o.credentialStore.credentials.view ascii = o'.credentialStore.credentials.view ascii)
    hbalance ?_ fun o o' _ h => @view_of_answers o o' ascii h
  intro o o' call call' h hcall
  obtain ⟨hanswer, hsame⟩ := serve_alike ⟨h.1, h.2⟩ hcall
  exact ⟨hanswer, hsame.balanceManager, hsame.view⟩

/-- A desk with the key, its first digits given. -/
def withKey (start apiSecret : String) : CredentialDesk :=
  { credentialStore := { credentials :=
      { apiKey := "key", apiSecret := apiSecret, apiPassphrase := "passphrase"
        privateKey := start ++ "11111111111111111111111111111111111111111111111111111111111111"
        funderAddress := "0x71C7db5a9b2d9e4F71C7db5a9b2d9e4F71C7db5a", relayerKey := "relayer" } } }

theorem credentials_given_away_key :
    (withKey "12" "secret").credentialStore.credentials ≠ (withKey "34" "other").credentialStore.credentials ∧
      Lib.Indistinguishable serve (CredentialCall.Alike id) (withKey "12" "secret") (withKey "34" "other") :=
  ⟨by decide +kernel,
    (@credentials_given_away id (withKey "12" "secret") (withKey "34" "other") rfl).mpr (by decide +kernel)⟩

end CredentialDesk

end Polyfast
