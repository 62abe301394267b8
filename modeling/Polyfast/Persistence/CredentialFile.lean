import Polyfast.Api.Credential
import Polyfast.Lib.Run
import Polyfast.Logging.JsonReader

/-!
# The credential file

`POST /credential/update` writes what it has derived to an encrypted file, and the next start of the process loads
the store from there. The key of the file is made of the names of the machine and of its user.

* `jsonToCredentials_credentialsToJson`: the text in the file reads back;
* `loadEncrypted_token`: a token opens under its own key only;
* `CredentialMachine`: the file, the key, and the running process, with what may happen to them;
* `restored_iff`: what a start restores is what the last change of the file saved, under the key of this machine.
-/

namespace Polyfast

open Logging (Data Fields loads)

/-! ### The text -/

/-- `_credentials_to_json`. -/
def credentialsToJson (creds : Credentials) : List Char :=
  (Data.dict <| .cons "api_key" (.str creds.apiKey) <| .cons "api_secret" (.str creds.apiSecret) <|
    .cons "api_passphrase" (.str creds.apiPassphrase) <| .cons "private_key" (.str creds.privateKey) <|
      .cons "funder_address" (.str creds.funderAddress) <| .cons "relayer_key" (.str creds.relayerKey) .nil).dumps

/-- `d.get(key, "")`, where the value is a text. -/
def getText (fields : Fields) (key : String) : Option String :=
  match fields.last? key with
  | none => some ""
  | some (.str s) => some s
  | some _ => none

/-- `_json_to_credentials`. -/
def jsonToCredentials (text : List Char) : Option Credentials :=
  match loads text with
  | some (.dict fields) => do
    let apiKey ← getText fields "api_key"
    let apiSecret ← getText fields "api_secret"
    let apiPassphrase ← getText fields "api_passphrase"
    let privateKey ← getText fields "private_key"
    let funderAddress ← getText fields "funder_address"
    let relayerKey ← getText fields "relayer_key"
    some { apiKey, apiSecret, apiPassphrase, privateKey, funderAddress, relayerKey }
  | _ => none

/-- **The text in the file reads back.** -/
theorem jsonToCredentials_credentialsToJson (creds : Credentials) :
    jsonToCredentials (credentialsToJson creds) = some creds := by
  have hread := Logging.loads_dumps (d := .dict <| .cons "api_key" (.str creds.apiKey) <|
    .cons "api_secret" (.str creds.apiSecret) <| .cons "api_passphrase" (.str creds.apiPassphrase) <|
      .cons "private_key" (.str creds.privateKey) <| .cons "funder_address" (.str creds.funderAddress) <|
        .cons "relayer_key" (.str creds.relayerKey) .nil) rfl
  rw [jsonToCredentials, credentialsToJson, hread]
  rfl

/-! ### The token -/

/-- Fernet: under a key, and with the randomness of the call, a text becomes a token; and a token opens to a text under
a key, or is refused as invalid. -/
structure Fernet (Key Token : Type) where
  encrypt : Key → ℕ → List Char → Token
  decrypt : Key → Token → Option (List Char)

variable {Key Token : Type} {F : Fernet Key Token}

/-- A token opens under the key that it was made with, to its text, and under no other. -/
structure Fernet.Sound (F : Fernet Key Token) : Prop where
  opens (key : Key) (nonce : ℕ) (text : List Char) : F.decrypt key (F.encrypt key nonce text) = some text
  refuses {key other : Key} (nonce : ℕ) (text : List Char) (h : other ≠ key) :
    F.decrypt other (F.encrypt key nonce text) = none

/-- No key opens the token. -/
def Fernet.Invalid (F : Fernet Key Token) (token : Token) : Prop := ∀ key, F.decrypt key token = none

/-- `load_encrypted`, where the key is `_derive_key()`. -/
def loadEncrypted (F : Fernet Key Token) (key : Key) (file : Option Token) : Option Credentials := do
  let token ← file
  let text ← F.decrypt key token
  jsonToCredentials text

/-- A token of credentials loads them under its own key, and nothing under another one. -/
theorem loadEncrypted_token (h : F.Sound) {key other : Key} {nonce : ℕ} {creds c : Credentials} :
    loadEncrypted F other (some (F.encrypt key nonce (credentialsToJson creds))) = some c ↔
      other = key ∧ creds = c := by
  by_cases hkey : other = key
  · subst hkey
    have hload : loadEncrypted F other (some (F.encrypt other nonce (credentialsToJson creds))) = some creds := by
      simp [loadEncrypted, h.opens, jsonToCredentials_credentialsToJson]
    rw [hload, Option.some_inj]
    simp
  · have hload : loadEncrypted F other (some (F.encrypt key nonce (credentialsToJson creds))) = none := by
      simp [loadEncrypted, h.refuses nonce _ hkey]
    rw [hload]
    simp [hkey]

/-! ### What an update saves -/

/-- The credentials that an update hands to `save_encrypted`, if it gets there. -/
def CredentialDesk.savedCredentials (o : CredentialDesk) (calls : CredentialCalls) (body : CredentialUpdateRequest) :
    Option Credentials :=
  let existing := o.credentialStore.credentials
  let pk := body.privateKey.getD existing.privateKey
  if pk = "" then none
  else if !readsHex calls.ascii ((with0x pk).toList.drop 2) then none
  else if (with0x pk).length ≠ 66 then none
  else
    match calls.deriveFunderAddress pk with
    | .error _ => none
    | .ok funder =>
      match calls.deriveApiCreds pk funder with
      | .error _ => none
      | .ok (apiKey, apiSecret, apiPassphrase) => some
          { apiKey := apiKey, apiSecret := apiSecret, apiPassphrase := apiPassphrase, privateKey := pk
            funderAddress := funder, relayerKey := body.relayerKey.getD existing.relayerKey }

/-- It is what the store is loaded with, before the rest of the update. -/
theorem CredentialDesk.update_of_saved {o : CredentialDesk} {calls : CredentialCalls} {body : CredentialUpdateRequest}
    {creds : Credentials} (h : o.savedCredentials calls body = some creds) :
    creds.privateKey ≠ "" ∧ ∃ missing, o.update calls body = (o.load creds).finishUpdate calls creds missing := by
  unfold savedCredentials at h
  dsimp only at h
  unfold update derive
  dsimp only
  split_ifs at h ⊢ with hempty hhex hlen
  cases hfunder : calls.deriveFunderAddress (body.privateKey.getD o.credentialStore.credentials.privateKey) with
  | error e =>
    rw [hfunder] at h
    cases h
  | ok funder =>
    rw [hfunder] at h
    dsimp only at h ⊢
    cases hkeys : calls.deriveApiCreds (body.privateKey.getD o.credentialStore.credentials.privateKey) funder with
    | error e =>
      rw [hkeys] at h
      cases h
    | ok keys =>
      rw [hkeys] at h
      obtain rfl := Option.some.inj h
      exact ⟨hempty, _, rfl⟩

/-! ### The machine -/

/-- How it goes when the file is written: the token is there, or the file could not be opened, or something else was
left in it. -/
inductive FileWrite (Token : Type)
  | done (nonce : ℕ)
  | refused
  | cut (left : Token)

/-- The file, the key of the machine and its user, and the process, if it runs. -/
structure CredentialMachine (Key Token : Type) where
  file : Option Token := none
  key : Key
  desk : Option CredentialDesk := none

namespace CredentialMachine

/-- What may happen. -/
inductive Label (Key Token : Type)
  /-- The process is started; `o` is the orchestrator before the file is read, and `reply` answers its balance fetch. -/
  | startup (o : CredentialDesk) (reply : FetchReply) (now : Time)
  /-- It ends, orderly or not. -/
  | shutdown
  | update (calls : CredentialCalls) (body : CredentialUpdateRequest) (write : FileWrite Token)
  /-- The file is deleted, or another one is put in its place. -/
  | replaced (file : Option Token)
  /-- The machine or its user gets another name. -/
  | renamed (key : Key)

variable (F : Fernet Key Token) (m : CredentialMachine Key Token)

/-- The part of `lifespan` that restores the credentials. -/
def restore (o : CredentialDesk) (reply : FetchReply) (now : Time) : CredentialDesk :=
  match loadEncrypted F m.key m.file with
  | none => o
  | some creds =>
    if creds.privateKey = "" then o
    else
      let o := o.load creds
      let (balanceManager, balanceOk) := o.balanceManager.fetch reply now
      { o with balanceManager := balanceManager, tradingEnabled := if balanceOk then true else o.tradingEnabled }

/-- `save_encrypted`. -/
def saved (creds : Credentials) : FileWrite Token → CredentialMachine Key Token
  | .done nonce => { m with file := some (F.encrypt m.key nonce (credentialsToJson creds)) }
  | .refused => m
  | .cut left => { m with file := some left }

/-- The request, and the file that it writes. -/
def updated (o : CredentialDesk) (calls : CredentialCalls) (body : CredentialUpdateRequest)
    (write : FileWrite Token) : CredentialMachine Key Token :=
  let m := match o.savedCredentials calls body with
    | none => m
    | some creds => m.saved F creds write
  { m with desk := (credentialUpdate calls (some o) body).1 }

/-- What is done, where it can be done. -/
def next : Label Key Token → Option (CredentialMachine Key Token)
  | .startup o reply now =>
    if m.desk.isNone ∧ o.credentialStore.credentials = {} ∧ o.credentialStore.version = 0 then
      some { m with desk := some (m.restore F o reply now) }
    else none
  | .shutdown => some { m with desk := none }
  | .update calls body write => m.desk.map fun o => m.updated F o calls body write
  | .replaced file => some { m with file := file }
  | .renamed key => some { m with key := key }

def Step (m : CredentialMachine Key Token) (l : Label Key Token) (m' : CredentialMachine Key Token) : Prop :=
  m.next F l = some m'

/-- What others leave in the file is no token of anyone's. -/
def Label.Foreign (F : Fernet Key Token) : Label Key Token → Prop
  | .update _ _ (.cut left) | .replaced (some left) => F.Invalid left
  | _ => True

/-- An update gets to the file with these credentials, and the write goes so. -/
def Hands (creds : Credentials) (x : Lib.Taken (CredentialMachine Key Token) (Label Key Token))
    (write : FileWrite Token) : Prop :=
  ∃ o calls body, x.pre.desk = some o ∧ x.label = .update calls body write ∧
    o.savedCredentials calls body = some creds

/-- The step saves the credentials under the key. -/
def Saves (key : Key) (creds : Credentials) (x : Lib.Taken (CredentialMachine Key Token) (Label Key Token)) : Prop :=
  x.pre.key = key ∧ ∃ nonce, Hands creds x (.done nonce)

/-- The step does something to the file. -/
def Touches (x : Lib.Taken (CredentialMachine Key Token) (Label Key Token)) : Prop :=
  (∃ file, x.label = .replaced file) ∨ ∃ creds write, write ≠ .refused ∧ Hands creds x write

variable {F m} {m₀ m' : CredentialMachine Key Token} {l : Label Key Token}
  {tr : List (Lib.Taken (CredentialMachine Key Token) (Label Key Token))} {key : Key} {c : Credentials}

theorem hands_update {o : CredentialDesk} (ho : m.desk = some o) {calls : CredentialCalls}
    {body : CredentialUpdateRequest} {write write' : FileWrite Token} :
    Hands c ⟨m, .update calls body write, m'⟩ write' ↔ write = write' ∧ o.savedCredentials calls body = some c := by
  constructor
  · rintro ⟨o', calls', body', ho', hlabel, hsaved⟩
    obtain rfl := Option.some.inj (ho.symm.trans ho')
    obtain ⟨rfl, rfl, rfl⟩ := Label.update.inj hlabel
    exact ⟨rfl, hsaved⟩
  · rintro ⟨rfl, hsaved⟩
    exact ⟨o, calls, body, ho, rfl, hsaved⟩

theorem loadEncrypted_invalid {left : Token} (h : F.Invalid left) : loadEncrypted F key (some left) = none := by
  simp [loadEncrypted, h key]

/-- A step that leaves the file alone. -/
theorem file_untouched (hfile : m'.file = m.file) (hupdate : ∀ c write, Hands c ⟨m, l, m'⟩ write → write = .refused)
    (hreplaced : ∀ file, l ≠ .replaced file) :
    loadEncrypted F key m'.file = some c ↔
      Saves key c ⟨m, l, m'⟩ ∨ (loadEncrypted F key m.file = some c ∧ ¬Touches ⟨m, l, m'⟩) := by
  have hsaves : ¬Saves key c ⟨m, l, m'⟩ := by
    rintro ⟨-, nonce, hhands⟩
    cases hupdate _ _ hhands
  have htouches : ¬Touches ⟨m, l, m'⟩ := by
    rintro (⟨file, hlabel⟩ | ⟨creds, write, hwrite, hhands⟩)
    · exact hreplaced file hlabel
    · exact hwrite (hupdate _ _ hhands)
  simp [hfile, hsaves, htouches]

/-- **What a step does to the file**: it opens to what the step saves, or to what it opened to before. -/
theorem Step.file (hF : F.Sound) (hforeign : l.Foreign F) (h : m.Step F l m') :
    loadEncrypted F key m'.file = some c ↔
      Saves key c ⟨m, l, m'⟩ ∨ (loadEncrypted F key m.file = some c ∧ ¬Touches ⟨m, l, m'⟩) := by
  have hother : (∀ calls body write, l ≠ .update calls body write) →
      ∀ c write, Hands c ⟨m, l, m'⟩ write → write = .refused := by
    rintro hl c write ⟨o, calls, body, -, hlabel, -⟩
    exact absurd hlabel (hl calls body write)
  unfold Step at h
  cases l with
  | startup o reply now =>
    obtain ⟨-, hm'⟩ := Option.ite_none_right_eq_some.mp h
    cases hm'
    exact file_untouched rfl (hother (by simp)) (by simp)
  | shutdown =>
    cases h
    exact file_untouched rfl (hother (by simp)) (by simp)
  | renamed key' =>
    cases h
    exact file_untouched rfl (hother (by simp)) (by simp)
  | replaced file =>
    cases h
    have hnone : loadEncrypted F key file = none := by
      cases file with
      | none => rfl
      | some left => exact loadEncrypted_invalid hforeign
    refine iff_of_false (by simp [hnone]) ?_
    rintro (⟨-, nonce, o, calls, body, -, hlabel, -⟩ | ⟨-, htouches⟩)
    · cases hlabel
    · exact htouches (.inl ⟨file, rfl⟩)
  | update calls body write =>
    obtain ⟨o, ho, rfl⟩ := Option.map_eq_some_iff.mp h
    cases hsaved : o.savedCredentials calls body with
    | none =>
      have hfile : (m.updated F o calls body write).file = m.file := by simp [updated, hsaved]
      refine file_untouched hfile (fun d write' hhands => ?_) (by simp)
      obtain ⟨-, hsome⟩ := (hands_update ho).mp hhands
      rw [hsaved] at hsome
      cases hsome
    | some creds =>
      have hhands : ∀ {d write'}, Hands d ⟨m, .update calls body write, m.updated F o calls body write⟩ write' ↔
          write = write' ∧ creds = d := by
        intro d write'
        rw [hands_update ho, hsaved, Option.some_inj]
      have hfile : (m.updated F o calls body write).file = (m.saved F creds write).file := by simp [updated, hsaved]
      cases write with
      | refused => exact file_untouched hfile (fun d write' h => (hhands.mp h).1.symm) (by simp)
      | done nonce =>
        have htouches : Touches ⟨m, .update calls body (.done nonce), m.updated F o calls body (.done nonce)⟩ :=
          .inr ⟨creds, .done nonce, by simp, hhands.mpr ⟨rfl, rfl⟩⟩
        rw [hfile, saved, loadEncrypted_token hF, or_iff_left (fun hboth => hboth.2 htouches)]
        constructor
        · rintro ⟨rfl, rfl⟩
          exact ⟨rfl, nonce, hhands.mpr ⟨rfl, rfl⟩⟩
        · rintro ⟨rfl, nonce', hc⟩
          exact ⟨rfl, (hhands.mp hc).2⟩
      | cut left =>
        have htouches : Touches ⟨m, .update calls body (.cut left), m.updated F o calls body (.cut left)⟩ :=
          .inr ⟨creds, .cut left, by simp, hhands.mpr ⟨rfl, rfl⟩⟩
        rw [hfile, saved, loadEncrypted_invalid hforeign]
        refine iff_of_false (by simp) ?_
        rintro (⟨-, nonce, hc⟩ | ⟨-, hnot⟩)
        · cases (hhands.mp hc).1
        · exact hnot htouches

/-- **What the file opens to**: what was saved last under the key, if nothing has touched the file since. -/
theorem loadEncrypted_iff (hF : F.Sound) (hfile : m₀.file = none) (hrun : Lib.Run (Step F) m₀ tr m)
    (hforeign : ∀ x ∈ tr, x.label.Foreign F) :
    loadEncrypted F key m.file = some c ↔ ∃ before x after, tr = before ++ x :: after ∧ Saves key c x ∧
      ∀ y ∈ after, ¬Touches y := by
  refine (hrun.restrict hforeign).last_set_iff (I := fun _ => True)
    (P := fun m => loadEncrypted F key m.file = some c) (fun t l u _ hst => ⟨trivial, hst.1.file hF hst.2⟩) trivial ?_
  rw [hfile]
  simp [loadEncrypted]

/-- The process holds these credentials, and has loaded no others. -/
def Restored (c : Credentials) (m : CredentialMachine Key Token) : Prop :=
  ∃ o, m.desk = some o ∧ o.credentialStore.credentials = c ∧ o.credentialStore.version = 1

theorem restored_startup {o : CredentialDesk} {reply : FetchReply} {now : Time}
    (h : m.Step F (.startup o reply now) m') :
    m'.Restored c ↔ loadEncrypted F m.key m.file = some c ∧ c.privateKey ≠ "" := by
  obtain ⟨⟨-, -, hversion⟩, hm'⟩ := Option.ite_none_right_eq_some.mp h
  cases hm'
  have hrestored : (∃ o', some (m.restore F o reply now) = some o' ∧ o'.credentialStore.credentials = c ∧
      o'.credentialStore.version = 1) ↔ (m.restore F o reply now).credentialStore.credentials = c ∧
        (m.restore F o reply now).credentialStore.version = 1 := by simp
  rw [Restored, hrestored, restore]
  cases hload : loadEncrypted F m.key m.file with
  | none => simp [hversion]
  | some creds =>
    dsimp only
    by_cases hempty : creds.privateKey = ""
    · rw [if_pos hempty, hversion, Option.some_inj]
      refine iff_of_false (by simp) ?_
      rintro ⟨rfl, hne⟩
      exact hne hempty
    · rw [if_neg hempty, Option.some_inj]
      change creds = c ∧ o.credentialStore.version + 1 = 1 ↔ _
      rw [hversion]
      constructor
      · rintro ⟨rfl, -⟩
        exact ⟨rfl, hempty⟩
      · rintro ⟨rfl, -⟩
        exact ⟨rfl, rfl⟩

/-- **What a start restores**: the credentials that an update saved last, under the key that this machine has now,
unless the file was touched since. An update that could not derive its API keys has saved nothing. -/
theorem restored_iff (hF : F.Sound) (hfile : m₀.file = none) (hrun : Lib.Run (Step F) m₀ tr m)
    (hforeign : ∀ x ∈ tr, x.label.Foreign F) {o : CredentialDesk} {reply : FetchReply} {now : Time}
    (hstart : m.Step F (.startup o reply now) m') :
    m'.Restored c ↔ ∃ before x after, tr = before ++ x :: after ∧ Saves m.key c x ∧ ∀ y ∈ after, ¬Touches y := by
  rw [restored_startup hstart, loadEncrypted_iff hF hfile hrun hforeign]
  refine and_iff_left_of_imp ?_
  rintro ⟨before, x, after, -, ⟨-, nonce, o', calls, body, -, -, hsaved⟩, -⟩
  exact (CredentialDesk.update_of_saved hsaved).1

/-- A token that shows its key. -/
def openFernet : Fernet ℕ (ℕ × List Char) where
  encrypt key _ text := (key, text)
  decrypt key token := if token.1 = key then some token.2 else none

theorem openFernet_sound : openFernet.Sound where
  opens _ _ _ := if_pos rfl
  refuses _ _ h := if_neg (Ne.symm h)

/-- The API keys are not derived. -/
def failingCalls : CredentialCalls := { derivingCalls with createOrDeriveApiCreds _ _ := .error .external }

/-- Another key of 64 hex digits. -/
def otherBody : CredentialUpdateRequest where
  privateKey := some "2222222222222222222222222222222222222222222222222222222222222222"

/-- A key has been saved. -/
def savedMachine : CredentialMachine ℕ (ℕ × List Char) :=
  ({ key := 1, desk := some {} } : CredentialMachine ℕ (ℕ × List Char)).updated openFernet {} derivingCalls keyBody
    (.done 7)

/-- Another key is loaded, but its API keys are not derived. -/
def loadedMachine : CredentialMachine ℕ (ℕ × List Char) :=
  savedMachine.updated openFernet (({} : CredentialDesk).update derivingCalls keyBody).1 failingCalls otherBody
    (.done 8)

/-- Everything that happens to the machine. -/
def loadedTrace : List (Lib.Taken (CredentialMachine ℕ (ℕ × List Char)) (Label ℕ (ℕ × List Char))) :=
  [⟨{ key := 1 }, .startup {} .none 0, { key := 1, desk := some {} }⟩,
    ⟨{ key := 1, desk := some {} }, .update derivingCalls keyBody (.done 7), savedMachine⟩,
    ⟨savedMachine, .update failingCalls otherBody (.done 8), loadedMachine⟩,
    ⟨loadedMachine, .shutdown, { loadedMachine with desk := none }⟩]

theorem run_loaded : Lib.Run (Step openFernet) { key := 1 } loadedTrace { loadedMachine with desk := none } := by
  have hstart : Step openFernet { key := 1 } (.startup {} .none 0) { key := 1, desk := some {} } := rfl
  have hsaved : Step openFernet { key := 1, desk := some {} } (.update derivingCalls keyBody (.done 7)) savedMachine :=
    rfl
  have hloaded : Step openFernet savedMachine (.update failingCalls otherBody (.done 8)) loadedMachine := rfl
  have hstop : Step openFernet loadedMachine .shutdown { loadedMachine with desk := none } := rfl
  exact (((Lib.Run.single hstart).snoc hsaved).snoc hloaded).snoc hstop

theorem restored_older : ∃ m' before x after, Step openFernet { loadedMachine with desk := none }
      (.startup {} .none 600) m' ∧ loadedTrace = before ++ x :: after ∧
    (∃ c, m'.Restored c ∧ c.privateKey = "1111111111111111111111111111111111111111111111111111111111111111" ∧
      Saves 1 c x) ∧ ∀ y ∈ after, ¬Touches y := by
  have hstep : Step openFernet { loadedMachine with desk := none } (.startup {} .none 600)
    { loadedMachine with desk := some (({ loadedMachine with desk := none } :
      CredentialMachine ℕ (ℕ × List Char)).restore openFernet {} .none 600) } := rfl
  have hload : loadEncrypted openFernet 1 loadedMachine.file = some
      { apiKey := "key", apiSecret := "secret", apiPassphrase := "passphrase"
        privateKey := "1111111111111111111111111111111111111111111111111111111111111111"
        funderAddress := "0x71C7db5a9b2d9e4F71C7db5a9b2d9e4F71C7db5a", relayerKey := "relayer" } := by
    decide +kernel
  have hrestored := (restored_startup hstep).mpr ⟨hload, by decide⟩
  have hforeign : ∀ x ∈ loadedTrace, x.label.Foreign openFernet := by
    intro x hx
    simp only [loadedTrace, List.mem_cons, List.not_mem_nil, or_false] at hx
    rcases hx with rfl | rfl | rfl | rfl <;> exact trivial
  obtain ⟨before, x, after, htrace, hsaves, hquiet⟩ :=
    (restored_iff openFernet_sound rfl run_loaded hforeign hstep).mp hrestored
  exact ⟨_, before, x, after, hstep, htrace, ⟨_, hrestored, rfl, hsaves⟩, hquiet⟩

end CredentialMachine

end Polyfast
