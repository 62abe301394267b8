import Polyfast.Lib.Run
import Polyfast.Orchestrator.ExitOrchestrator
import Polyfast.Orchestrator.RedeemEffect
import Polyfast.Orchestrator.Restore

/-!
# Claims over whole runs

A `Vault` is the execution layer with every version of a claim there has been; the store holds some of
them. A step is one turn of settlement, a reconciliation, a start that restores stored claims, or anything
that redeems nothing. A crash inside a call is a call that raised, then a start.

* `Sound`: what every run keeps about claims, retry entries and the store;
* `runCycle_turns`: a whole `run_cycle` is a run of such steps;
* `success_redeemed_iff`: when a successful claim means a redeemed position.
-/

namespace Polyfast

/-- The execution layer and the versions of its claims. -/
structure Vault where
  trading : Trading
  history : List ClaimRecord := []

namespace Vault

variable (v : Vault)

/-- The vault with its execution layer in a new state. -/
def after (s : Trading) : Vault := ⟨s, v.history ++ s.claims.claims.records⟩

/-- What the store may hold: versions of claims there have been, a successful one only of a claim that was
successful. -/
def Stored (cs : List ClaimRecord) : Prop :=
  ∀ c ∈ cs, ∃ u ∈ v.history, u.claimId = c.claimId ∧ u.positionId = c.positionId ∧
    (c.isSuccess = true → u.isSuccess = true)

/-- What happens next, with what the environment answers. -/
inductive Label
  | aside
  | retry (w : World) (id : PositionId)
  | scan (w : World) (p : PositionRecord)
  | reconcile (w : World)
  | startAgain (ps : List PositionRecord) (cs : List ClaimRecord) (now : Time)
  | restart (ps : List PositionRecord) (cs : List ClaimRecord) (now : Time)

/-- A turn of settlement, or something that redeems nothing. -/
def Label.isTurn : Label → Bool
  | aside | retry _ _ | scan _ _ => true
  | _ => false

/-- Not a start. -/
def Label.inProcess : Label → Bool
  | startAgain _ _ _ | restart _ _ _ => false
  | _ => true

/-- One turn, reconciliation or start. -/
inductive Step : Vault → Label → Vault → Prop
  | aside (v : Vault) (s : Trading) (h : Trading.Aside v.trading s) : Step v .aside (v.after s)
  | retry (v : Vault) (w : World) (id : PositionId) :
      Step v (.retry w id) (v.after (v.trading.retryOne w id).state)
  | scan (v : Vault) (w : World) (p : PositionRecord) :
      Step v (.scan w p) (v.after (v.trading.scanOne w p).state)
  | reconcile (v : Vault) (w : World) :
      Step v (.reconcile w) (v.after (v.trading.reconcileExternal w))
  | startAgain (v : Vault) (ps : List PositionRecord) (cs : List ClaimRecord) (now : Time)
      (h : v.Stored cs) : Step v (.startAgain ps cs now) (v.after (v.trading.startAgain ps cs now))
  | restart (v : Vault) (ps : List PositionRecord) (cs : List ClaimRecord) (now : Time)
      (h : v.Stored cs) : Step v (.restart ps cs now) (v.after (v.trading.restart ps cs now))

/-- Nothing has been settled yet. -/
structure Fresh (v : Vault) : Prop where
  claims : v.trading.claims.claims = .empty
  retryStates : v.trading.settlement.retryStates = .empty
  history : v.history = []

/-- What every run keeps. -/
structure Sound (v : Vault) : Prop where
  held : ∀ k c, v.trading.claims.claims.get? k = some c → c ∈ v.history
  agree : ∀ c ∈ v.history, ∀ u ∈ v.history, c.claimId = u.claimId → c.positionId = u.positionId
  drawn : ∀ c ∈ v.history, c.claimId < v.trading.uuids
  entries : ∀ id r, v.trading.settlement.retryStates.get? id = some r →
    r.claimId < v.trading.uuids ∧ ∀ c ∈ v.history, c.claimId = r.claimId → c.positionId = id

/-- No claim has ever been successful whose position was not redeemed. -/
def Backed (v : Vault) : Prop :=
  ∀ c ∈ v.history, c.isSuccess = true → wasRedeemed v.trading.trace c.positionId = true

variable {v} {v' : Vault} {s : Trading}

theorem Fresh.sound (h : Fresh v) : Sound v where
  held k c hc := by simp [h.claims] at hc
  agree c hc := by simp [h.history] at hc
  drawn c hc := by simp [h.history] at hc
  entries id r hr := by simp [h.retryStates] at hr

theorem Fresh.backed (h : Fresh v) : Backed v := fun c hc => by simp [h.history] at hc

/-- The invariant across one step: a claim in the new state is a version of an old one or a new one with the
next identifier, and a retry entry keeps its claim or is for a claim of its position. -/
theorem Sound.after (h : Sound v) (huuids : v.trading.uuids ≤ s.uuids)
    (hclaims : ∀ k c, s.claims.claims.get? k = some c →
      (∃ u ∈ v.history, u.claimId = k ∧ u.positionId = c.positionId) ∨
        k = v.trading.uuids ∧ v.trading.uuids < s.uuids)
    (hentries : ∀ id r, s.settlement.retryStates.get? id = some r →
      (∃ u, v.trading.settlement.retryStates.get? id = some u ∧ r.claimId = u.claimId) ∨
        r.claimId = v.trading.uuids ∧ v.trading.uuids < s.uuids ∧
          ∀ c, s.claims.claims.get? v.trading.uuids = some c → c.positionId = id) :
    Sound (v.after s) := by
  have hkey : ∀ c ∈ s.claims.claims.records, s.claims.claims.get? c.claimId = some c :=
    fun c hc => Lib.Table.mem_records.mp hc
  -- a record of the new state against a version of the old ones
  have hold : ∀ c ∈ s.claims.claims.records, ∀ u ∈ v.history, c.claimId = u.claimId →
      c.positionId = u.positionId := by
    intro c hc u hu hid
    rcases hclaims _ c (hkey c hc) with ⟨u', hu', hid', hpos'⟩ | ⟨hnew, -⟩
    · exact hpos'.symm.trans (h.agree u' hu' u hu (hid'.trans hid))
    · exact absurd (hid.symm.trans hnew) (h.drawn u hu).ne
  refine ⟨fun k c hc => List.mem_append_right _ (Lib.Table.mem_records_of_get? hc), ?_, ?_, ?_⟩
  · intro c hc u hu hid
    rcases List.mem_append.mp hc with hc | hc
    · rcases List.mem_append.mp hu with hu | hu
      · exact h.agree c hc u hu hid
      · exact (hold u hu c hc hid.symm).symm
    · rcases List.mem_append.mp hu with hu | hu
      · exact hold c hc u hu hid
      · have heq := hkey c hc
        rw [hid, hkey u hu] at heq
        rw [Option.some.inj heq]
  · intro c hc
    rcases List.mem_append.mp hc with hc | hc
    · exact (h.drawn c hc).trans_le huuids
    · rcases hclaims _ c (hkey c hc) with ⟨u, hu, hid, -⟩ | ⟨hnew, hlt⟩
      · rw [← hid]
        exact (h.drawn u hu).trans_le huuids
      · rw [hnew]
        exact hlt
  · intro id r hr
    rcases hentries id r hr with ⟨u, hu, hrc⟩ | ⟨hrc, hlt, hpos⟩
    · obtain ⟨hdrawn, hall⟩ := h.entries id u hu
      refine ⟨by rw [hrc]; exact hdrawn.trans_le huuids, fun c hc hid => ?_⟩
      rcases List.mem_append.mp hc with hc | hc
      · exact hall c hc (hid.trans hrc)
      · rcases hclaims _ c (hkey c hc) with ⟨u', hu', hid', hpos'⟩ | ⟨hnew, -⟩
        · rw [← hpos']
          exact hall u' hu' (hid'.trans (hid.trans hrc))
        · rw [hid, hrc] at hnew
          exact absurd hnew hdrawn.ne
    · refine ⟨by rw [hrc]; exact hlt, fun c hc hid => ?_⟩
      rcases List.mem_append.mp hc with hc | hc
      · exact absurd (hid.trans hrc) (h.drawn c hc).ne
      · refine hpos c ?_
        rw [← hrc, ← hid]
        exact hkey c hc

/-- The claims of the new state decide whether the vault stays backed. -/
theorem Backed.after (h : Backed v)
    (hmono : ∀ id, wasRedeemed v.trading.trace id = true → wasRedeemed s.trace id = true)
    (hclaims : ∀ k c, s.claims.claims.get? k = some c → c.isSuccess = true →
      wasRedeemed s.trace c.positionId = true) : Backed (v.after s) := by
  intro c hc hs
  rcases List.mem_append.mp hc with hc | hc
  · exact hmono _ (h c hc hs)
  · exact hclaims _ c (Lib.Table.mem_records.mp hc) hs

/-! ### One step -/

theorem aside_sound (h : Sound v) (hb : Backed v) (ha : Trading.Aside v.trading s) :
    Sound (v.after s) ∧ Backed (v.after s) := by
  refine ⟨h.after ha.uuids (fun k c hc => ?_) fun id r hr => .inl (ha.retries id r hr),
    hb.after (fun id hid => ?_) fun k c hc hs => ?_⟩
  · rw [ha.claims] at hc
    exact .inl ⟨c, h.held k c hc, Lib.Table.key_of_get? hc, rfl⟩
  · rw [ha.trace.wasRedeemed]
    exact hid
  · rw [ha.claims] at hc
    rw [ha.trace.wasRedeemed]
    exact hb c (h.held k c hc) hs

/-- A redeem turn on a claim of the position, or on a new one. -/
theorem redeem_sound {id : PositionId} {k : ClaimId} {ok : Bool} (h : Sound v) (hb : Backed v)
    (ht : Trading.RedeemTurn v.trading id k ok s)
    (hk : (∀ c ∈ v.history, c.claimId = k → c.positionId = id) ∧
      ((∃ u, v.trading.settlement.retryStates.get? id = some u ∧ k = u.claimId) ∨
        k = v.trading.uuids ∧ v.trading.uuids < s.uuids)) :
    Sound (v.after s) ∧ Backed (v.after s) := by
  obtain ⟨hpos, hkind⟩ := hk
  have hmono : ∀ i, wasRedeemed v.trading.trace i = true → wasRedeemed s.trace i = true := by
    intro i hi
    rw [ht.wasRedeemed, hi, Bool.true_or]
  have hnotNew : k = v.trading.uuids → v.trading.uuids < s.uuids := by
    intro hnew
    rcases hkind with ⟨u, hu, rfl⟩ | ⟨-, hlt⟩
    · exact absurd hnew (h.entries id u hu).1.ne
    · exact hlt
  have hclaim : ∀ c', s.claims.claims.get? k = some c' → c'.positionId = id := by
    intro c' hc'
    rcases (ht.claim c' hc').2 with ⟨c, hc, hcp⟩ | ⟨-, hcp⟩
    · rw [hcp]
      exact hpos c (h.held k c hc) (Lib.Table.key_of_get? hc)
    · exact hcp
  refine ⟨h.after ht.uuids (fun j c hc => ?_) (fun j r hr => ?_), hb.after hmono fun j c hc hs => ?_⟩
  · by_cases hj : j = k
    · subst hj
      rcases (ht.claim c hc).2 with ⟨u, hu, hcp⟩ | ⟨hnew, -⟩
      · exact .inl ⟨u, h.held j u hu, Lib.Table.key_of_get? hu, hcp.symm⟩
      · exact .inr ⟨hnew, hnotNew hnew⟩
    · rw [ht.others j hj] at hc
      exact .inl ⟨c, h.held j c hc, Lib.Table.key_of_get? hc, rfl⟩
  · rcases ht.retries j r hr with hold | ⟨rfl, hrk⟩
    · exact .inl hold
    · rcases hkind with ⟨u, hu, hku⟩ | ⟨rfl, hlt⟩
      · exact .inl ⟨u, hu, hrk.trans hku⟩
      · exact .inr ⟨hrk, hlt, hclaim⟩
  · by_cases hj : j = k
    · subst hj
      have hid := hclaim c hc
      rcases (ht.claim c hc).1 hs with ⟨u, hu, hus⟩ | ⟨-, hok⟩
      · have hu' := h.held j u hu
        have hup := hpos u hu' (Lib.Table.key_of_get? hu)
        rw [hid, ← hup]
        exact hmono _ (hb u hu' hus)
      · rw [hid, ht.wasRedeemed, hok]
        simp
    · rw [ht.others j hj] at hc
      exact hmono _ (hb c (h.held j c hc) hs)

theorem retry_sound (h : Sound v) (hb : Backed v) (w : World) (id : PositionId) :
    Sound (v.after (v.trading.retryOne w id).state) ∧
      Backed (v.after (v.trading.retryOne w id).state) := by
  rcases Trading.retryOne_cases v.trading w id with ⟨-, ha⟩ | ⟨-, r, ok, hr, ht⟩
  · exact aside_sound h hb ha
  · exact redeem_sound h hb ht ⟨(h.entries id r hr).2, .inl ⟨r, hr, rfl⟩⟩

theorem scan_sound (h : Sound v) (hb : Backed v) (w : World) (p : PositionRecord) :
    Sound (v.after (v.trading.scanOne w p).state) ∧
      Backed (v.after (v.trading.scanOne w p).state) := by
  rcases Trading.scanOne_cases v.trading w p with ⟨-, ha⟩ | ⟨-, hlt, ok, ht⟩
  · exact aside_sound h hb ha
  · exact redeem_sound h hb ht
      ⟨fun c hc hid => absurd hid (h.drawn c hc).ne, .inr ⟨rfl, hlt⟩⟩

/-- Every pending claim is still retried, or its position is redeemed. -/
def Watched (s : Trading) : Prop :=
  ∀ c ∈ s.claims.getPendingClaims,
    s.settlement.isPositionInRetry c.positionId = true ∨ wasRedeemed s.trace c.positionId = true

/-- Every successful claim is for a redeemed position. -/
def SuccessRedeemed (s : Trading) : Prop :=
  ∀ c ∈ s.claims.claims.records, c.isSuccess = true → wasRedeemed s.trace c.positionId = true

instance (s : Trading) : Decidable (SuccessRedeemed s) :=
  inferInstanceAs (Decidable (∀ c ∈ s.claims.claims.records, _ → _))

theorem positionId_reconciledClaim (now : Time) (c : ClaimRecord) :
    (s.reconciledClaim now c).positionId = c.positionId ∧
      (s.reconciledClaim now c).claimId = c.claimId := by
  unfold Trading.reconciledClaim
  split_ifs
  · exact ⟨rfl, rfl⟩
  · exact ⟨rfl, rfl⟩

theorem reconcileExternal_same (s : Trading) (w : World) :
    (s.reconcileExternal w).settlement = s.settlement ∧ (s.reconcileExternal w).trace = s.trace ∧
      (s.reconcileExternal w).uuids = s.uuids := by
  refine Trading.reconcileExternal_preserves
    (I := fun t => t.settlement = s.settlement ∧ t.trace = s.trace ∧ t.uuids = s.uuids) w
    (fun t c _ ht => ?_) ⟨rfl, rfl, rfl⟩
  unfold Trading.reconcileOne
  split_ifs
  · exact ht
  · exact ht

theorem reconcile_sound (h : Sound v) (hb : Backed v) (w : World) (hw : Watched v.trading) :
    Sound (v.after (v.trading.reconcileExternal w)) ∧
      Backed (v.after (v.trading.reconcileExternal w)) := by
  obtain ⟨hsettlement, htrace, huuids⟩ := reconcileExternal_same v.trading w
  have hback : ∀ k c, (v.trading.reconcileExternal w).claims.claims.get? k = some c →
      ∃ u, v.trading.claims.claims.get? k = some u ∧
        v.trading.reconciledClaim (v.trading.instant w).now u = c := by
    intro k c hc
    rw [Trading.reconcileExternal_get?] at hc
    exact Option.map_eq_some_iff.mp hc
  refine ⟨h.after huuids.ge (fun k c hc => ?_) (fun id r hr => ?_), hb.after ?_ fun k c hc hs => ?_⟩
  · obtain ⟨u, hu, rfl⟩ := hback k c hc
    exact .inl ⟨u, h.held k u hu, Lib.Table.key_of_get? hu, (positionId_reconciledClaim _ u).1.symm⟩
  · rw [hsettlement] at hr
    exact .inl ⟨r, hr, rfl⟩
  · intro id hid
    rw [htrace]
    exact hid
  · obtain ⟨u, hu, rfl⟩ := hback k c hc
    rw [htrace, (positionId_reconciledClaim _ u).1]
    -- an old success, or a pending claim that nobody retries
    unfold Trading.reconciledClaim at hs
    split_ifs at hs with hclosed
    · rw [Bool.and_eq_true, Bool.not_eq_true'] at hclosed
      have hmem : u ∈ v.trading.claims.getPendingClaims :=
        List.mem_filter.mpr ⟨Lib.Table.mem_records_of_get? hu, hclosed.1⟩
      rcases hw u hmem with hretry | hred
      · rw [hclosed.2] at hretry
        cases hretry
      · exact hred
    · exact hb u (h.held k u hu) hs

/-- Reconciliation makes every pending claim that nobody retries a success. -/
theorem watched_of_reconcile (s : Trading) (w : World)
    (h : SuccessRedeemed (s.reconcileExternal w)) : Watched s := by
  intro c hc
  obtain ⟨hmem, hpending⟩ := List.mem_filter.mp hc
  cases hretry : s.settlement.isPositionInRetry c.positionId with
  | true => exact .inl rfl
  | false =>
    right
    have hget := Trading.reconcileExternal_get? w s c.claimId
    rw [Lib.Table.mem_records.mp hmem, Option.map_some] at hget
    have hclosed : s.reconciledClaim (s.instant w).now c =
        ClaimManager.reconciled c (s.instant w).now := by
      unfold Trading.reconciledClaim
      rw [if_pos (by rw [hpending, hretry]; rfl)]
    rw [hclosed] at hget
    have hred := h _ (Lib.Table.mem_records_of_get? hget) rfl
    rw [(reconcileExternal_same s w).2.1] at hred
    exact hred

/-- A claim after a restore is a restored one or was there before. -/
theorem restoreClaim_foldl (cs : List ClaimRecord) : ∀ (m : ClaimManager) (k : ClaimId)
    (c : ClaimRecord), (cs.foldl ClaimManager.restoreClaim m).claims.get? k = some c →
      c ∈ cs ∧ c.claimId = k ∨ m.claims.get? k = some c := by
  induction cs with
  | nil => exact fun m k c hc => .inr hc
  | cons r cs ih =>
    intro m k c hc
    rcases ih (m.restoreClaim r) k c hc with ⟨hmem, hk⟩ | hget
    · exact .inl ⟨List.mem_cons_of_mem r hmem, hk⟩
    · simp only [ClaimManager.restoreClaim, Lib.Table.get?_put] at hget
      split_ifs at hget with hk
      · obtain rfl := Option.some.inj hget
        exact .inl ⟨List.mem_cons_self, hk⟩
      · exact .inr hget

/-- A start: stored claims over those that are still in memory, and the retry entries that are. -/
theorem restore_sound (h : Sound v) (hb : Backed v) {cs : List ClaimRecord} (hcs : v.Stored cs)
    {m : ClaimManager} (hclaims : s.claims = cs.foldl ClaimManager.restoreClaim m)
    (hm : ∀ k c, m.claims.get? k = some c → c ∈ v.history)
    (hretry : ∀ id r, s.settlement.retryStates.get? id = some r →
      v.trading.settlement.retryStates.get? id = some r)
    (htrace : s.trace = v.trading.trace) (huuids : s.uuids = v.trading.uuids) :
    Sound (v.after s) ∧ Backed (v.after s) := by
  have hback : ∀ k c, s.claims.claims.get? k = some c → ∃ u ∈ v.history, u.claimId = k ∧
      u.positionId = c.positionId ∧ (c.isSuccess = true → u.isSuccess = true) := by
    intro k c hc
    rw [hclaims] at hc
    rcases restoreClaim_foldl cs m k c hc with ⟨hmem, hk⟩ | hget
    · obtain ⟨u, hu, hid, hrest⟩ := hcs c hmem
      exact ⟨u, hu, hid.trans hk, hrest⟩
    · exact ⟨c, hm k c hget, Lib.Table.key_of_get? hget, rfl, id⟩
  refine ⟨h.after huuids.ge (fun k c hc => ?_) (fun id r hr => .inl ⟨r, hretry id r hr, rfl⟩),
    hb.after (fun id hid => by rw [htrace]; exact hid) fun k c hc hs => ?_⟩
  · obtain ⟨u, hu, hid, hpos, -⟩ := hback k c hc
    exact .inl ⟨u, hu, hid, hpos⟩
  · obtain ⟨u, hu, -, hpos, hsuccess⟩ := hback k c hc
    rw [htrace, ← hpos]
    exact hb u hu (hsuccess hs)

/-- **One step** keeps the invariant, if a reconciliation finds its pending claims watched. -/
theorem step_sound {l : Label} (h : Sound v ∧ Backed v)
    (hw : ∀ w, l = .reconcile w → Watched v.trading) (hst : Step v l v') : Sound v' ∧ Backed v' := by
  obtain ⟨h, hb⟩ := h
  cases hst with
  | aside s ha => exact aside_sound h hb ha
  | retry w id => exact retry_sound h hb w id
  | scan w p => exact scan_sound h hb w p
  | reconcile w => exact reconcile_sound h hb w (hw w rfl)
  | startAgain ps cs now hcs =>
    exact restore_sound h hb hcs (m := v.trading.claims) rfl h.held (fun _ _ hr => hr) rfl rfl
  | restart ps cs now hcs =>
    refine restore_sound h hb hcs (m := v.trading.rewired.claims) rfl (fun k c hc => ?_)
      (fun id r hr => ?_) rfl rfl
    · cases hc
    · cases hr

/-! ### A cycle as a run -/

/-- The state is reached from `v` by a run of steps of the allowed kind. -/
def Reaches (allow : Label → Bool) (v : Vault) (s : Trading) : Prop :=
  ∃ (tr : List (Lib.Taken Vault Label)) (u : Vault),
    Lib.Run Step v tr (u.after s) ∧ ∀ x ∈ tr, allow x.label = true

section Reaches

variable {allow : Label → Bool}

theorem Reaches.snoc {s' : Trading} {l : Label} (h : Reaches allow v s) (hl : allow l = true)
    (hst : ∀ u : Vault, u.trading = s → Step u l (u.after s')) : Reaches allow v s' := by
  obtain ⟨tr, u, hrun, hall⟩ := h
  refine ⟨_, u.after s, hrun.snoc (hst (u.after s) rfl), fun x hx => ?_⟩
  rcases List.mem_append.mp hx with hx | hx
  · exact hall x hx
  · rw [List.mem_singleton.mp hx]
    exact hl

theorem Reaches.aside {s' : Trading} (h : Reaches allow v s) (hallow : allow .aside = true)
    (ha : Trading.Aside s s') : Reaches allow v s' :=
  h.snoc (l := .aside) hallow fun u hu => .aside u s' (hu ▸ ha)

theorem Reaches.start (hallow : allow .aside = true) (v : Vault) : Reaches allow v v.trading := by
  refine ⟨_, v, .single (.aside v v.trading (.refl _)), fun x hx => ?_⟩
  rw [List.mem_singleton.mp hx]
  exact hallow

end Reaches

theorem aside_of_exitFrame {s s' : Trading} (h : Trading.ExitFrame s s') : Trading.Aside s s' where
  trace := h.trace
  claims := by rw [h.claims]
  retries id r hr := by
    rw [h.settlement] at hr
    exact ⟨r, hr, rfl⟩
  uuids := h.uuids.ge
  claimsMode := by rw [h.claims]
  settlementMode := by rw [h.settlement]

/-- **A call of `process_settlements` is a run of turns.** -/
theorem processSettlements_turns {allow : Label → Bool} (w : World)
    (hallow : ∀ l : Label, l.isTurn = true → allow l = true) (h : Reaches allow v s) :
    Reaches allow v (s.processSettlements w).state :=
  Trading.processSettlements_preserves (I := Reaches allow v)
    (fun _ id ht => ht.snoc (l := .retry w id) (hallow _ rfl) fun u hu => hu ▸ .retry u w id)
    (fun t id ht => ht.aside (hallow _ rfl) (Trading.dropRetry_aside t id))
    (fun _ p ht => ht.snoc (l := .scan w p) (hallow _ rfl) fun u hu => hu ▸ .scan u w p) h

/-- **A cycle is a run of turns** and a reconciliation, after the phases that redeem nothing. -/
theorem runCycle_turns (v : Vault) (w : World) (x : CycleInput) :
    Reaches Label.inProcess v (v.trading.runCycle w x).state := by
  have hcount : Trading.Aside v.trading v.trading.countCycle :=
    ⟨.refl _, rfl, fun _ r hr => ⟨r, hr, rfl⟩, le_rfl, rfl, rfl⟩
  refine Trading.runCycle_preserves (I := Reaches Label.inProcess v) v.trading w x
    ((Reaches.start rfl v).aside rfl hcount) ?_ ?_ ?_ ?_
  · exact fun t ht => ht.aside rfl (aside_of_exitFrame (Trading.triggerPhase_frame t w x))
  · exact fun t ht => ht.aside rfl (aside_of_exitFrame (Trading.closePhase_frame t w x))
  · refine fun t ht => processSettlements_turns w (fun l hl => ?_) ht
    cases l with
    | startAgain => cases hl
    | restart => cases hl
    | _ => rfl
  · exact fun t ht => ht.snoc (l := .reconcile w) rfl fun u hu => hu ▸ .reconcile u w

/-! ### Success and redemption -/

/-- **A successful claim means a redeemed position** all along a run iff every reconciliation of the run
finds each pending claim in retry or its position redeemed. -/
theorem success_redeemed_iff {tr : List (Lib.Taken Vault Label)} (h : Fresh v)
    (hrun : Lib.Run Step v tr v') :
    (∀ x ∈ tr, SuccessRedeemed x.post.trading) ↔
      ∀ x ∈ tr, ∀ w, x.label = .reconcile w → Watched x.pre.trading := by
  constructor
  · intro hall x hx w hl
    have hst := Lib.Run.step_of_mem hrun hx
    have hpost := hall x hx
    rw [hl] at hst
    generalize x.post = u at hst hpost
    cases hst
    exact watched_of_reconcile x.pre.trading w hpost
  · intro hw x hx
    have hinv := Lib.Run.invariant_under (I := fun u => Sound u ∧ Backed u)
      (C := fun u l => ∀ w, l = .reconcile w → Watched u.trading)
      (fun _ _ _ hI hC hst => step_sound hI hC hst) ⟨h.sound, h.backed⟩ hrun hw
    obtain ⟨hsound, hbacked⟩ := (hinv.2 x hx).2
    intro c hc hs
    exact hbacked c (hsound.held _ c (Lib.Table.mem_records.mp hc)) hs


/-- An expired position whose token is still in hand. -/
def unredeemedPosition : PositionRecord :=
  { positionId := 0, asset := "BTC", side := .up, conditionId := "event", tokenId := "token"
    state := .closed, createdAt := 0, openedAt := some 0, closedAt := some 300
    closeReason := some .expiry, netPositionShares := 5 }

/-- That position in live mode, nothing settled yet. -/
def unsettled : Trading :=
  { tracker := { positions := Lib.Table.empty.put unredeemedPosition }
    claims := { paperMode := false }
    settlement := { paperMode := false } }

/-- A relayer that refuses every redeem call; the event is reported as resolved, or not. -/
def refusing (resolved : Bool) : World := fun _ =>
  { now := 600
    resolution := { closed := true, resolved := resolved, winningSide := if resolved then "UP" else "" }
    redeem := .ok { success := .bool false } }

/-- The state after a cycle in which the redeem call is refused. -/
def refused : Trading := (unsettled.runCycle (refusing true) {}).state

/-- A restart that restores its claim. -/
def restarted : Trading := refused.restart [unredeemedPosition] refused.claims.claims.records 900

/-- A cycle in which the event is not reported as resolved. -/
def unresolved : Trading := (restarted.runCycle (refusing false) {}).state

/-- A relayer that redeems; the event is reported as resolved. -/
def paying : World := fun _ =>
  { now := 700
    resolution := { closed := true, resolved := true, winningSide := "UP" }
    redeem := .ok { success := .bool true, payoutUsdc := .num 5 } }

/-- After a scan whose redeem call is refused. -/
def attempted : Trading := (unsettled.scanOne (refusing true) unredeemedPosition).state

/-- The call is refused, a reconciliation leaves the claim to its retry, the retry redeems, and the bot restarts from
a store that has the claim as still pending: the next reconciliation makes it a success of a redeemed position. -/
theorem success_redeemed_late : ∃ tr v', Lib.Run Step ⟨unsettled, []⟩ tr v' ∧
    v'.trading.claims.claims.records.map ClaimRecord.isSuccess = [true] ∧
    ∀ x ∈ tr, SuccessRedeemed x.post.trading := by
  have hretried : Lib.Run Step ⟨unsettled, []⟩ _ _ := ((Lib.Run.single
    (.scan ⟨unsettled, []⟩ (refusing true) unredeemedPosition)).snoc
    (.reconcile _ (refusing true))).snoc
    (.retry _ paying 0)
  have hrun := (hretried.snoc (.restart _ [unredeemedPosition] attempted.claims.claims.records 900
    fun c hc => ⟨c, List.mem_append_left _ (List.mem_append_left _ (List.mem_append_right _ hc)), rfl, rfl, id⟩)).snoc
    (.reconcile _ paying)
  refine ⟨_, _, hrun, by decide +kernel, (success_redeemed_iff ⟨rfl, rfl, rfl⟩ hrun).mpr ?_⟩
  simp only [List.forall_mem_append, List.forall_mem_singleton]
  refine ⟨⟨⟨⟨by simp, fun w _ => ?_⟩, by simp⟩, by simp⟩, fun w _ => ?_⟩
  all_goals
    unfold Watched
    decide +kernel

/-- A redeem call is refused, the bot restarts and restores the pending claim; the retry entry is gone, and
the next cycle takes the claim as settled elsewhere. -/
theorem success_without_redeem :
    ∃ (tr : List (Lib.Taken Vault Label)) (v' : Vault), Fresh ⟨unsettled, []⟩ ∧
      Lib.Run Step ⟨unsettled, []⟩ tr v' ∧ v'.trading = unresolved ∧
      ¬SuccessRedeemed unresolved := by
  obtain ⟨tr₁, u₁, hrun₁, -⟩ : Reaches Label.inProcess ⟨unsettled, []⟩ refused :=
    runCycle_turns ⟨unsettled, []⟩ (refusing true) {}
  have hstored : (u₁.after refused).Stored refused.claims.claims.records :=
    fun c hc => ⟨c, List.mem_append_right _ hc, rfl, rfl, id⟩
  have hrestart : Step (u₁.after refused)
      (.restart [unredeemedPosition] refused.claims.claims.records 900)
      ((u₁.after refused).after restarted) := .restart _ _ _ _ hstored
  obtain ⟨tr₃, u₃, hrun₃, -⟩ : Reaches Label.inProcess ((u₁.after refused).after restarted)
      unresolved :=
    runCycle_turns ((u₁.after refused).after restarted) (refusing false) {}
  have hfails : ¬SuccessRedeemed unresolved := by decide +kernel
  exact ⟨_, u₃.after unresolved, ⟨rfl, rfl, rfl⟩, (hrun₁.snoc hrestart).append hrun₃, rfl, hfails⟩

end Vault

end Polyfast
