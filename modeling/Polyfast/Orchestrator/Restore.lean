import Polyfast.Execution.Trading

/-!
# Restore

What `restore_state` loads from the store into the execution layer: stored positions, of which the pending
ones are rejected at once, and stored claims. `startAgain` is a start after a stop in the same process,
`restart` a start in a new one.
-/

namespace Polyfast

namespace PositionTracker

/-- One stored position: a pending one cannot be reconciled and is rejected. -/
def restoreOne (now : Time) (t : PositionTracker) (p : PositionRecord) : PositionTracker :=
  if p.state = .pendingOpen then ((t.restorePosition p).rejectFill p.positionId now).state
  else t.restorePosition p

/-- The stored positions, in the order they are loaded. -/
def restoreAll (t : PositionTracker) (ps : List PositionRecord) (now : Time) : PositionTracker :=
  ps.foldl (restoreOne now) t

/-- The record the tracker has of a stored position. -/
def restored (now : Time) (p : PositionRecord) : PositionRecord :=
  if p.state = .pendingOpen then rejected p now else p

variable {t : PositionTracker} {now : Time} {p : PositionRecord} {ps : List PositionRecord}

@[simp] theorem positionId_restored : (restored now p).positionId = p.positionId := by
  unfold restored
  split_ifs <;> rfl

/-- The stored position is loaded, whatever the tracker had under its id. -/
theorem positions_restoreOne : (restoreOne now t p).positions = t.positions.put (restored now p) := by
  unfold restoreOne restored
  split_ifs with hs
  · have hget : (t.restorePosition p).positions.get? p.positionId = some p := Lib.Table.get?_put_self _ _
    have hkey : p.positionId = (rejected p now).positionId := rfl
    rw [rejectFill_of_pending hget hs]
    exact Lib.Table.put_put hkey t.positions
  · rfl

/-- The records that are loaded are put under their ids, one after the other. -/
theorem positions_restoreAll (ps : List PositionRecord) : ∀ t : PositionTracker,
    (t.restoreAll ps now).positions = (ps.map (restored now)).foldl Lib.Table.put t.positions := by
  induction ps with
  | nil => exact fun t => rfl
  | cons q ps ih =>
    intro t
    show ((restoreOne now t q).restoreAll ps now).positions = _
    rw [ih, positions_restoreOne]
    rfl

theorem map_positionId_restored (ps : List PositionRecord) (now : Time) :
    (ps.map (restored now)).map PositionRecord.positionId = ps.map PositionRecord.positionId := by
  rw [List.map_map]
  exact List.map_congr_left fun p _ => positionId_restored

theorem get?_restoreAll_notMem {k : PositionId} (hk : k ∉ ps.map PositionRecord.positionId) :
    (t.restoreAll ps now).positions.get? k = t.positions.get? k := by
  rw [positions_restoreAll]
  refine Lib.Table.get?_foldl_put_notMem _ ?_ _
  rw [map_positionId_restored]
  exact hk

/-- **What `restore_state` loads.** Every stored position is in the tracker, a pending one rejected. -/
theorem get?_restoreAll (hnodup : (ps.map PositionRecord.positionId).Nodup) (hp : p ∈ ps) :
    (t.restoreAll ps now).positions.get? p.positionId = some (restored now p) := by
  rw [positions_restoreAll]
  have hnodup' : ((ps.map (restored now)).map PositionRecord.positionId).Nodup := by
    rw [map_positionId_restored]
    exact hnodup
  have hget := Lib.Table.get?_foldl_put hnodup' (List.mem_map_of_mem hp) t.positions
  rw [positionId_restored] at hget
  exact hget

end PositionTracker

namespace Trading

variable (s : Trading) (ps : List PositionRecord) (cs : List ClaimRecord) (now : Time)

/-- The positions and claims that `restore_state` loads. -/
def restoreState : Trading :=
  { s with
    tracker := s.tracker.restoreAll ps now
    claims := cs.foldl ClaimManager.restoreClaim s.claims }

/-- `stop` and `start`: the tracker is reset, the other objects live on. -/
def startAgain : Trading := { s with tracker := s.tracker.reset }.restoreState ps cs now

/-- The objects that wiring creates in a new process, with the same configuration. -/
def rewired : Trading where
  executor := { validator := s.executor.validator, hasClob := s.executor.hasClob
                mode := s.executor.mode, botMax := s.executor.botMax }
  tracker := { feeCalc := s.tracker.feeCalc, hasStore := s.tracker.hasStore }
  balance := { staleThreshold := s.balance.staleThreshold, hasFetchFn := s.balance.hasFetchFn }
  evaluator := { s.evaluator with lastPrices := .empty }
  exitExecutor := { hasClob := s.exitExecutor.hasClob, paperMode := s.exitExecutor.paperMode
                    retryIntervalsMs := s.exitExecutor.retryIntervalsMs
                    maxCloseRetries := s.exitExecutor.maxCloseRetries
                    closeFailCooldownSec := s.exitExecutor.closeFailCooldownSec
                    exitOrderTimeoutSec := s.exitExecutor.exitOrderTimeoutSec }
  claims := { paperMode := s.claims.paperMode, hasStore := s.claims.hasStore
              retrySchedule := s.claims.retrySchedule, retrySteady := s.claims.retrySteady
              maxRetries := s.claims.maxRetries }
  settlement := { paperMode := s.settlement.paperMode, hasClob := s.settlement.hasClob
                  hasPtbFetcher := s.settlement.hasPtbFetcher
                  hasCoinPrice := s.settlement.hasCoinPrice }
  uuids := s.uuids
  trace := s.trace

/-- A start in a new process. -/
def restart : Trading := s.rewired.restoreState ps cs now

end Trading

end Polyfast
