import Mathlib.Data.List.Basic
import Mathlib.Data.Nat.Notation

/-!
# Health incidents

What a component reports of a problem, and the incidents it keeps.
-/

namespace Polyfast

inductive HealthSeverity
  | info
  | warning
  | critical
  deriving DecidableEq

structure HealthIncident where
  severity : HealthSeverity
  category : String
  message : String
  suggestedAction : String := ""
  deriving DecidableEq

/-- `deque(maxlen=100)`. -/
structure IncidentLog where
  items : List HealthIncident
  length_le : items.length ≤ 100

namespace IncidentLog

def empty : IncidentLog := ⟨[], Nat.zero_le _⟩

/-- A full log loses its oldest incident. -/
def append (log : IncidentLog) (incident : HealthIncident) : IncidentLog where
  items := (log.items ++ [incident]).drop (log.items.length + 1 - 100)
  length_le := by
    rw [List.length_drop, List.length_append, List.length_singleton]
    omega

theorem mem_append (log : IncidentLog) (incident : HealthIncident) : incident ∈ (log.append incident).items := by
  have hle : log.items.length + 1 - 100 ≤ log.items.length := by
    have := log.length_le
    omega
  change incident ∈ (log.items ++ [incident]).drop (log.items.length + 1 - 100)
  rw [List.drop_append_of_le_length hle]
  exact List.mem_append_right _ (List.mem_singleton_self incident)

end IncidentLog

end Polyfast
