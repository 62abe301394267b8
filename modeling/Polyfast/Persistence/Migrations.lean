import Mathlib.Data.List.MinMax
import Polyfast.Lib.Dict
import Polyfast.Lib.Resume
import Polyfast.Py

/-!
# Migrations

At every start `run_migrations` performs the migration files whose version is above the highest one on record, and
records each after its statements. SQLite keeps a statement of a script at once, and the record when it is committed,
so a crash may leave a file half performed, or performed and not recorded.

* `SqlStatement.exec`, `Database`, `runMigrations`: the runner on a schema of tables and indexes;
* `migrationFiles`: the files;
* `resumable`: statements with IF NOT EXISTS can be performed again;
* `pending_reached`: the files that a run performs are those that are not recorded;
* `migrated_after`: whatever was interrupted before, a start leaves the schema of a new database, and each version on
  record once.
-/

namespace Polyfast

/-! ### The runner -/

/-- What stands under a name in the schema. -/
inductive SchemaObject
  | table (columns : List String)
  | index (table column : String)
  deriving DecidableEq

abbrev DbSchema := Lib.Dict String SchemaObject

/-- A statement of a migration file. -/
inductive SqlStatement
  | createTable (name : String) (columns : List String)
  | createIndex (name table column : String)
  deriving DecidableEq

def isTable (s : DbSchema) (name : String) : Bool :=
  match s.get? name with
  | some (.table _) => true
  | _ => false

/-- `CREATE … IF NOT EXISTS`. Tables and indexes share their names. -/
def SqlStatement.exec (s : DbSchema) : SqlStatement → Except PyError DbSchema
  | .createTable name columns =>
    match s.get? name with
    | none => .ok (s.set name (.table columns))
    | some (.table _) => .ok s
    | some (.index _ _) => .error .external
  | .createIndex name table column =>
    match s.get? table with
    | some (.table columns) =>
      match s.get? name with
      | none => if column ∈ columns then .ok (s.set name (.index table column)) else .error .external
      | some (.index _ _) => .ok s
      | some (.table _) => .error .external
    | _ => .error .external

structure MigrationFile where
  version : ℕ
  stem : String
  statements : List SqlStatement

/-- The schema, and the rows of `migrations`: versions and names. -/
abbrev Database := DbSchema × List (ℕ × String)

/-- The INSERT fails without the table, and for a version that is there. -/
def refusesRow (s : DbSchema) (rows : List (ℕ × String)) (row : ℕ × String) : Option PyError :=
  if isTable s "migrations" ∧ row.1 ∉ rows.map Prod.fst then none else some .external

def migrator : Lib.Writer DbSchema SqlStatement (ℕ × String) PyError where
  step := SqlStatement.exec
  refuses := refusesRow

/-- A file with the row that is recorded for it. -/
def MigrationFile.chunk (f : MigrationFile) : Lib.Chunk SqlStatement (ℕ × String) := ⟨f.statements, (f.version, f.stem)⟩

/-- `get_current_version`. -/
def currentVersion (db : Database) : ℕ :=
  if isTable db.1 "migrations" then ((db.2.map Prod.fst).maximum).unbotD 0 else 0

/-- The files that are not skipped. -/
def pendingFiles (files : List MigrationFile) (db : Database) : List MigrationFile :=
  files.filter (fun f => currentVersion db < f.version)

/-- What a run writes: the statements of a file one by one, then its row. -/
def migrationWrites (files : List MigrationFile) (db : Database) : List (Lib.Write SqlStatement (ℕ × String)) :=
  (pendingFiles files db).flatMap (·.chunk.writes)

/-- `run_migrations` with the migration files in the order of their names. -/
def runMigrations (files : List MigrationFile) (db : Database) : Call Database (List ℕ) :=
  match Lib.forEach migrator.write db (migrationWrites files db) with
  | (db', none) => .returns db' ((pendingFiles files db).map MigrationFile.version)
  | (db', some e) => .raises db' e

/-- What is there after a run that was cut after `k` writes. -/
def interrupted (files : List MigrationFile) (k : ℕ) (db : Database) : Database :=
  (Lib.forEach migrator.write db ((migrationWrites files db).take k)).1

/-! ### Statements can be performed again -/

/-- The statement finds what it asks for. -/
def SqlStatement.Settled (s : DbSchema) : SqlStatement → Prop
  | .createTable name _ => ∃ columns, s.get? name = some (.table columns)
  | .createIndex name table _ =>
    (∃ columns, s.get? table = some (.table columns)) ∧ ∃ t c, s.get? name = some (.index t c)

variable {s t : DbSchema} {e : SqlStatement}

theorem SqlStatement.Settled.exec (h : e.Settled s) : e.exec s = .ok s := by
  cases e with
  | createTable name columns =>
    obtain ⟨columns', hname⟩ := h
    simp only [SqlStatement.exec, hname]
  | createIndex name table column =>
    obtain ⟨⟨columns, htable⟩, t', c', hname⟩ := h
    simp only [SqlStatement.exec, htable, hname]

/-- A statement that goes through has made what it asks for, and left everything that was there. -/
theorem SqlStatement.exec_ok (h : e.exec s = .ok t) :
    e.Settled t ∧ ∀ name object, s.get? name = some object → t.get? name = some object := by
  cases e with
  | createTable name columns =>
    simp only [SqlStatement.exec] at h
    cases hname : s.get? name with
    | none =>
      rw [hname] at h
      cases h
      refine ⟨⟨columns, by rw [Lib.Dict.get?_set, if_pos rfl]⟩, fun k object hk => ?_⟩
      have hne : name ≠ k := by
        rintro rfl
        exact absurd (hname.symm.trans hk) (by simp)
      rw [Lib.Dict.get?_set, if_neg hne, hk]
    | some object =>
      cases object with
      | table columns' =>
        rw [hname] at h
        cases h
        exact ⟨⟨columns', hname⟩, fun _ _ hk => hk⟩
      | index t' c' =>
        rw [hname] at h
        cases h
  | createIndex name table column =>
    simp only [SqlStatement.exec] at h
    split at h
    · rename_i columns htable
      split at h
      · rename_i hname
        split_ifs at h
        cases h
        have hkeep : ∀ k object, s.get? k = some object →
            (s.set name (.index table column)).get? k = some object := by
          intro k object hk
          have hne : name ≠ k := by
            rintro rfl
            exact absurd (hname.symm.trans hk) (by simp)
          rw [Lib.Dict.get?_set, if_neg hne, hk]
        exact ⟨⟨⟨columns, hkeep _ _ htable⟩, table, column, by rw [Lib.Dict.get?_set, if_pos rfl]⟩, hkeep⟩
      · rename_i t' c' hname
        cases h
        exact ⟨⟨⟨columns, htable⟩, t', c', hname⟩, fun _ _ hk => hk⟩
      · cases h
    · cases h

theorem SqlStatement.Settled.mono (h : e.Settled s)
    (hkeep : ∀ name object, s.get? name = some object → t.get? name = some object) : e.Settled t := by
  cases e with
  | createTable name columns =>
    obtain ⟨columns', hname⟩ := h
    exact ⟨columns', hkeep _ _ hname⟩
  | createIndex name table column =>
    obtain ⟨⟨columns, htable⟩, t', c', hname⟩ := h
    exact ⟨⟨columns, hkeep _ _ htable⟩, t', c', hkeep _ _ hname⟩

theorem resumable : migrator.Resumable where
  again h := (SqlStatement.exec_ok h).1.exec
  stays h h' := ((SqlStatement.exec_ok h).1.mono (SqlStatement.exec_ok h').2).exec

/-- A table that was asked for is there. -/
theorem isTable_of_performs {es : List SqlStatement} {name : String} {columns : List String}
    (h : migrator.performs es s = .ok t) (he : .createTable name columns ∈ es) : isTable t name = true := by
  obtain ⟨columns', hname⟩ := (SqlStatement.exec_ok (resumable.settled h he)).1
  rw [isTable, hname]

/-! ### Runs -/

/-- Files that can be performed one after the other in a new database, the first of which makes the table of the
records. -/
structure ValidFiles (files : List MigrationFile) (final : DbSchema) : Prop where
  increasing : (files.map MigrationFile.version).Pairwise (· < ·)
  positive : ∀ f ∈ files, 0 < f.version
  table : ∀ f ∈ files.head?, ∃ columns, .createTable "migrations" columns ∈ f.statements
  runs : migrator.performs (files.flatMap MigrationFile.statements) .empty = .ok final

variable {files done rest : List MigrationFile} {final : DbSchema} {db : Database} {begun : List SqlStatement}

theorem flatMap_effects (files : List MigrationFile) :
    (files.map MigrationFile.chunk).flatMap Lib.Chunk.effects = files.flatMap MigrationFile.statements := by
  rw [List.flatMap_map]
  rfl

theorem map_mark (files : List MigrationFile) :
    (files.map MigrationFile.chunk).map Lib.Chunk.mark = files.map fun f => (f.version, f.stem) := by
  rw [List.map_map]
  rfl

/-- Where a file was performed, the table of the records is there. -/
theorem ValidFiles.recordsTable (h : ValidFiles files final) (hsplit : files = done ++ rest) (hdone : done ≠ [])
    {es : List SqlStatement} (hs : migrator.performs (done.flatMap MigrationFile.statements ++ es) .empty = .ok s) :
    isTable s "migrations" = true := by
  cases done with
  | nil => exact absurd rfl hdone
  | cons f done =>
    obtain ⟨columns, hmem⟩ := h.table f (by rw [hsplit]; rfl)
    have hall : .createTable "migrations" columns ∈ (f :: done).flatMap MigrationFile.statements ++ es := by
      rw [List.flatMap_cons]
      exact List.mem_append_left _ (List.mem_append_left _ hmem)
    exact isTable_of_performs hs hall

/-- The files are a script that can be run again. -/
theorem ValidFiles.valid (h : ValidFiles files final) :
    migrator.Valid .empty (files.map MigrationFile.chunk) final where
  resumable := resumable
  runs := by rw [flatMap_effects]; exact h.runs
  accepts := by
    intro done' c rest' s hsplit hs
    obtain ⟨done, tail, hfiles, rfl, htail⟩ := List.map_eq_append_iff.mp hsplit
    obtain ⟨f, rest, rfl, rfl, rfl⟩ := List.map_eq_cons_iff.mp htail
    have htable : isTable s "migrations" = true := by
      have hmap : done.map MigrationFile.chunk ++ [f.chunk] = (done ++ [f]).map MigrationFile.chunk := by simp
      rw [hmap, flatMap_effects] at hs
      have hs' : migrator.performs ((done ++ [f]).flatMap MigrationFile.statements ++ []) .empty = .ok s := by
        rw [List.append_nil]
        exact hs
      exact h.recordsTable (by rw [hfiles, List.append_assoc]; rfl) (by simp) hs'
    have hnew : f.version ∉ done.map MigrationFile.version := by
      have hincreasing := h.increasing
      rw [hfiles, List.map_append, List.pairwise_append] at hincreasing
      intro hmem
      exact absurd (hincreasing.2.2 _ hmem f.version (by simp)) (lt_irrefl _)
    refine if_pos ⟨htable, ?_⟩
    rw [map_mark, List.map_map]
    exact hnew

/-- What interrupted runs leave: the first files are recorded, and of the next one some statements are performed. -/
def ReachedFiles (files : List MigrationFile) (db : Database) (done rest : List MigrationFile)
    (begun : List SqlStatement) : Prop :=
  migrator.Reached .empty (files.map MigrationFile.chunk) db (done.map MigrationFile.chunk)
    (rest.map MigrationFile.chunk) begun ∧ files = done ++ rest

/-- The highest version on record is that of the last recorded file. -/
theorem ReachedFiles.currentVersion_lt_iff (h : ValidFiles files final) (hr : ReachedFiles files db done rest begun)
    {f : MigrationFile} (hf : f ∈ files) : currentVersion db < f.version ↔ ∀ g ∈ done, g.version < f.version := by
  obtain ⟨⟨-, hmarks, -, hstate⟩, hsplit⟩ := hr
  rw [map_mark] at hmarks
  rw [flatMap_effects] at hstate
  have hversions : db.2.map Prod.fst = done.map MigrationFile.version := by
    rw [hmarks, List.map_map]
    rfl
  unfold currentVersion
  rw [hversions]
  cases done with
  | nil =>
    have hnone : (List.maximum ([] : List ℕ)).unbotD 0 = 0 := rfl
    rw [List.map_nil, hnone, ite_self]
    exact iff_of_true (h.positive f hf) (by simp)
  | cons g done =>
    rw [if_pos (h.recordsTable hsplit (by simp) hstate)]
    have hne : (g :: done).map MigrationFile.version ≠ [] := by simp
    obtain ⟨highest, hmax⟩ := WithBot.ne_bot_iff_exists.mp (List.maximum_ne_bot_of_ne_nil hne)
    obtain ⟨hmem, hle⟩ := List.maximum_eq_coe_iff.mp hmax.symm
    rw [← hmax, WithBot.unbotD_coe]
    constructor
    · exact fun hlt k hk => (hle _ (List.mem_map_of_mem hk)).trans_lt hlt
    · intro hall
      obtain ⟨k, hk, rfl⟩ := List.mem_map.mp hmem
      exact hall k hk

/-- A run performs the files of its release that are not recorded. -/
theorem ReachedFiles.pending (h : ValidFiles files final) (hr : ReachedFiles files db done rest begun) (n : ℕ) :
    pendingFiles (files.take n) db = rest.take (n - done.length) := by
  have hsplit := hr.2
  have hold : ∀ f ∈ done, ¬currentVersion db < f.version := fun f hf hlt =>
    absurd ((hr.currentVersion_lt_iff h (by rw [hsplit]; exact List.mem_append_left _ hf)).mp hlt f hf) (lt_irrefl _)
  have hnew : ∀ f ∈ rest, currentVersion db < f.version := by
    intro f hf
    refine (hr.currentVersion_lt_iff h (by rw [hsplit]; exact List.mem_append_right _ hf)).mpr fun g hg => ?_
    have hincreasing := h.increasing
    rw [hsplit, List.map_append, List.pairwise_append] at hincreasing
    exact hincreasing.2.2 _ (List.mem_map_of_mem hg) _ (List.mem_map_of_mem hf)
  unfold pendingFiles
  rw [hsplit, List.take_append, List.filter_append]
  have hskip : (done.take n).filter (fun f => currentVersion db < f.version) = [] :=
    List.filter_eq_nil_iff.mpr fun f hf => by simpa using hold f (List.mem_of_mem_take hf)
  have hkeep : (rest.take (n - done.length)).filter (fun f => currentVersion db < f.version) =
      rest.take (n - done.length) :=
    List.filter_eq_self.mpr fun f hf => decide_eq_true (hnew f (List.mem_of_mem_take hf))
  rw [hskip, hkeep, List.nil_append]

/-- Files that were split as chunks are split as files. -/
theorem reachedFiles_of_reached {done' rest' : List (Lib.Chunk SqlStatement (ℕ × String))}
    (h : migrator.Reached .empty (files.map MigrationFile.chunk) db done' rest' begun) :
    ∃ done rest, ReachedFiles files db done rest begun := by
  obtain ⟨done, rest, hfiles, rfl, rfl⟩ := List.map_eq_append_iff.mp h.split
  exact ⟨done, rest, h, hfiles⟩

theorem reachedFiles_new (files : List MigrationFile) : ReachedFiles files (.empty, []) [] files [] :=
  ⟨Lib.Writer.reached_start _ _, rfl⟩

/-- **A run of any release, cut anywhere**, leaves what interrupted runs leave. -/
theorem ReachedFiles.interrupted (h : ValidFiles files final) (hr : ReachedFiles files db done rest begun) (n k : ℕ) :
    ∃ done' rest' begun', ReachedFiles files (interrupted (files.take n) k db) done' rest' begun' := by
  have hwrites : migrationWrites (files.take n) db =
      ((rest.take (n - done.length)).map MigrationFile.chunk).flatMap Lib.Chunk.writes := by
    rw [migrationWrites, hr.pending h n, List.flatMap_map]
  have hrun := h.valid.run_take hr.1 ((rest.take (n - done.length)).map MigrationFile.chunk)
    ((rest.drop (n - done.length)).map MigrationFile.chunk) (by rw [← List.map_append, List.take_append_drop]) k
  obtain ⟨done', rest', begun', hreached⟩ := hrun.reached
  obtain ⟨done'', rest'', hfiles⟩ := reachedFiles_of_reached hreached
  refine ⟨done'', rest'', begun', ?_⟩
  unfold Polyfast.interrupted
  rw [hwrites]
  exact hfiles

theorem ReachedFiles.runMigrations (h : ValidFiles files final) (hr : ReachedFiles files db done rest begun) :
    runMigrations files db =
      .returns (final, files.map fun f => (f.version, f.stem)) (rest.map MigrationFile.version) := by
  have hpending : pendingFiles files db = rest := by
    have hall := hr.pending h files.length
    rwa [List.take_length, List.take_of_length_le (by rw [hr.2, List.length_append]; omega)] at hall
  have hwrites : migrationWrites files db = (rest.map MigrationFile.chunk).flatMap Lib.Chunk.writes := by
    rw [migrationWrites, hpending, List.flatMap_map]
  unfold Polyfast.runMigrations
  rw [hwrites, h.valid.run_all hr.1, hpending, map_mark]

/-- **Migrations after interruptions.** Starts of any releases may be cut after any write. The next start that is not
performs what is not on record; then the schema is that of a new database, every version is on record once, in order,
and further starts perform nothing. -/
theorem migrated_after (h : ValidFiles files final) (starts : List (ℕ × ℕ)) :
    let db := starts.foldl (fun db start => interrupted (files.take start.1) start.2 db) (.empty, [])
    let migrated : Database := (final, files.map fun f => (f.version, f.stem))
    runMigrations files (.empty, []) = .returns migrated (files.map MigrationFile.version) ∧
      runMigrations files db = .returns migrated ((files.drop db.2.length).map MigrationFile.version) ∧
      runMigrations files migrated = .returns migrated [] := by
  have hreached : ∃ done rest begun, ReachedFiles files
      (starts.foldl (fun db start => interrupted (files.take start.1) start.2 db) (.empty, [])) done rest begun := by
    suffices hall : ∀ db : Database, (∃ done rest begun, ReachedFiles files db done rest begun) →
        ∃ done rest begun, ReachedFiles files
          (starts.foldl (fun db start => interrupted (files.take start.1) start.2 db) db) done rest begun from
      hall _ ⟨_, _, _, reachedFiles_new files⟩
    induction starts with
    | nil => exact fun db hdb => hdb
    | cons start starts ih =>
      rintro db ⟨done, rest, begun, hr⟩
      exact ih _ (hr.interrupted h start.1 start.2)
  obtain ⟨done, rest, begun, hr⟩ := hreached
  refine ⟨(reachedFiles_new files).runMigrations h, ?_, ?_⟩
  · have hlength : (starts.foldl (fun db start => interrupted (files.take start.1) start.2 db)
        ((.empty, []) : Database)).2.length = done.length := by
      rw [hr.1.marks, List.length_map, List.length_map]
    have hrest : files.drop done.length = rest := by rw [hr.2, List.drop_left]
    rw [hlength, hrest]
    exact hr.runMigrations h
  · have hall : ReachedFiles files (final, files.map fun f => (f.version, f.stem)) files [] [] := by
      refine ⟨⟨by simp, (map_mark files).symm, List.nil_prefix, ?_⟩, (List.append_nil _).symm⟩
      rw [List.append_nil, flatMap_effects]
      exact h.runs
    exact hall.runMigrations h

/-! ### The files -/

def initialFile : MigrationFile where
  version := 1
  stem := "001_initial"
  statements :=
    [.createTable "migrations" ["id", "version", "name", "applied_at"],
      .createTable "config_snapshots" ["id", "config_json", "created_at", "source"],
      .createTable "health_incidents"
        ["id", "severity", "category", "message", "payload_json", "created_at", "resolved_at"],
      .createTable "app_state" ["key", "value_json", "updated_at"]]

def sessionAccountingFile : MigrationFile where
  version := 2
  stem := "002_session_accounting"
  statements := [.createTable "session_accounting" ["session_id", "data_json", "created_at"]]

def discoveryCheckpointsFile : MigrationFile where
  version := 3
  stem := "003_discovery_checkpoints"
  statements :=
    [.createTable "discovery_checkpoints"
      ["id", "scan_data_json", "total_scanned", "total_matched", "parse_failures", "success", "scanned_at"]]

def balanceSnapshotsFile : MigrationFile where
  version := 4
  stem := "004_balance_snapshots"
  statements :=
    [.createTable "balance_snapshots"
      ["id", "total_balance", "available_balance", "fetched_at", "session_id", "created_at"]]

def positionsClaimsFile : MigrationFile where
  version := 5
  stem := "005_positions_claims"
  statements :=
    [.createTable "positions"
        ["position_id", "asset", "side", "condition_id", "token_id", "state", "created_at", "requested_amount_usd",
          "fill_price", "gross_fill_shares", "entry_fee_shares", "net_position_shares", "fee_rate", "opened_at",
          "exit_fill_price", "exit_gross_usdc", "actual_exit_fee_usdc", "net_exit_usdc", "net_realized_pnl",
          "close_reason", "close_trigger_set", "close_triggered_at", "close_requested_price", "closed_at",
          "updated_at"],
      .createIndex "idx_positions_state" "positions" "state",
      .createIndex "idx_positions_condition" "positions" "condition_id",
      .createTable "claims"
        ["claim_id", "condition_id", "position_id", "asset", "side", "claim_status", "outcome",
          "claimed_amount_usdc", "claimed_at", "retry_count", "last_error", "created_at", "updated_at"],
      .createIndex "idx_claims_status" "claims" "claim_status",
      .createIndex "idx_claims_position" "claims" "position_id"]

def settingsRegistryPtbFile : MigrationFile where
  version := 6
  stem := "006_settings_registry_ptb"
  statements :=
    [.createTable "coin_settings"
        ["coin", "coin_enabled", "side_mode", "delta_threshold", "price_min", "price_max", "spread_max", "time_min",
          "time_max", "event_max", "order_amount", "reactivate_on_return", "updated_at"],
      .createTable "registry_records"
        ["condition_id", "event_id", "asset", "question", "slug", "status", "first_seen_at", "last_seen_at",
          "status_changed_at", "end_date", "has_open_position", "updated_at"],
      .createIndex "idx_registry_status" "registry_records" "status",
      .createIndex "idx_registry_asset" "registry_records" "asset",
      .createTable "ptb_cache"
        ["condition_id", "asset", "ptb_value", "status", "source_name", "acquired_at", "retry_count", "last_error",
          "updated_at"]]

def migrationFiles : List MigrationFile :=
  [initialFile, sessionAccountingFile, discoveryCheckpointsFile, balanceSnapshotsFile, positionsClaimsFile,
    settingsRegistryPtbFile]

/-- The schema of a new database. -/
def migratedSchema : DbSchema :=
  match migrator.performs (migrationFiles.flatMap MigrationFile.statements) .empty with
  | .ok s => s
  | .error _ => .empty

theorem validFiles : ValidFiles migrationFiles migratedSchema where
  increasing := by decide
  positive := by decide
  table := by
    rintro f ⟨⟩
    exact ⟨_, List.mem_cons_self⟩
  runs := by decide +kernel

/-- A first start that is killed within the fifth file, one of an older release, and one that is killed when the fifth
file is performed but not recorded. -/
theorem migrated_after_kills :
    runMigrations migrationFiles
        ([((6 : ℕ), (15 : ℕ)), (4, 100), (6, 6)].foldl
          (fun db start => interrupted (migrationFiles.take start.1) start.2 db) (.empty, [])) =
      .returns (migratedSchema, migrationFiles.map fun f => (f.version, f.stem)) [5, 6] := by
  have hmigrated := (migrated_after validFiles [(6, 15), (4, 100), (6, 6)]).2.1
  have hrecorded : ([((6 : ℕ), (15 : ℕ)), (4, 100), (6, 6)].foldl
      (fun db start => interrupted (migrationFiles.take start.1) start.2 db)
      ((.empty, []) : Database)).2.length = 4 := by
    decide +kernel
  rw [hrecorded] at hmigrated
  exact hmigrated

end Polyfast
