import EspIris.Lib.Replay

/-! `migrations.py`: the schema of the gateway's database grows by versions. No statement of a migration
opens a transaction, so that each is in the file once it has been executed. -/

namespace EspIris.Gateway.Migrations
open Replay

inductive Cell
  | null
  | integer (value : Int)
  | text (value : String)
  deriving DecidableEq, Repr

structure Column where
  name : String
  declaration : String
  initial : Cell := .null
  deriving DecidableEq, Repr

structure Table where
  name : String
  columns : List Column
  constraints : List String
  rows : List (List Cell)
  deriving DecidableEq, Repr

/-- An index; `filter` is a column and the values that it takes in the rows that are indexed. -/
structure Index where
  name : String
  table : String
  columns : List String
  unique : Bool
  filter : Option (String × List String)
  deriving DecidableEq, Repr

/-- The file, with its `user_version`. -/
structure Database where
  version : Int
  tables : List Table
  indices : List Index
  deriving DecidableEq, Repr

/-- The statements of the migrations; `addMissingColumn` is one that a migration executes only where
`PRAGMA table_info`, which changes nothing, does not show the column. -/
inductive Statement
  | createTable (ifNotExists : Bool) (name : String) (columns : List Column) (constraints : List String)
  | createIndex (ifNotExists : Bool) (index : Index)
  | addColumn (table : String) (column : Column)
  | addMissingColumn (table : String) (column : Column)
  | setVersion (version : Int)
  deriving DecidableEq, Repr

def Table.columnNames (table : Table) : List String := table.columns.map Column.name

def Table.value (table : Table) (row : List Cell) (column : String) : Cell :=
  row.getD (table.columnNames.idxOf column) .null

def Table.keys (table : Table) (index : Index) : List (List Cell) :=
  let indexed := table.rows.filter fun row =>
    index.filter.all fun (column, values) => values.any fun value => table.value row column = .text value
  (indexed.map fun row => index.columns.map (table.value row)).filter fun key => .null ∉ key

def Table.add (table : Table) (column : Column) : Table :=
  { table with
    columns := table.columns ++ [column]
    rows := table.rows.map (· ++ [column.initial]) }

namespace Database
variable (db : Database)

def table (name : String) : Option Table := db.tables.find? fun table => table.name = name

def hasTable (name : String) : Bool := db.tables.any fun table => table.name = name

def hasIndex (name : String) : Bool := db.indices.any fun index => index.name = name

/-- `PRAGMA table_info`. -/
def columns (name : String) : List String := ((db.table name).map Table.columnNames).getD []

def addColumn (name : String) (column : Column) : Except String Database :=
  match db.table name with
  | none => .error ("no such table: " ++ name)
  | some table =>
    if column.name ∈ table.columnNames then .error ("duplicate column name: " ++ column.name)
    else .ok { db with tables := db.tables.map fun table => if table.name = name then table.add column else table }

def createIndex (ifNotExists : Bool) (index : Index) : Except String Database :=
  match db.table index.table with
  | none => .error ("no such table: main." ++ index.table)
  | some table =>
    if db.hasTable index.name then .error ("there is already a table named " ++ index.name)
    else if db.hasIndex index.name then
      if ifNotExists then .ok db else .error ("index " ++ index.name ++ " already exists")
    else if ∃ column ∈ index.columns ++ index.filter.toList.map Prod.fst, column ∉ table.columnNames then
      .error ("no such column in " ++ index.table)
    else if index.unique ∧ ¬ (table.keys index).Nodup then .error ("UNIQUE constraint failed: " ++ index.table)
    else .ok { db with indices := db.indices ++ [index] }

def createTable (ifNotExists : Bool) (name : String) (columns : List Column) (constraints : List String) :
    Except String Database :=
  if db.hasTable name then if ifNotExists then .ok db else .error ("table " ++ name ++ " already exists")
  else if db.hasIndex name then .error ("there is already an index named " ++ name)
  else .ok { db with tables := db.tables ++ [⟨name, columns, constraints, []⟩] }

end Database

def execute (statement : Statement) (db : Database) : Except String Database :=
  match statement with
  | .createTable ifNotExists name columns constraints => db.createTable ifNotExists name columns constraints
  | .createIndex ifNotExists index => db.createIndex ifNotExists index
  | .addColumn table column => db.addColumn table column
  | .addMissingColumn table column => if column.name ∈ db.columns table then .ok db else db.addColumn table column
  | .setVersion version => .ok { db with version := version }

def Statement.once : Statement → Bool
  | .createTable ifNotExists _ _ _ => !ifNotExists
  | .createIndex ifNotExists _ => !ifNotExists
  | .addColumn _ _ => true
  | .addMissingColumn _ _ => false
  | .setVersion _ => false

def Statement.sets : Statement → Bool
  | .setVersion _ => true
  | _ => false

section facts
variable {db after : Database} {statement : Statement}

theorem addColumn_cases {name : String} {column : Column} (added : db.addColumn name column = .ok after) :
    (∃ table, db.table name = some table ∧ column.name ∉ table.columnNames) ∧ after = { db with
      tables := db.tables.map fun table => if table.name = name then table.add column else table } := by
  unfold Database.addColumn at added
  split at added
  next => cases added
  next table found =>
    split at added
    next => cases added
    next new =>
      cases added
      exact ⟨⟨table, found, new⟩, rfl⟩

theorem execute_cases (executed : execute statement db = .ok after) :
    after = db ∨
    (∃ ifNotExists name columns constraints, statement = .createTable ifNotExists name columns constraints ∧
      db.hasTable name = false ∧ db.hasIndex name = false ∧
      after = { db with tables := db.tables ++ [⟨name, columns, constraints, []⟩] }) ∨
    (∃ ifNotExists index, statement = .createIndex ifNotExists index ∧ db.hasTable index.name = false ∧
      (db.table index.table).isSome ∧ after = { db with indices := db.indices ++ [index] }) ∨
    (∃ name column, (∃ table, db.table name = some table) ∧
      (statement = .addColumn name column ∨ statement = .addMissingColumn name column) ∧
      after = { db with tables := db.tables.map fun table => if table.name = name then table.add column else table }) ∨
    (∃ version, statement = .setVersion version ∧ after = { db with version := version }) := by
  cases statement with
  | createTable ifNotExists name columns constraints =>
    unfold execute Database.createTable at executed
    dsimp only at executed
    split at executed
    next =>
      split at executed
      next =>
        cases executed
        exact .inl rfl
      next => cases executed
    next missing =>
      split at executed
      next => cases executed
      next free =>
        cases executed
        exact .inr (.inl ⟨ifNotExists, name, columns, constraints, rfl, Bool.of_not_eq_true missing, Bool.of_not_eq_true free, rfl⟩)
  | createIndex ifNotExists index =>
    unfold execute Database.createIndex at executed
    dsimp only at executed
    split at executed
    next => cases executed
    next table found =>
      split at executed
      next => cases executed
      next free =>
        split at executed
        next =>
          split at executed
          next =>
            cases executed
            exact .inl rfl
          next => cases executed
        split at executed
        next => cases executed
        split at executed
        next => cases executed
        cases executed
        refine .inr (.inr (.inl ⟨ifNotExists, index, rfl, Bool.of_not_eq_true free, ?_, rfl⟩))
        rw [found]
        rfl
  | addColumn name column =>
    obtain ⟨⟨table, found, _⟩, same⟩ := addColumn_cases executed
    exact .inr (.inr (.inr (.inl ⟨name, column, ⟨table, found⟩, .inl rfl, same⟩)))
  | addMissingColumn name column =>
    unfold execute at executed
    dsimp only at executed
    split at executed
    next =>
      cases executed
      exact .inl rfl
    obtain ⟨⟨table, found, _⟩, same⟩ := addColumn_cases executed
    exact .inr (.inr (.inr (.inl ⟨name, column, ⟨table, found⟩, .inr rfl, same⟩)))
  | setVersion version =>
    cases executed
    exact .inr (.inr (.inr (.inr ⟨version, rfl, rfl⟩)))

theorem renamed_none (name other : String) (column : Column) :
    ((fun table : Table => decide (table.name = name)) ∘
      fun table => if table.name = other then table.add column else table) = fun table => decide (table.name = name) := by
  funext table
  dsimp only [Function.comp]
  split <;> rfl

theorem table_kept {name : String} {table : Table} (executed : execute statement db = .ok after)
    (found : db.table name = some table) :
    ∃ later, after.table name = some later ∧ table.columnNames ⊆ later.columnNames := by
  rcases execute_cases executed with rfl | ⟨_, other, columns, constraints, _, missing, _, rfl⟩ | ⟨_, index, _, _, _, rfl⟩ |
    ⟨other, column, _, _, rfl⟩ | ⟨version, _, rfl⟩
  · exact ⟨table, found, List.Subset.refl _⟩
  · refine ⟨table, ?_, List.Subset.refl _⟩
    unfold Database.table at found ⊢
    rw [List.find?_append, found]
    rfl
  · exact ⟨table, found, List.Subset.refl _⟩
  · refine ⟨if table.name = other then table.add column else table, ?_, ?_⟩
    · unfold Database.table at found ⊢
      rw [List.find?_map, renamed_none, found]
      rfl
    · split
      next =>
        unfold Table.columnNames Table.add
        rw [List.map_append]
        exact List.subset_append_left _ _
      next => exact List.Subset.refl _
  · exact ⟨table, found, List.Subset.refl _⟩

theorem hasTable_iff {name : String} : db.hasTable name = true ↔ ∃ table, db.table name = some table := by
  unfold Database.hasTable Database.table
  rw [← Option.isSome_iff_exists, List.find?_isSome, List.any_eq_true]

theorem mem_columns {name column : String} :
    column ∈ db.columns name ↔ ∃ table, db.table name = some table ∧ column ∈ table.columnNames := by
  unfold Database.columns
  cases db.table name with
  | none => exact iff_of_false List.not_mem_nil fun ⟨table, is, _⟩ => by cases is
  | some table =>
    constructor
    · exact fun member => ⟨table, rfl, member⟩
    · rintro ⟨other, is, member⟩
      cases is
      exact member

theorem hasTable_lasting (name : String) : Lasting execute fun db => db.hasTable name = true := by
  intro statement before after executed here
  obtain ⟨table, found⟩ := hasTable_iff.mp here
  obtain ⟨later, kept, _⟩ := table_kept executed found
  exact hasTable_iff.mpr ⟨later, kept⟩

theorem columns_lasting (name column : String) : Lasting execute fun db => column ∈ db.columns name := by
  intro statement before after executed here
  obtain ⟨table, found, member⟩ := mem_columns.mp here
  obtain ⟨later, kept, part⟩ := table_kept executed found
  exact mem_columns.mpr ⟨later, kept, part member⟩

def Indexed (index : Index) (db : Database) : Prop :=
  db.hasTable index.table = true ∧ db.hasTable index.name = false ∧ db.hasIndex index.name = true

theorem indexed_lasting (index : Index) : Lasting execute (Indexed index) := by
  intro statement before after executed here
  obtain ⟨table, free, has⟩ := here
  refine ⟨hasTable_lasting index.table statement before after executed table, ?_⟩
  rcases execute_cases executed with rfl | ⟨_, name, columns, constraints, _, _, unused, rfl⟩ | ⟨_, other, _, _, _, rfl⟩ |
    ⟨name, column, _, _, rfl⟩ | ⟨version, _, rfl⟩
  · exact ⟨free, has⟩
  · have apart : name ≠ index.name := by
      rintro rfl
      exact Bool.noConfusion (unused.symm.trans has)
    refine ⟨?_, has⟩
    unfold Database.hasTable at free ⊢
    rw [List.any_append, free, List.any_cons, decide_eq_false apart]
    rfl
  · refine ⟨free, ?_⟩
    unfold Database.hasIndex at has ⊢
    rw [List.any_append, has]
    rfl
  · refine ⟨?_, has⟩
    unfold Database.hasTable at free ⊢
    rw [List.any_map, renamed_none]
    exact free
  · exact ⟨free, has⟩

theorem createTable_has {ifNotExists : Bool} {name : String} {columns : List Column} {constraints : List String}
    (executed : execute (.createTable ifNotExists name columns constraints) db = .ok after) : after.hasTable name = true := by
  unfold execute Database.createTable at executed
  dsimp only at executed
  split at executed
  next here =>
    split at executed
    next =>
      cases executed
      exact here
    next => cases executed
  split at executed
  next => cases executed
  cases executed
  unfold Database.hasTable
  rw [List.any_append, List.any_cons, decide_eq_true rfl, Bool.true_or, Bool.or_true]

theorem createIndex_indexed {ifNotExists : Bool} {index : Index}
    (executed : execute (.createIndex ifNotExists index) db = .ok after) : Indexed index after := by
  unfold execute Database.createIndex at executed
  dsimp only at executed
  split at executed
  next => cases executed
  next table found =>
    have has := hasTable_iff.mpr ⟨table, found⟩
    split at executed
    next => cases executed
    next free =>
      split at executed
      next named =>
        split at executed
        next =>
          cases executed
          exact ⟨has, Bool.of_not_eq_true free, named⟩
        next => cases executed
      split at executed
      next => cases executed
      split at executed
      next => cases executed
      cases executed
      refine ⟨has, Bool.of_not_eq_true free, ?_⟩
      unfold Database.hasIndex
      rw [List.any_append, List.any_cons, decide_eq_true rfl, Bool.true_or, Bool.or_true]

theorem addColumn_has {name : String} {column : Column} (added : db.addColumn name column = .ok after) :
    column.name ∈ after.columns name := by
  obtain ⟨⟨table, found, _⟩, rfl⟩ := addColumn_cases added
  refine mem_columns.mpr ⟨table.add column, ?_, ?_⟩
  · have named : table.name = name :=
      of_decide_eq_true (List.find?_some (p := fun table : Table => decide (table.name = name)) found)
    unfold Database.table at found ⊢
    rw [List.find?_map, renamed_none, found]
    exact congrArg some (if_pos named)
  · unfold Table.columnNames Table.add
    rw [List.map_append]
    exact List.mem_append_right _ List.mem_cons_self

/-- A statement with a guard changes nothing once it has been executed. -/
theorem guarded_settles (repeats : statement.once = false) (keeps : ∀ version, statement ≠ .setVersion version) :
    Settles execute statement := by
  cases statement with
  | createTable ifNotExists name columns constraints =>
    cases ifNotExists with
    | false => cases repeats
    | true =>
      refine ⟨_, hasTable_lasting name, fun _ _ => createTable_has, fun db here => ?_⟩
      unfold execute Database.createTable
      dsimp only
      rw [here]
      rfl
  | createIndex ifNotExists index =>
    cases ifNotExists with
    | false => cases repeats
    | true =>
      refine ⟨_, indexed_lasting index, fun _ _ => createIndex_indexed, fun db here => ?_⟩
      obtain ⟨has, free, named⟩ := here
      obtain ⟨table, found⟩ := hasTable_iff.mp has
      unfold execute Database.createIndex
      dsimp only
      rw [found, free, named]
      rfl
  | addColumn => cases repeats
  | addMissingColumn table column =>
    refine ⟨_, columns_lasting table column.name, fun before after executed => ?_, fun db here => ?_⟩
    · unfold execute at executed
      dsimp only at executed
      split at executed
      next here =>
        cases executed
        exact here
      next => exact addColumn_has executed
    · unfold execute
      dsimp only
      rw [if_pos here]
  | setVersion version => exact absurd rfl (keeps version)

theorem unguarded_spends (single : statement.once = true) : Spends execute statement := by
  cases statement with
  | createTable ifNotExists name columns constraints =>
    cases ifNotExists with
    | true => cases single
    | false =>
      refine ⟨_, hasTable_lasting name, fun _ _ => createTable_has, fun db here => ⟨"table " ++ name ++ " already exists", ?_⟩⟩
      unfold execute Database.createTable
      dsimp only
      rw [here]
      rfl
  | createIndex ifNotExists index =>
    cases ifNotExists with
    | true => cases single
    | false =>
      refine ⟨_, indexed_lasting index, fun _ _ => createIndex_indexed, fun db here => ?_⟩
      obtain ⟨has, free, named⟩ := here
      obtain ⟨table, found⟩ := hasTable_iff.mp has
      refine ⟨"index " ++ index.name ++ " already exists", ?_⟩
      unfold execute Database.createIndex
      dsimp only
      rw [found, free, named]
      rfl
  | addColumn name column =>
    refine ⟨_, columns_lasting name column.name, fun _ _ => addColumn_has, fun db here => ?_⟩
    obtain ⟨table, found, member⟩ := mem_columns.mp here
    refine ⟨"duplicate column name: " ++ column.name, ?_⟩
    unfold execute Database.addColumn
    dsimp only
    rw [found]
    exact if_pos member
  | addMissingColumn => cases single
  | setVersion => cases single

theorem version_kept (keeps : ∀ version, statement ≠ .setVersion version) (executed : execute statement db = .ok after) :
    after.version = db.version := by
  rcases execute_cases executed with rfl | ⟨_, _, _, _, _, _, _, rfl⟩ | ⟨_, _, _, _, _, rfl⟩ | ⟨_, _, _, _, rfl⟩ |
    ⟨version, is, _⟩
  · rfl
  · rfl
  · rfl
  · rfl
  · exact absurd is (keeps version)

end facts

def column (name declaration : String) : Column := ⟨name, declaration, .null⟩

/-- The `scopes_json` of an agent token. -/
def scopesColumn : Column :=
  ⟨"scopes_json", "TEXT NOT NULL DEFAULT '[\"files.read\"]'", .text "[\"files.read\"]"⟩

def agentTokenColumns : List Column :=
  [column "token_id" "TEXT PRIMARY KEY", column "name" "TEXT NOT NULL UNIQUE", column "token_hash" "TEXT NOT NULL",
    column "created_ns" "INTEGER NOT NULL", column "last_used_ns" "INTEGER", column "revoked_ns" "INTEGER"]

def migration1 : List Statement := [
  .createTable true "settings"
    [column "key" "TEXT PRIMARY KEY", column "value" "TEXT NOT NULL", column "updated_ns" "INTEGER NOT NULL"] [],
  .createTable true "devices"
    [column "device_id" "TEXT PRIMARY KEY", column "alias" "TEXT UNIQUE", column "first_seen_ns" "INTEGER NOT NULL",
      column "last_seen_ns" "INTEGER NOT NULL", column "cached_json" "TEXT NOT NULL"] [],
  .createTable true "sessions"
    [column "id" "INTEGER PRIMARY KEY AUTOINCREMENT", column "device_id" "TEXT NOT NULL", column "boot_id" "TEXT",
      column "session_id" "TEXT", column "endpoint" "TEXT", column "started_ns" "INTEGER NOT NULL",
      column "ended_ns" "INTEGER"] [],
  .createTable true "operations"
    [column "operation_id" "TEXT PRIMARY KEY", column "device_id" "TEXT NOT NULL", column "actor_type" "TEXT NOT NULL",
      column "actor_name" "TEXT NOT NULL", column "action" "TEXT NOT NULL", column "params_json" "TEXT NOT NULL",
      column "status" "TEXT NOT NULL", column "result_json" "TEXT", column "error" "TEXT",
      column "created_ns" "INTEGER NOT NULL", column "started_ns" "INTEGER", column "finished_ns" "INTEGER",
      column "queue_position" "INTEGER NOT NULL DEFAULT 0"] [],
  .createIndex true ⟨"operations_device_created", "operations", ["device_id", "created_ns"], false, none⟩,
  .createTable true "events"
    [column "event_id" "INTEGER PRIMARY KEY AUTOINCREMENT", column "device_id" "TEXT", column "category" "TEXT NOT NULL",
      column "host_receive_ns" "INTEGER NOT NULL", column "payload_json" "TEXT NOT NULL"] [],
  .createIndex true ⟨"events_device_cursor", "events", ["device_id", "event_id"], false, none⟩,
  .createTable true "system_audit"
    [column "audit_id" "INTEGER PRIMARY KEY AUTOINCREMENT", column "actor_type" "TEXT NOT NULL",
      column "actor_name" "TEXT NOT NULL", column "action" "TEXT NOT NULL", column "details_json" "TEXT NOT NULL",
      column "created_ns" "INTEGER NOT NULL"] [],
  .createTable true "agent_tokens" agentTokenColumns [],
  .createTable true "log_index"
    [column "id" "INTEGER PRIMARY KEY AUTOINCREMENT", column "device_id" "TEXT NOT NULL", column "path" "TEXT NOT NULL",
      column "first_event_id" "INTEGER NOT NULL", column "last_event_id" "INTEGER NOT NULL",
      column "first_ns" "INTEGER NOT NULL", column "last_ns" "INTEGER NOT NULL",
      column "compressed_bytes" "INTEGER NOT NULL DEFAULT 0"] ["UNIQUE(device_id, path)"],
  .createTable true "firmware_artifacts"
    [column "artifact_id" "TEXT PRIMARY KEY", column "binary_sha256" "TEXT NOT NULL UNIQUE",
      column "elf_sha256" "TEXT NOT NULL", column "project_name" "TEXT NOT NULL", column "version" "TEXT NOT NULL",
      column "manifest_json" "TEXT NOT NULL", column "created_ns" "INTEGER NOT NULL"] [],
  .createIndex true ⟨"firmware_artifacts_elf_sha", "firmware_artifacts", ["elf_sha256", "created_ns"], false, none⟩]

def migration2 : List Statement := [.addMissingColumn "operations" (column "progress_json" "TEXT")]

def migration3 : List Statement := [
  .createTable true "agent_tokens" (agentTokenColumns ++ [scopesColumn]) [],
  .addMissingColumn "agent_tokens" scopesColumn]

def migration4 : List Statement := [
  .createTable true "maintenance_leases"
    [column "lease_id" "TEXT PRIMARY KEY", column "device_id" "TEXT NOT NULL", column "token_hash" "TEXT NOT NULL",
      column "purpose" "TEXT NOT NULL", column "state" "TEXT NOT NULL", column "endpoint_json" "TEXT NOT NULL",
      column "evidence_json" "TEXT NOT NULL", column "previous_boot_id" "TEXT", column "expected_version" "TEXT",
      column "actor_type" "TEXT NOT NULL", column "actor_name" "TEXT NOT NULL", column "created_ns" "INTEGER NOT NULL",
      column "expires_ns" "INTEGER NOT NULL", column "finished_ns" "INTEGER", column "error" "TEXT"] [],
  .createIndex true ⟨"maintenance_one_active_per_device", "maintenance_leases", ["device_id"], true,
    some ("state", ["detached", "flashing", "reattaching", "verifying", "expired_quarantined"])⟩]

def migration5 : List Statement := [.addColumn "operations" (column "request_fingerprint" "TEXT")]

def migration6 : List Statement := [
  .createTable false "operation_reconciliations"
    [column "reconciliation_id" "TEXT PRIMARY KEY",
      column "operation_id" "TEXT NOT NULL REFERENCES operations(operation_id)", column "record_json" "TEXT NOT NULL"] [],
  .createIndex false ⟨"reconciliation_operation", "operation_reconciliations", ["operation_id"], false, none⟩]

def migrations : List (Stage Statement) :=
  [⟨1, migration1⟩, ⟨2, migration2⟩, ⟨3, migration3⟩, ⟨4, migration4⟩, ⟨5, migration5⟩, ⟨6, migration6⟩]

def latestSchemaVersion : Int := migrations.length

/-- The statements that `apply_migrations` executes on a database, each `user_version` last. -/
def pending (db : Database) : List Statement := plan .setVersion migrations db.version

def applyMigrations (db : Database) : Except String Database :=
  if db.version > latestSchemaVersion then
    .error ("gateway database schema " ++ toString db.version ++ " is newer than supported version " ++
      toString latestSchemaVersion)
  else play execute (pending db) db

def remaining (db : Database) (count : Nat) : Database := stopped execute (pending db) count db

theorem migrations_staged : Staged execute Database.version .setVersion Statement.once migrations := by
  have unset : ∀ stage ∈ migrations, ∀ statement ∈ stage.steps, ∀ version, statement ≠ .setVersion version := by
    have none : ∀ stage ∈ migrations, ∀ statement ∈ stage.steps, statement.sets = false := by decide
    rintro stage member _ inside version rfl
    exact Bool.noConfusion (none stage member _ inside)
  constructor
  case sets =>
    intro number before after executed
    cases executed
    rfl
  case keeps => exact fun stage member statement inside before after => version_kept (unset stage member statement inside)
  case settles =>
    exact fun stage member statement inside repeats => guarded_settles repeats (unset stage member statement inside)
  case spends => exact fun stage member statement inside single => unguarded_spends single
  case repeats => exact fun number => rfl
  case uniform => decide
  case ascending => decide

/-- A migration that the process stops in the middle of is completed by the next start exactly where the last
statement before the stop can be executed once more. -/
theorem migration_resumed_iff {db final : Database} (migrates : applyMigrations db = .ok final) (count : Nat) :
    final.version = latestSchemaVersion ∧
      (applyMigrations (remaining db count) = .ok final ↔
        ∀ last, ((pending db).take count).getLast? = some last → last.once = false) := by
  unfold applyMigrations at migrates
  split at migrates
  next => cases migrates
  next old =>
    have cut := play_take_stopped migrates count
    have low : db.version ≤ latestSchemaVersion := Int.not_lt.mp old
    have bounded : ∀ stage ∈ migrations, stage.version ≤ latestSchemaVersion := by decide
    have again : (remaining db count).version ≤ latestSchemaVersion := migrations_staged.le_version cut low bounded
    constructor
    · have last : ⟨6, migration6⟩ ∈ migrations := List.mem_of_getLast? rfl
      exact Int.le_antisymm (migrations_staged.le_version_end migrates low bounded)
        (migrations_staged.version_end migrates _ last)
    · rw [applyMigrations, if_neg (Int.not_lt.mpr again)]
      exact resumed_iff migrations_staged migrates cut

def newDatabase : Database := ⟨0, [], []⟩

theorem newDatabase_migrates : ∃ final, applyMigrations newDatabase = .ok final := by
  have succeeds : (applyMigrations newDatabase).isOk = true := by decide +kernel
  cases migrated : applyMigrations newDatabase with
  | ok final => exact ⟨final, rfl⟩
  | error error =>
    rw [migrated] at succeeds
    cases succeeds

/-- A stop in the middle of migration 1, from which the next start makes the whole schema. -/
theorem migration_resumed_new : ∃ final, applyMigrations newDatabase = .ok final ∧
    applyMigrations (remaining newDatabase 10) = .ok final := by
  obtain ⟨final, migrates⟩ := newDatabase_migrates
  refine ⟨final, migrates, (migration_resumed_iff migrates 10).2.mpr fun last is => ?_⟩
  have guarded : ((pending newDatabase).take 10).getLast?.all (fun last => last.once = false) = true := by decide +kernel
  rw [is] at guarded
  exact of_decide_eq_true guarded

/-- The process stops between the column of migration 5 and its version, and no later start succeeds. -/
theorem added_column_blocks_start : ¬ ∀ db final count, applyMigrations db = .ok final →
    applyMigrations (remaining db count) = .ok final := by
  intro survives
  obtain ⟨final, migrates⟩ := newDatabase_migrates
  have fails : (applyMigrations (remaining newDatabase 22)).isOk = false := by decide +kernel
  rw [survives newDatabase final 22 migrates] at fails
  cases fails

end EspIris.Gateway.Migrations
