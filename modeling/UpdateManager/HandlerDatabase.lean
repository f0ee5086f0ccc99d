import UpdateManager.SimpleHandler
import UpdateManager.Staged
import Mathlib.Data.List.Nodup

set_option autoImplicit false

/-!
# The SQL storage of the update handler

The second `database` package of `src/unnamed/part_008` (lines 1042-1569): the `config` row and
the `moduleStatuses` table. A table is the list of its rows, `none` while it does not exist; an
error is stored as its text. Over every run of the handler the row holds what the disk of the
handler's model holds (`run_represents`), and the module statuses refine the status map of the
stage-based handler (`addModuleStatus_refines`).
-/

namespace UpdateManager.HandlerDatabase

open UpdateHandler (State)

def dbVersion : Nat := 2

/-- `ErrNotExist`, `ErrVersionMismatch`, the error of a statement on a table that does not
exist, and that of an `INSERT` whose primary key is taken. -/
inductive DbError
  | notExist
  | versionMismatch
  | noTable
  | constraint
  deriving DecidableEq, Repr

structure ConfigRow where
  version : Nat
  state : Int
  stage : Int
  currentVersion : Nat
  operationVersion : Nat
  imagePath : String
  lastError : String
  deriving DecidableEq, Repr

structure StatusRow where
  module : String
  status : String
  deriving DecidableEq, Repr

/-- `moduleStatuses`, whose primary key is `module`. -/
structure StatusTable where
  rows : List StatusRow
  keyed : (rows.map StatusRow.module).Nodup

structure Database where
  config : Option (List ConfigRow)
  moduleStatuses : Option StatusTable

/-- The error `GetLastError` and `GetModuleStatuses` make of a stored text. -/
def errorOf (text : String) : Option String := if text = "" then none else some text

/-! ### The `config` row -/

/-- `UPDATE config SET column = ?` with the check of `RowsAffected`. -/
def updateConfig (db : Database) (set : ConfigRow → ConfigRow) : Database × Option DbError :=
  match db.config with
  | none => (db, some .noTable)
  | some [] => (db, some .notExist)
  | some rows => ({ db with config := some (rows.map set) }, none)

/-- `SELECT column FROM config` scanned by `QueryRow`: the first row. -/
def selectConfig {α : Type} (db : Database) (column : ConfigRow → α) : Except DbError α :=
  match db.config with
  | none => .error .noTable
  | some [] => .error .notExist
  | some (row :: _) => .ok (column row)

def setState (db : Database) (state : Int) : Database × Option DbError :=
  updateConfig db fun row => { row with state }

def getState (db : Database) : Except DbError Int := selectConfig db ConfigRow.state

def setOperationStage (db : Database) (stage : Int) : Database × Option DbError :=
  updateConfig db fun row => { row with stage }

def getOperationStage (db : Database) : Except DbError Int := selectConfig db ConfigRow.stage

def setOperationVersion (db : Database) (version : Nat) : Database × Option DbError :=
  updateConfig db fun row => { row with operationVersion := version }

def getOperationVersion (db : Database) : Except DbError Nat :=
  selectConfig db ConfigRow.operationVersion

def setCurrentVersion (db : Database) (version : Nat) : Database × Option DbError :=
  updateConfig db fun row => { row with currentVersion := version }

def getCurrentVersion (db : Database) : Except DbError Nat :=
  selectConfig db ConfigRow.currentVersion

def setImagePath (db : Database) (path : String) : Database × Option DbError :=
  updateConfig db fun row => { row with imagePath := path }

def getImagePath (db : Database) : Except DbError String := selectConfig db ConfigRow.imagePath

/-- `SetLastError`: nil is stored as the empty text. -/
def setLastError (db : Database) (lastError : Option String) : Database × Option DbError :=
  updateConfig db fun row => { row with lastError := lastError.getD "" }

/-- `GetLastError`: the empty text is no error. -/
def getLastError (db : Database) : Except DbError (Option String) :=
  (selectConfig db ConfigRow.lastError).map errorOf

def getVersion (db : Database) : Except DbError Nat := selectConfig db ConfigRow.version

/-- `createConfigTable`: a table that exists is kept as it is. -/
def createConfigTable (db : Database) : Database :=
  match db.config with
  | some _ => db
  | none => { db with config := some [⟨dbVersion, 0, 0, 0, 0, "", ""⟩] }

def createModuleStatusesTable (db : Database) : Database :=
  match db.moduleStatuses with
  | some _ => db
  | none => { db with moduleStatuses := some ⟨[], List.nodup_nil⟩ }

/-- `New` once the file is open. -/
def new (db : Database) : Database × Option DbError :=
  let db := createModuleStatusesTable (createConfigTable db)
  match getVersion db with
  | .error err => (db, some err)
  | .ok version => if version ≠ dbVersion then (db, some .versionMismatch) else (db, none)

/-! ### The `moduleStatuses` table -/

namespace StatusTable

/-- A row whose module has none yet. -/
def insert (table : StatusTable) (row : StatusRow)
    (fresh : row.module ∉ table.rows.map StatusRow.module) : StatusTable :=
  ⟨table.rows ++ [row], by
    rw [List.map_append, List.nodup_append]
    exact ⟨table.keyed, List.nodup_singleton _, fun _ inside same =>
      fresh (List.mem_singleton.mp same ▸ inside)⟩⟩

/-- `DELETE FROM moduleStatuses WHERE ...`: the rows that match are deleted. -/
def delete (table : StatusTable) (hit : StatusRow → Bool) : StatusTable :=
  ⟨table.rows.filter fun row => !hit row,
    table.keyed.sublist ((List.filter_sublist _).map _)⟩

end StatusTable

/-- `AddModuleStatus`: an `INSERT`, refused when the module has a status; nil is stored as
the empty text. -/
def addModuleStatus (db : Database) (id : String) (status : Option String) :
    Database × Option DbError :=
  match db.moduleStatuses with
  | none => (db, some .noTable)
  | some table =>
      if taken : id ∈ table.rows.map StatusRow.module then (db, some .constraint)
      else ({ db with moduleStatuses := some (table.insert ⟨id, status.getD ""⟩ taken) }, none)

def removeModuleStatus (db : Database) (id : String) : Database × Option DbError :=
  match db.moduleStatuses with
  | none => (db, some .noTable)
  | some table =>
      ({ db with moduleStatuses := some (table.delete fun row => row.module == id) }, none)

/-- `GetModuleStatuses`: each row's status, the empty text read as success. -/
def getModuleStatuses (db : Database) : Except DbError (List (String × Option String)) :=
  match db.moduleStatuses with
  | none => .error .noTable
  | some table => .ok (table.rows.map fun row => (row.module, errorOf row.status))

def clearModuleStatuses (db : Database) : Database × Option DbError :=
  match db.moduleStatuses with
  | none => (db, some .noTable)
  | some table => ({ db with moduleStatuses := some (table.delete fun _ => true) }, none)

/-! ### The row holds the handler's disk -/

/-- `iota` of `UpgradedState`, `UpgradingState`, `RevertedState` and `RevertingState`. -/
def stateCode : State → Int
  | .upgraded => 0
  | .upgrading => 1
  | .reverted => 2
  | .reverting => 3

/-- The first row of `config`, which the getters read, holds the disk of the handler's
model. -/
def Represents (db : Database) (disk : SimpleHandler.Disk) : Prop :=
  ∃ row rows, db.config = some (row :: rows) ∧ row.state = stateCode disk.state ∧
    row.currentVersion = disk.currentVersion ∧ row.operationVersion = disk.operationVersion ∧
    errorOf row.lastError = disk.lastError

/-- The `Storage` setter the handler calls for a write of its disk. -/
def storeWrite (db : Database) : SimpleHandler.Write → Database × Option DbError
  | .state state => setState db (stateCode state)
  | .operationVersion version => setOperationVersion db version
  | .lastError lastError => setLastError db lastError

/-- The handler's writes in order, up to the first that fails. -/
def storeAll (db : Database) : List SimpleHandler.Write → Database × Option DbError
  | [] => (db, none)
  | write :: writes =>
      match storeWrite db write with
      | (db, none) => storeAll db writes
      | failed => failed

/-- A write the row reads back as it was: not an error whose text is empty. -/
def Storable (write : SimpleHandler.Write) : Prop := write ≠ .lastError (some "")

section Config

variable {db : Database} {row : ConfigRow} {rows : List ConfigRow}

theorem updateConfig_cons (config : db.config = some (row :: rows)) (set : ConfigRow → ConfigRow) :
    updateConfig db set = ({ db with config := some (set row :: rows.map set) }, none) := by
  simp [updateConfig, config]

private theorem selectConfig_cons {α : Type} (config : db.config = some (row :: rows))
    (column : ConfigRow → α) : selectConfig db column = .ok (column row) := by
  simp [selectConfig, config]

private theorem errorOf_getD (lastError : Option String) :
    errorOf (lastError.getD "") = if lastError = some "" then none else lastError := by
  cases lastError with
  | none => rfl
  | some text => by_cases empty : text = "" <;> simp [errorOf, empty]

private theorem getLastError_setLastError (config : db.config = some (row :: rows))
    (lastError : Option String) :
    getLastError (setLastError db lastError).1 =
      .ok (if lastError = some "" then none else lastError) := by
  rw [setLastError, updateConfig_cons config, getLastError, selectConfig_cons rfl]
  exact congrArg Except.ok (errorOf_getD lastError)

private theorem storeWrite_represents {disk : SimpleHandler.Disk} {write : SimpleHandler.Write}
    (represents : Represents db disk) (storable : Storable write) :
    (storeWrite db write).2 = none ∧ Represents (storeWrite db write).1 (disk.write write) := by
  obtain ⟨row, rows, config, state, current, operation, lastError⟩ := represents
  cases write with
  | state state' =>
      rw [storeWrite, setState, updateConfig_cons config]
      exact ⟨rfl, _, _, rfl, rfl, current, operation, lastError⟩
  | operationVersion version =>
      rw [storeWrite, setOperationVersion, updateConfig_cons config]
      exact ⟨rfl, _, _, rfl, state, current, rfl, lastError⟩
  | lastError err =>
      rw [storeWrite, setLastError, updateConfig_cons config]
      refine ⟨rfl, _, _, rfl, state, current, operation, ?_⟩
      rw [errorOf_getD, if_neg fun empty => storable (by rw [empty])]
      rfl

private theorem storeAll_represents {disk : SimpleHandler.Disk} {writes : List SimpleHandler.Write}
    (represents : Represents db disk) (storable : ∀ write ∈ writes, Storable write) :
    (storeAll db writes).2 = none ∧ Represents (storeAll db writes).1 (disk.writeAll writes) := by
  induction writes generalizing db disk with
  | nil => exact ⟨rfl, represents⟩
  | cons write writes ih =>
      obtain ⟨stored, next⟩ := storeWrite_represents represents (storable write (List.mem_cons_self _ _))
      rw [storeAll]
      rcases same : storeWrite db write with ⟨db', err⟩
      rw [same] at stored next
      cases stored
      exact ih next fun other member => storable other (List.mem_cons_of_mem _ member)

private theorem read_represents {disk : SimpleHandler.Disk} (represents : Represents db disk) :
    getState db = .ok (stateCode disk.state) ∧ getCurrentVersion db = .ok disk.currentVersion ∧
      getOperationVersion db = .ok disk.operationVersion ∧ getLastError db = .ok disk.lastError := by
  obtain ⟨row, rows, config, state, current, operation, lastError⟩ := represents
  simp only [getState, getCurrentVersion, getOperationVersion, getLastError, selectConfig_cons config,
    state, current, operation, lastError, Except.map, and_self]

end Config

private theorem new_fresh :
    (new ⟨none, none⟩).2 = none ∧ Represents (new ⟨none, none⟩).1 ⟨.upgraded, 0, 0, none⟩ :=
  ⟨rfl, _, _, rfl, rfl, rfl, rfl, rfl⟩

/-! ### Every run of the handler -/

section Runs

open SimpleHandler (Progress Outcome Write Disk)

/-- The writes of a call so far are all storable. -/
def StorableWrites (progress : Progress) : Prop := ∀ write ∈ progress.writes, Storable write

variable {progress : Progress} {err : Option String} {next : Progress → Outcome}

private theorem storableWrites_store {write : Write} (before : StorableWrites progress)
    (storable : Storable write)
    (after : StorableWrites { progress with writes := progress.writes ++ [write] } →
      StorableWrites (next { progress with writes := progress.writes ++ [write] }).1) :
    StorableWrites (progress.store write err next).1 := by
  cases err with
  | some message => exact before
  | none =>
      refine after fun other member => ?_
      rcases List.mem_append.mp member with old | new
      · exact before other old
      · rw [List.mem_singleton.mp new]
        exact storable

private theorem storableWrites_load (before : StorableWrites progress)
    (after : StorableWrites progress → StorableWrites (next progress).1) :
    StorableWrites (progress.load err next).1 := by
  cases err with
  | some message => exact before
  | none => exact after before

private theorem storableWrites_keepError :
    StorableWrites (progress.keepError err) ↔ StorableWrites progress := by
  cases err <;> rfl

private theorem readBack_storable (env : SimpleHandler.Env) (disk : Disk) (before : StorableWrites progress) :
    StorableWrites (SimpleHandler.readBack env disk progress).1 :=
  storableWrites_load before fun read => storableWrites_load read fun read => read

private theorem new_storable (env : SimpleHandler.Env) (disk : Disk) :
    StorableWrites (SimpleHandler.new env disk).1 := by
  unfold SimpleHandler.new
  refine storableWrites_load nofun fun read => storableWrites_load read fun read => ?_
  dsimp only
  split
  · exact storableWrites_store read (by unfold Storable; decide) fun stored =>
      storableWrites_store stored nofun fun stored => readBack_storable env disk stored
  · exact readBack_storable env disk read

private theorem perform_storable (env : SimpleHandler.Env) (running done : State) {operation : Option String}
    (storable : operation ≠ some "") (version : Nat) (handler : SimpleHandler.Handler) :
    StorableWrites (SimpleHandler.perform env running done operation version handler).1 := by
  unfold SimpleHandler.perform
  refine storableWrites_store nofun nofun fun stored => ?_
  refine storableWrites_store stored nofun fun stored => ?_
  refine storableWrites_store stored nofun fun stored => ?_
  refine storableWrites_store (storableWrites_keepError.mpr stored) ?_ fun stored =>
    storableWrites_store stored nofun id
  cases operation with
  | none => exact nofun
  | some message => exact fun same => storable (SimpleHandler.Write.lastError.inj same)

private theorem upgrade_storable (env : SimpleHandler.Env) (version : Nat) (handler : SimpleHandler.Handler) :
    StorableWrites (SimpleHandler.upgrade env version handler).1 := by
  rcases SimpleHandler.upgrade_refused_or_runs env version handler with ⟨message, refused⟩ | runs
  · rw [refused]
    exact nofun
  · rw [runs]
    exact perform_storable env _ _ (by decide) version handler

private theorem revert_storable (env : SimpleHandler.Env) (version : Nat) (handler : SimpleHandler.Handler) :
    StorableWrites (SimpleHandler.revert env version handler).1 := by
  rcases SimpleHandler.revert_refused_or_runs env version handler with ⟨message, refused⟩ | runs
  · rw [refused]
    exact nofun
  · rw [runs]
    exact perform_storable env _ _ (by decide) version handler

private theorem finishCall_disk (disk : Disk) (outcome : Outcome) (cut : Option Nat)
    (label : SimpleHandler.Label) :
    ∃ writes, writes <+: outcome.1.writes ∧
      (SimpleHandler.finishCall disk outcome cut label).2.disk = disk.writeAll writes := by
  cases cut with
  | none => exact ⟨_, ⟨[], List.append_nil _⟩, rfl⟩
  | some kept => exact ⟨_, ⟨_, List.take_append_drop _ _⟩, rfl⟩

private theorem finishNew_disk (disk : Disk) (outcome : Outcome) (cut : Option Nat) :
    ∃ writes, writes <+: outcome.1.writes ∧
      (SimpleHandler.finishNew disk outcome cut).2.disk = disk.writeAll writes := by
  rcases outcome with ⟨progress, _ | message⟩ <;> cases cut <;>
    first
    | exact ⟨_, ⟨[], List.append_nil _⟩, rfl⟩
    | exact ⟨_, ⟨_, List.take_append_drop _ _⟩, rfl⟩

variable {cfg next : SimpleHandler.Config} {choice : SimpleHandler.Choice}
  {label : SimpleHandler.Label}

private theorem step_storable (stepped : SimpleHandler.step cfg choice = some (label, next)) :
    ∃ writes, (∀ write ∈ writes, Storable write) ∧ next.disk = cfg.disk.writeAll writes := by
  have kept : ∀ {outcome : Outcome} {writes : List Write}, StorableWrites outcome.1 →
      writes <+: outcome.1.writes → ∀ write ∈ writes, Storable write :=
    fun storable earlier write member => storable write (earlier.subset member)
  cases choice with
  | upgrade version env cut =>
      obtain ⟨handler, -, finished⟩ := Option.map_eq_some'.mp stepped
      obtain ⟨writes, earlier, disk⟩ := finishCall_disk cfg.disk (SimpleHandler.upgrade env version handler)
        cut (.upgrade version (SimpleHandler.upgrade env version handler).2)
      rw [show SimpleHandler.finishCall _ _ _ _ = _ from finished] at disk
      exact ⟨writes, kept (upgrade_storable env version handler) earlier, disk⟩
  | revert version env cut =>
      obtain ⟨handler, -, finished⟩ := Option.map_eq_some'.mp stepped
      obtain ⟨writes, earlier, disk⟩ := finishCall_disk cfg.disk (SimpleHandler.revert env version handler)
        cut (.revert version (SimpleHandler.revert env version handler).2)
      rw [show SimpleHandler.finishCall _ _ _ _ = _ from finished] at disk
      exact ⟨writes, kept (revert_storable env version handler) earlier, disk⟩
  | restart env cut =>
      obtain ⟨writes, earlier, disk⟩ := finishNew_disk cfg.disk (SimpleHandler.new env cfg.disk) cut
      rw [show SimpleHandler.finishNew _ _ _ = _ from Option.some.inj stepped] at disk
      exact ⟨writes, kept (new_storable env cfg.disk) earlier, disk⟩

variable {choices : List SimpleHandler.Choice} {trace : List SimpleHandler.Label}

private theorem run_storable (ran : SimpleHandler.run cfg choices = some (next, trace)) :
    ∃ writes, (∀ write ∈ writes, Storable write) ∧ next.disk = cfg.disk.writeAll writes := by
  induction choices generalizing cfg trace with
  | nil =>
      cases ran
      exact ⟨[], nofun, rfl⟩
  | cons choice choices ih =>
      obtain ⟨label, middle, labels, stepped, rest, -⟩ := SimpleHandler.run_cons ran
      obtain ⟨first, storable, disk⟩ := step_storable stepped
      obtain ⟨second, storable', disk'⟩ := ih rest
      refine ⟨first ++ second, fun write member => ?_, by rw [disk', disk, Disk.writeAll_append]⟩
      rcases List.mem_append.mp member with early | late
      exacts [storable write early, storable' write late]

/-- Over every run of the handler, crashes and failed calls included, its writes stored with
the setters of the `database` package all go through, and the `config` row then holds what
the model's disk holds. -/
theorem run_represents {db : Database} (represents : Represents db cfg.disk)
    (ran : SimpleHandler.run cfg choices = some (next, trace)) :
    ∃ writes, next.disk = cfg.disk.writeAll writes ∧ (storeAll db writes).2 = none ∧
      Represents (storeAll db writes).1 next.disk := by
  obtain ⟨writes, storable, disk⟩ := run_storable ran
  rw [disk]
  exact ⟨writes, rfl, storeAll_represents represents storable⟩

end Runs

/-- A new file, then one `Upgrade` to version 1 in which every call succeeds. -/
theorem fresh_upgrade_represents :
    ∃ writes, (storeAll (new ⟨none, none⟩).1 writes).2 = none ∧
      Represents (storeAll (new ⟨none, none⟩).1 writes).1 ⟨.upgraded, 0, 1, none⟩ :=
  let ⟨writes, _, stored, represents⟩ := run_represents new_fresh.2
    (show SimpleHandler.run ⟨⟨.upgraded, 0, 0, none⟩, some ⟨.upgraded, 0, 0, none⟩⟩
        [.upgrade 1 ⟨fun _ => none, fun _ => none⟩ none] =
      some (⟨⟨.upgraded, 0, 1, none⟩, some ⟨.upgraded, 0, 1, none⟩⟩, [.upgrade 1 none]) from rfl)
  ⟨writes, stored, represents⟩

/-! ### The module statuses -/

/-- The status map of the stage-based handler's model that the table holds. -/
def statusesOf (table : StatusTable) : Staged.Statuses :=
  table.rows.map fun row => (row.module, errorOf row.status)

private theorem statusesOf_ids (table : StatusTable) :
    (statusesOf table).map Prod.fst = table.rows.map StatusRow.module := by
  simp [statusesOf]

section Statuses

variable {db : Database} {table : StatusTable}

private theorem getModuleStatuses_eq (tables : db.moduleStatuses = some table) :
    getModuleStatuses db = .ok (statusesOf table) := by
  simp [getModuleStatuses, tables, statusesOf]

private theorem addModuleStatus_refines (tables : db.moduleStatuses = some table) (id : String)
    {status : Option String} (storable : status ≠ some "") :
    (id ∈ (statusesOf table).map Prod.fst ∧ addModuleStatus db id status = (db, some .constraint)) ∨
      (id ∉ (statusesOf table).map Prod.fst ∧ (addModuleStatus db id status).2 = none ∧
        ∃ table', (addModuleStatus db id status).1.moduleStatuses = some table' ∧
          statusesOf table' = Staged.addStatus (statusesOf table) id status) := by
  rw [statusesOf_ids]
  by_cases taken : id ∈ table.rows.map StatusRow.module
  · exact .inl ⟨taken, by simp [addModuleStatus, tables, taken]⟩
  · refine .inr ⟨taken, by simp [addModuleStatus, tables, taken],
      table.insert ⟨id, status.getD ""⟩ taken, by simp [addModuleStatus, tables, taken], ?_⟩
    have absent : ((statusesOf table).any fun entry => entry.1 = id) = false := by
      simpa [statusesOf] using taken
    rw [Staged.addStatus, absent, if_neg Bool.false_ne_true]
    simp [statusesOf, StatusTable.insert, errorOf_getD, storable]

private theorem removeModuleStatus_refines (tables : db.moduleStatuses = some table) (id : String) :
    (removeModuleStatus db id).2 = none ∧
      ∃ table', (removeModuleStatus db id).1.moduleStatuses = some table' ∧
        statusesOf table' = Staged.removeStatus (statusesOf table) id := by
  refine ⟨by simp [removeModuleStatus, tables], table.delete fun row => row.module == id,
    by simp [removeModuleStatus, tables], ?_⟩
  simp [statusesOf, StatusTable.delete, Staged.removeStatus, List.filter_map, Function.comp_def,
    Bool.beq_eq_decide_eq]

end Statuses

end UpdateManager.HandlerDatabase
