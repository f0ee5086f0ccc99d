import Mathlib.Data.List.Nodup

/-!
# The module tables of `database.Database`

The tables `modules` and `modules_data` of `database.go`, each the list of its rows, written
with `REPLACE INTO`: the rows with the new row's primary key are deleted, then the row is
inserted. The key of `modules_data` is `id` alone, so a write under one name deletes the row
of another name of the same controller. The SQL engine is taken as reliable.
-/

namespace UpdateManager

/-- `[]byte` as stored in a `TEXT` column. -/
abbrev Bytes := List UInt8

namespace Database

/-- `ErrNotExist`, returned when a select finds no row. -/
inductive DbError
  | notExist
  deriving DecidableEq, Repr

def DbError.message : DbError → String
  | .notExist => "entry doesn't not exist"

structure ModuleRow where
  id : String
  state : Bytes
  deriving DecidableEq, Repr

structure ModulesDataRow where
  id : String
  name : String
  value : Bytes
  deriving DecidableEq, Repr

/-- `REPLACE INTO`: the rows whose primary key is the new row's are deleted, then the row
is inserted. -/
def replaceInto {ρ : Type} (primaryKey : ρ → String) (row : ρ) (rows : List ρ) : List ρ :=
  rows.filter (fun other => primaryKey other != primaryKey row) ++ [row]

private theorem replaceInto_nodup {ρ : Type} (primaryKey : ρ → String) (row : ρ) (rows : List ρ)
    (keyed : (rows.map primaryKey).Nodup) :
    ((replaceInto primaryKey row rows).map primaryKey).Nodup := by
  rw [replaceInto, List.map_append, List.nodup_append]
  refine ⟨(keyed.sublist ((List.filter_sublist rows).map primaryKey)), List.nodup_singleton _, ?_⟩
  intro key kept same
  obtain ⟨other, member, rfl⟩ := List.mem_map.mp kept
  simp only [List.map_cons, List.map_nil, List.mem_singleton] at same
  simp [List.mem_filter, same] at member

private theorem find?_replaceInto {ρ : Type} (primaryKey : ρ → String) (row : ρ) (rows : List ρ)
    (p : ρ → Bool) (keyOnly : ∀ other, p other = true → primaryKey other = primaryKey row) :
    (replaceInto primaryKey row rows).find? p = if p row then some row else none := by
  simp only [replaceInto, List.find?_append, List.find?_filter, List.find?_singleton]
  rw [List.find?_eq_none.mpr, Option.none_or]
  intro other _ both
  simp only [decide_eq_true_eq, bne_iff_ne, ne_eq] at both
  exact both.1 (keyOnly other both.2)

private theorem find?_replaceInto_other {ρ : Type} (primaryKey : ρ → String) (row : ρ) (rows : List ρ)
    (p : ρ → Bool) (otherKey : p row = false) :
    (replaceInto primaryKey row rows).find? p =
      rows.find? (fun other => (primaryKey other != primaryKey row) && p other) := by
  simp only [replaceInto, List.find?_append, List.find?_filter, List.find?_singleton, otherKey,
    Bool.false_eq_true, ite_false, Option.or_none]
  congr
  funext other
  cases primaryKey other != primaryKey row <;> cases p other <;> rfl

end Database

/-- The two tables, with their primary keys. -/
structure Database where
  modules : List Database.ModuleRow
  modulesData : List Database.ModulesDataRow
  modulesKeyed : (modules.map Database.ModuleRow.id).Nodup
  modulesDataKeyed : (modulesData.map Database.ModulesDataRow.id).Nodup

namespace Database

/-- The tables as `createModuleTable` and `createModulesDataTable` make them in a new file. -/
def empty : Database :=
  { modules := [], modulesData := [], modulesKeyed := List.nodup_nil,
    modulesDataKeyed := List.nodup_nil }

/-- `SetModuleState`. `REPLACE INTO` reports the one row it inserts, so `RowsAffected` is
never 0 and the call never returns `ErrNotExist`. -/
def setModuleState (db : Database) (id : String) (state : Bytes) : Database :=
  { db with
    modules := replaceInto ModuleRow.id ⟨id, state⟩ db.modules
    modulesKeyed := replaceInto_nodup _ _ _ db.modulesKeyed }

/-- `GetModuleState`: the state of the first row with the id, `ErrNotExist` if none. -/
def getModuleState (db : Database) (id : String) : Except DbError Bytes :=
  match db.modules.find? (fun row => row.id == id) with
  | some row => .ok row.state
  | none => .error .notExist

/-- `SetControllerState`, which never returns `ErrNotExist` either. -/
def setControllerState (db : Database) (controllerId name : String) (value : Bytes) :
    Database :=
  { db with
    modulesData := replaceInto ModulesDataRow.id ⟨controllerId, name, value⟩ db.modulesData
    modulesDataKeyed := replaceInto_nodup _ _ _ db.modulesDataKeyed }

/-- `GetControllerState`: the value of the first row with the id and the name. -/
def getControllerState (db : Database) (controllerId name : String) :
    Except DbError Bytes :=
  match db.modulesData.find? (fun row => row.id == controllerId && row.name == name) with
  | some row => .ok row.value
  | none => .error .notExist

/-! ### Runs of writes -/

/-- A write to one of the two tables. -/
inductive Call
  | setModuleState (id : String) (state : Bytes)
  | setControllerState (controllerId name : String) (value : Bytes)
  deriving DecidableEq, Repr

def apply (db : Database) : Call → Database
  | .setModuleState id state => db.setModuleState id state
  | .setControllerState controllerId name value => db.setControllerState controllerId name value

/-- The database after a sequence of writes. -/
def run (db : Database) (calls : List Call) : Database := calls.foldl apply db

/-- The state of the last `SetModuleState` for `id` in `calls`, `fallback` if there is none. -/
def lastModuleState (fallback : Except DbError Bytes) (id : String) : List Call → Except DbError Bytes
  | [] => fallback
  | .setModuleState other state :: rest =>
      lastModuleState (if other = id then .ok state else fallback) id rest
  | .setControllerState _ _ _ :: rest => lastModuleState fallback id rest

/-- The last `SetControllerState` of `controllerId` in `calls`, with its name and value. -/
def lastControllerWrite (fallback : Option (String × Bytes)) (controllerId : String) :
    List Call → Option (String × Bytes)
  | [] => fallback
  | .setModuleState _ _ :: rest => lastControllerWrite fallback controllerId rest
  | .setControllerState other name value :: rest =>
      lastControllerWrite (if other = controllerId then some (name, value) else fallback)
        controllerId rest

private theorem getModuleState_setModuleState (db : Database) (id other : String) (state : Bytes) :
    (db.setModuleState other state).getModuleState id =
      if other = id then .ok state else db.getModuleState id := by
  unfold getModuleState setModuleState
  by_cases same : other = id
  · subst same
    rw [find?_replaceInto _ _ _ _ (fun row hit => by simpa using hit)]
    simp
  · rw [find?_replaceInto_other _ _ _ _ (by simpa using same)]
    have keep : (fun row : ModuleRow => (row.id != other) && (row.id == id)) =
        (fun row => row.id == id) := by
      funext row
      by_cases hit : row.id = id
      · simp [hit, Ne.symm same]
      · simp [hit]
    simp only [keep, if_neg same]

private theorem getModuleState_run (db : Database) (calls : List Call) (id : String) :
    (run db calls).getModuleState id = lastModuleState (db.getModuleState id) id calls := by
  induction calls generalizing db with
  | nil => rfl
  | cons call rest ih =>
      cases call with
      | setModuleState other state =>
          simp only [run, List.foldl_cons, apply, lastModuleState] at ih ⊢
          rw [ih, getModuleState_setModuleState]
      | setControllerState controllerId name value =>
          exact ih (db.setControllerState controllerId name value)

private theorem getControllerState_setControllerState (db : Database) (controllerId name : String)
    (other otherName : String) (value : Bytes) :
    (db.setControllerState other otherName value).getControllerState controllerId name =
      if other = controllerId then (if otherName = name then .ok value else .error .notExist)
      else db.getControllerState controllerId name := by
  unfold getControllerState setControllerState
  by_cases same : other = controllerId
  · subst same
    rw [find?_replaceInto _ _ _ _ (fun row hit => by simp at hit; exact hit.1)]
    by_cases named : otherName = name <;> simp [named]
  · rw [find?_replaceInto_other _ _ _ _ (by simp [same])]
    have keep : (fun row : ModulesDataRow =>
        (row.id != other) && (row.id == controllerId && row.name == name)) =
        (fun row => row.id == controllerId && row.name == name) := by
      funext row
      by_cases hit : row.id = controllerId
      · simp [hit, Ne.symm same]
      · simp [hit]
    simp only [keep, if_neg same]

private theorem getControllerState_run (calls : List Call) (controllerId name : String) :
    (run empty calls).getControllerState controllerId name =
      match lastControllerWrite none controllerId calls with
      | some (written, value) => if written = name then .ok value else .error .notExist
      | none => .error .notExist := by
  suffices general : ∀ (db : Database) (fallback : Option (String × Bytes)),
      db.getControllerState controllerId name =
        (match fallback with
        | some (written, value) => if written = name then .ok value else .error .notExist
        | none => .error .notExist) →
      (run db calls).getControllerState controllerId name =
        match lastControllerWrite fallback controllerId calls with
        | some (written, value) => if written = name then .ok value else .error .notExist
        | none => .error .notExist from
    general empty none rfl
  induction calls with
  | nil => intro db fallback agrees; exact agrees
  | cons call rest ih =>
      intro db fallback agrees
      cases call with
      | setModuleState id state => exact ih (db.setModuleState id state) fallback agrees
      | setControllerState other otherName value =>
          apply ih
          show (db.setControllerState other otherName value).getControllerState controllerId name = _
          rw [getControllerState_setControllerState]
          by_cases same : other = controllerId
          · simp [same]
          · simp only [if_neg same]
            exact agrees

/-- Two controller values under two names: the second write deletes the first, and
`GetControllerState` of the first name returns `ErrNotExist` instead of the value written. -/
theorem getControllerState_loses_other_name :
    (run empty [.setControllerState "c" "a" [1], .setControllerState "c" "b" [2]]).getControllerState
        "c" "a" = .error .notExist := by
  rw [getControllerState_run]
  rfl

end Database

end UpdateManager
