import UpdateManager.Database

set_option autoImplicit false

/-!
# The config and certificates tables of `database.Database`

The `config` and `certificates` tables of `database.go`, the opening of the database in the
`main` of `updatemanager.go` (which replaces a file of another version), and the platform
controller of `src/unnamed/part_001`, which keeps the system version in `config`. A table that
does not exist is `none`. The main results: when `main` opens the database
(`openDatabase_ok_iff`), what the getters read back (`runConfig_reads`), and the certificates
as a map from issuer and serial over every run (`getCertificate_run`).
-/

namespace UpdateManager.Database

/-- `ErrNotExist`, `ErrVersionMismatch`, the error of a statement on a table that does not
exist, and that of an `INSERT` whose primary key is taken. -/
inductive StoreError
  | notExist
  | versionMismatch
  | noTable
  | constraint
  deriving DecidableEq, Repr

def dbVersion : Nat := 4

structure ConfigRow where
  version : Nat
  systemVersion : Nat
  operationState : Bytes
  deriving DecidableEq, Repr

/-- `crthandler.CrtInfo`; `notAfter` is the time the `TIMESTAMP` column holds. -/
structure CrtInfo where
  issuer : String
  serial : String
  crtURL : String
  keyURL : String
  notAfter : Nat
  deriving DecidableEq, Repr

structure CertRow where
  crtType : String
  crt : CrtInfo
  deriving DecidableEq, Repr

/-- The primary key of `certificates`. -/
def CertRow.key (row : CertRow) : String × String := (row.crt.issuer, row.crt.serial)

structure CertTable where
  rows : List CertRow
  keyed : (rows.map CertRow.key).Nodup

/-- The `config` and `certificates` tables. -/
structure Store where
  config : Option (List ConfigRow)
  certificates : Option CertTable

/-! ### The `config` row -/

/-- `UPDATE config SET column = ?` with the check of `RowsAffected`. -/
def updateConfig (store : Store) (set : ConfigRow → ConfigRow) : Store × Option StoreError :=
  match store.config with
  | none => (store, some .noTable)
  | some [] => (store, some .notExist)
  | some rows => ({ store with config := some (rows.map set) }, none)

/-- `SELECT column FROM config` scanned by `QueryRow`: the first row. -/
def selectConfig {α : Type} (store : Store) (column : ConfigRow → α) : Except StoreError α :=
  match store.config with
  | none => .error .noTable
  | some [] => .error .notExist
  | some (row :: _) => .ok (column row)

def setOperationState (store : Store) (state : Bytes) : Store × Option StoreError :=
  updateConfig store fun row => { row with operationState := state }

def getOperationState (store : Store) : Except StoreError Bytes :=
  selectConfig store ConfigRow.operationState

def setSystemVersion (store : Store) (version : Nat) : Store × Option StoreError :=
  updateConfig store fun row => { row with systemVersion := version }

def getSystemVersion (store : Store) : Except StoreError Nat :=
  selectConfig store ConfigRow.systemVersion

def getVersion (store : Store) : Except StoreError Nat := selectConfig store ConfigRow.version

/-- `createConfigTable`: a table that exists is kept as it is; `{}` is the bytes 123, 125. -/
def createConfigTable (store : Store) : Store :=
  match store.config with
  | some _ => store
  | none => { store with config := some [⟨dbVersion, 0, [123, 125]⟩] }

/-- `createCertTable`: `CREATE TABLE IF NOT EXISTS`. -/
def createCertTable (store : Store) : Store :=
  match store.certificates with
  | some _ => store
  | none => { store with certificates := some ⟨[], List.nodup_nil⟩ }

/-- `New` once the file is open; `createModuleTable` and `createModulesDataTable` create the
module tables, which `UpdateManager.Database` models. -/
def new (store : Store) : Store × Option StoreError :=
  let store := createCertTable (createConfigTable store)
  match getVersion store with
  | .error err => (store, some err)
  | .ok version => if version ≠ dbVersion then (store, some .versionMismatch) else (store, none)

/-- A file that does not exist yet. -/
def Store.fresh : Store := ⟨none, none⟩

/-- The opening of the database in `main`: on `ErrVersionMismatch`, `cleanup` deletes the file
and `New` runs again. -/
def openDatabase (store : Store) : Store × Option StoreError :=
  match new store with
  | (_, some .versionMismatch) => new Store.fresh
  | opened => opened

/-- The platform controller's `GetVersion`. -/
def Platform.getVersion (store : Store) : Except StoreError Nat := getSystemVersion store

/-- The platform controller's `SetVersion`. -/
def Platform.setVersion (store : Store) (version : Nat) : Store × Option StoreError :=
  setSystemVersion store version

/-! ### The `certificates` table -/

namespace CertTable

def insert (table : CertTable) (row : CertRow) (fresh : row.key ∉ table.rows.map CertRow.key) :
    CertTable :=
  ⟨table.rows ++ [row], by
    rw [List.map_append, List.nodup_append]
    exact ⟨table.keyed, List.nodup_singleton _, fun _ inside same =>
      fresh (List.mem_singleton.mp same ▸ inside)⟩⟩

def delete (table : CertTable) (hit : CertRow → Bool) : CertTable :=
  ⟨table.rows.filter fun row => !hit row, table.keyed.sublist ((List.filter_sublist _).map _)⟩

/-- `SELECT ... FROM certificates WHERE issuer = ? AND serial = ?`: the first row found. -/
def lookup (table : CertTable) (issuer serial : String) : Option CertRow :=
  table.rows.find? fun row => row.crt.issuer == issuer && row.crt.serial == serial

end CertTable

/-- `AddCertificate`: an `INSERT`, refused when a certificate has the issuer and serial. -/
def addCertificate (store : Store) (crtType : String) (crt : CrtInfo) : Store × Option StoreError :=
  match store.certificates with
  | none => (store, some .noTable)
  | some table =>
      if taken : (crt.issuer, crt.serial) ∈ table.rows.map CertRow.key then
        (store, some .constraint)
      else ({ store with certificates := some (table.insert ⟨crtType, crt⟩ taken) }, none)

/-- `GetCertificate`: the first row with the issuer and serial. -/
def getCertificate (store : Store) (issuer serial : String) : Except StoreError CrtInfo :=
  match store.certificates with
  | none => .error .noTable
  | some table =>
      match table.lookup issuer serial with
      | some row => .ok row.crt
      | none => .error .notExist

/-- `GetCertificates`: the certificates of the type. -/
def getCertificates (store : Store) (crtType : String) : Except StoreError (List CrtInfo) :=
  match store.certificates with
  | none => .error .noTable
  | some table => .ok ((table.rows.filter fun row => row.crtType == crtType).map CertRow.crt)

/-- `RemoveCertificate`: every certificate of the type with the URL is deleted. -/
def removeCertificate (store : Store) (crtType crtURL : String) : Store × Option StoreError :=
  match store.certificates with
  | none => (store, some .noTable)
  | some table =>
      ({ store with certificates := some (table.delete fun row =>
        row.crtType == crtType && row.crt.crtURL == crtURL) }, none)

/-! ### Opening the database -/

/-- A database `main` has opened: a `config` row of version 4 comes first, and the certificates
table exists. -/
def Store.Opened (store : Store) : Prop :=
  (∃ row rows, store.config = some (row :: rows) ∧ row.version = dbVersion) ∧
    store.certificates.isSome

@[simp] theorem createCertTable_config (store : Store) :
    (createCertTable store).config = store.config := by
  unfold createCertTable
  split <;> rfl

private theorem createCertTable_certificates (store : Store) :
    (createCertTable store).certificates.isSome := by
  unfold createCertTable
  split <;> simp_all

private theorem new_of_row (store : Store) (row : ConfigRow) (rows : List ConfigRow)
    (config : (createConfigTable store).config = some (row :: rows)) :
    (new store).2 = (if row.version ≠ dbVersion then some .versionMismatch else none) ∧
      ((new store).2 = none → (new store).1.Opened) := by
  have version : getVersion (createCertTable (createConfigTable store)) = .ok row.version := by
    simp [getVersion, selectConfig, config]
  simp only [new, version]
  by_cases other : row.version ≠ dbVersion
  · simp [other]
  · rw [if_neg other, if_neg other]
    exact ⟨rfl, fun _ => ⟨⟨row, rows, by simp [config], not_not.mp other⟩,
      createCertTable_certificates _⟩⟩

private theorem openDatabase_eq (store : Store) :
    openDatabase store = if (new store).2 = some .versionMismatch then new Store.fresh else new store := by
  unfold openDatabase
  generalize new store = opened
  rcases opened with ⟨_, _ | _ | _ | _ | _⟩ <;> rfl

private theorem openDatabase_result (store : Store) :
    (openDatabase store).2 = (if store.config = some [] then some .notExist else none) ∧
      ((openDatabase store).2 = none → (openDatabase store).1.Opened) := by
  have kept : (new store).2 ≠ some .versionMismatch → openDatabase store = new store :=
    fun other => by rw [openDatabase_eq, if_neg other]
  rcases config : store.config with _ | _ | ⟨row, rows⟩
  · obtain ⟨opened, holds⟩ := new_of_row store ⟨dbVersion, 0, [123, 125]⟩ []
      (by simp [createConfigTable, config])
    rw [if_neg (by decide)] at opened
    rw [kept (by rw [opened]; nofun), opened]
    exact ⟨rfl, fun _ => holds opened⟩
  · have failed : (new store).2 = some .notExist := by
      simp [new, getVersion, selectConfig, createConfigTable, config]
    rw [kept (by rw [failed]; nofun), failed]
    exact ⟨rfl, nofun⟩
  · obtain ⟨opened, holds⟩ := new_of_row store row rows (by simp [createConfigTable, config])
    by_cases other : row.version ≠ dbVersion
    · rw [if_pos other] at opened
      rw [openDatabase_eq, if_pos opened]
      obtain ⟨fresh, freshOpened⟩ := new_of_row Store.fresh ⟨dbVersion, 0, [123, 125]⟩ [] rfl
      rw [if_neg (by decide)] at fresh
      exact ⟨fresh, freshOpened⟩
    · rw [if_neg other] at opened
      rw [kept (by rw [opened]; nofun), opened]
      exact ⟨rfl, fun _ => holds opened⟩

private theorem openDatabase_ok_iff (store : Store) :
    (openDatabase store).2 = none ↔ store.config ≠ some [] := by
  rw [(openDatabase_result store).1]
  by_cases empty : store.config = some [] <;> simp [empty]

/-! ### Writing `config` -/

/-- A write of `config`: `SetOperationState`, or `SetSystemVersion`, which the platform
controller's `SetVersion` calls. -/
inductive ConfigCall
  | setOperationState (state : Bytes)
  | setSystemVersion (version : Nat)
  deriving DecidableEq, Repr

def ConfigCall.apply (store : Store) : ConfigCall → Store × Option StoreError
  | .setOperationState state => Database.setOperationState store state
  | .setSystemVersion version => Platform.setVersion store version

/-- The calls in order, up to the first that fails. -/
def runConfig (store : Store) : List ConfigCall → Store × Option StoreError
  | [] => (store, none)
  | call :: calls =>
      match call.apply store with
      | (store, none) => runConfig store calls
      | failed => failed

/-- The operation state and the system version after a write. -/
def ConfigCall.write (values : Bytes × Nat) : ConfigCall → Bytes × Nat
  | .setOperationState state => (state, values.2)
  | .setSystemVersion version => (values.1, version)

/-- The first `config` row holds the operation state and the system version. -/
def Holds (store : Store) (values : Bytes × Nat) : Prop :=
  ∃ row rows, store.config = some (row :: rows) ∧ row.operationState = values.1 ∧
    row.systemVersion = values.2

section Config

variable {store : Store} {values : Bytes × Nat}

theorem updateConfig_cons {row : ConfigRow} {rows : List ConfigRow}
    (config : store.config = some (row :: rows)) (set : ConfigRow → ConfigRow) :
    updateConfig store set = ({ store with config := some (set row :: rows.map set) }, none) := by
  simp [updateConfig, config]

private theorem apply_holds (holds : Holds store values) (call : ConfigCall) :
    (call.apply store).2 = none ∧ Holds (call.apply store).1 (ConfigCall.write values call) := by
  obtain ⟨row, rows, config, state, version⟩ := holds
  cases call with
  | setOperationState state' =>
      rw [ConfigCall.apply, setOperationState, updateConfig_cons config]
      exact ⟨rfl, _, _, rfl, rfl, version⟩
  | setSystemVersion version' =>
      rw [ConfigCall.apply, Platform.setVersion, setSystemVersion, updateConfig_cons config]
      exact ⟨rfl, _, _, rfl, state, rfl⟩

private theorem runConfig_holds (holds : Holds store values) (calls : List ConfigCall) :
    (runConfig store calls).2 = none ∧
      Holds (runConfig store calls).1 (calls.foldl ConfigCall.write values) := by
  induction calls generalizing store values with
  | nil => exact ⟨rfl, holds⟩
  | cons call calls ih =>
      obtain ⟨applied, next⟩ := apply_holds holds call
      rw [runConfig]
      rcases same : call.apply store with ⟨store', err⟩
      rw [same] at applied next
      cases applied
      exact ih next

private theorem holds_reads (holds : Holds store values) :
    getOperationState store = .ok values.1 ∧ Platform.getVersion store = .ok values.2 := by
  obtain ⟨row, rows, config, state, version⟩ := holds
  simp [getOperationState, Platform.getVersion, getSystemVersion, selectConfig, config, state, version]

end Config

/-- From a database `main` has opened, every write of `config` goes through, and
`GetOperationState` and the platform controller's `GetVersion` read back the last values
written. -/
theorem runConfig_reads {store : Store} (opened : (openDatabase store).2 = none)
    (calls : List ConfigCall) :
    ∃ values, getOperationState (openDatabase store).1 = .ok values.1 ∧
      Platform.getVersion (openDatabase store).1 = .ok values.2 ∧
      (runConfig (openDatabase store).1 calls).2 = none ∧
      getOperationState (runConfig (openDatabase store).1 calls).1 =
        .ok (calls.foldl ConfigCall.write values).1 ∧
      Platform.getVersion (runConfig (openDatabase store).1 calls).1 =
        .ok (calls.foldl ConfigCall.write values).2 := by
  obtain ⟨⟨row, rows, config, -⟩, -⟩ := (openDatabase_result store).2 opened
  have holds : Holds (openDatabase store).1 (row.operationState, row.systemVersion) :=
    ⟨row, rows, config, rfl, rfl⟩
  obtain ⟨ran, after⟩ := runConfig_holds holds calls
  exact ⟨_, (holds_reads holds).1, (holds_reads holds).2, ran, (holds_reads after).1,
    (holds_reads after).2⟩

/-- A new file reads back the system version last set. -/
theorem fresh_version_read :
    Platform.getVersion
      (runConfig (openDatabase Store.fresh).1 [.setSystemVersion 2, .setSystemVersion 3]).1 = .ok 3 :=
  let ⟨_, _, _, _, _, read⟩ := runConfig_reads (show (openDatabase Store.fresh).2 = none from rfl)
    [.setSystemVersion 2, .setSystemVersion 3]
  read

/-! ### The certificates table as a map -/

private theorem find?_filter_of_unique {α : Type} (hits keep : α → Bool) :
    ∀ {rows : List α}, (∀ a ∈ rows, ∀ b ∈ rows, hits a → hits b → a = b) →
      (rows.filter keep).find? hits = (rows.find? hits).filter keep
  | [], _ => rfl
  | row :: rows, unique => by
      by_cases hit : hits row
      · have alone : ∀ other ∈ rows.filter keep, hits other → other = row := fun other mem h =>
          unique other (.tail _ (List.mem_filter.mp mem).1) row (.head _) h hit
        by_cases kept : keep row
        · simp [List.filter_cons, kept, List.find?_cons, hit, Option.filter]
        · simp only [List.filter_cons, kept, List.find?_cons, hit, Option.filter]
          exact List.find?_eq_none.mpr fun other mem h =>
            kept (alone other mem h ▸ (List.mem_filter.mp mem).2)
      · have rest := find?_filter_of_unique hits keep fun a ma b mb =>
          unique a (.tail _ ma) b (.tail _ mb)
        by_cases kept : keep row <;> simp [List.filter_cons, kept, List.find?_cons, hit, rest]

namespace CertTable

private theorem hits_iff (row : CertRow) (issuer serial : String) :
    (row.crt.issuer == issuer && row.crt.serial == serial) = true ↔
      row.key = (issuer, serial) := by
  simp [CertRow.key]

private theorem lookup_eq_none_iff (table : CertTable) (issuer serial : String) :
    table.lookup issuer serial = none ↔ (issuer, serial) ∉ table.rows.map CertRow.key := by
  simp only [lookup, List.find?_eq_none, hits_iff, List.mem_map, not_exists, not_and]

private theorem lookup_insert (table : CertTable) (row : CertRow)
    (fresh : row.key ∉ table.rows.map CertRow.key) (issuer serial : String) :
    (table.insert row fresh).lookup issuer serial =
      if row.key = (issuer, serial) then some row else table.lookup issuer serial := by
  show (table.rows ++ [row]).find? _ = _
  rw [List.find?_append]
  by_cases same : row.key = (issuer, serial)
  · have free := (lookup_eq_none_iff table issuer serial).mpr (same ▸ fresh)
    simp only [lookup] at free
    simp [free, same, (hits_iff row issuer serial).mpr same]
  · simp [same, lookup, (hits_iff row issuer serial).not.mpr same]

private theorem lookup_delete (table : CertTable) (hit : CertRow → Bool) (issuer serial : String) :
    (table.delete hit).lookup issuer serial =
      (table.lookup issuer serial).filter fun row => !hit row :=
  find?_filter_of_unique _ _ fun a ma b mb ha hb =>
    List.inj_on_of_nodup_map table.keyed ma mb
      (((hits_iff a _ _).mp ha).trans ((hits_iff b _ _).mp hb).symm)

end CertTable

/-- A call that writes `certificates`. -/
inductive CertCall
  | add (crtType : String) (crt : CrtInfo)
  | remove (crtType crtURL : String)
  deriving DecidableEq, Repr

def CertCall.apply (store : Store) : CertCall → Store × Option StoreError
  | .add crtType crt => addCertificate store crtType crt
  | .remove crtType crtURL => removeCertificate store crtType crtURL

/-- The store after the calls, each made whatever the previous ones returned. -/
def runCerts (store : Store) (calls : List CertCall) : Store :=
  calls.foldl (fun store call => (call.apply store).1) store

/-- What a call does to the certificate held under one issuer and serial: an add fills the key
when it is free, and a remove empties it when its certificate has the type and the URL. -/
def CertCall.onKey (issuer serial : String) (held : Option CertRow) : CertCall → Option CertRow
  | .add crtType crt =>
      if held = none ∧ (crt.issuer, crt.serial) = (issuer, serial) then some ⟨crtType, crt⟩
      else held
  | .remove crtType crtURL =>
      held.filter fun row => !(row.crtType == crtType && row.crt.crtURL == crtURL)

section Certificates

variable {store : Store} {table : CertTable}

private theorem apply_lookup (tables : store.certificates = some table) (call : CertCall)
    (issuer serial : String) :
    ∃ table', (call.apply store).1.certificates = some table' ∧
      table'.lookup issuer serial = call.onKey issuer serial (table.lookup issuer serial) := by
  cases call with
  | add crtType crt =>
      simp only [CertCall.apply, addCertificate, tables, CertCall.onKey]
      by_cases taken : (crt.issuer, crt.serial) ∈ table.rows.map CertRow.key
      · refine ⟨table, by simp [taken, tables], (if_neg ?_).symm⟩
        rintro ⟨free, same⟩
        exact (table.lookup_eq_none_iff issuer serial).mp free (same ▸ taken)
      · refine ⟨table.insert ⟨crtType, crt⟩ taken, by simp [taken], ?_⟩
        rw [CertTable.lookup_insert]
        by_cases same : (crt.issuer, crt.serial) = (issuer, serial)
        · have free := (table.lookup_eq_none_iff issuer serial).mpr (same ▸ taken)
          simp [CertRow.key, same, free]
        · simp [CertRow.key, same]
  | remove crtType crtURL =>
      exact ⟨_, by simp [CertCall.apply, removeCertificate, tables], CertTable.lookup_delete _ _ _ _⟩

private theorem runCerts_lookup (tables : store.certificates = some table) (calls : List CertCall)
    (issuer serial : String) :
    ∃ table', (runCerts store calls).certificates = some table' ∧
      table'.lookup issuer serial = calls.foldl (CertCall.onKey issuer serial) (table.lookup issuer serial) := by
  induction calls generalizing store table with
  | nil => exact ⟨table, tables, rfl⟩
  | cons call calls ih =>
      obtain ⟨table', tables', applied⟩ := apply_lookup tables call issuer serial
      obtain ⟨last, lasts, read⟩ := ih tables'
      exact ⟨last, lasts, by rw [read, applied]; rfl⟩

end Certificates

/-- Over every run of `AddCertificate` and `RemoveCertificate`, `GetCertificate` returns what
the map from issuer and serial holds: an add takes a free key only, under whatever type, and a
remove frees the key whose certificate has the type and the URL. -/
theorem getCertificate_run {store : Store} {table : CertTable}
    (tables : store.certificates = some table) (calls : List CertCall) (issuer serial : String) :
    getCertificate (runCerts store calls) issuer serial =
      match calls.foldl (CertCall.onKey issuer serial) (table.lookup issuer serial) with
      | some row => .ok row.crt
      | none => .error .notExist := by
  obtain ⟨last, lasts, read⟩ := runCerts_lookup tables calls issuer serial
  simp only [getCertificate, lasts, read]

/-- A second certificate with a taken issuer and serial is refused although its type differs,
and a remove by that type and its URL leaves the first one in place. -/
theorem taken_key_kept :
    getCertificate (runCerts (createCertTable Store.fresh)
        [.add "online" ⟨"ca", "1", "a.crt", "a.key", 0⟩, .add "offline" ⟨"ca", "1", "b.crt", "b.key", 0⟩,
          .remove "offline" "b.crt"]) "ca" "1" = .ok ⟨"ca", "1", "a.crt", "a.key", 0⟩ := by
  rw [getCertificate_run
    (show (createCertTable Store.fresh).certificates = some ⟨[], List.nodup_nil⟩ from rfl)]
  rfl

end UpdateManager.Database
