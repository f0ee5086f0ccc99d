import Mathlib.Data.List.Sort

set_option autoImplicit false

/-!
# The stage-based update handler

The `updatehandler.Handler` of `src/unnamed/part_007`: `upgrade(stage)` loops over the stages
and saves `handlerState` after each, and `updateModules` skips the modules that have a saved
status. A step is a request, one stage of a goroutine, or a restart; the environment chooses
every call result and the order `range` visits the statuses. The saved stage stays `Init`
(`run_stage_init`), so `New` resumes an upgrade from `Init`.
-/

namespace UpdateManager.Staged

/-- `upgradedState`, `upgradingState`, `revertedState`, `revertingState`. -/
inductive OperationState
  | upgraded
  | upgrading
  | reverted
  | reverting
  deriving DecidableEq, Repr

/-- The stages of `upgrade`: `upgradeInitStage` (0) to `upgradeFinishStage` (4). -/
def upgradeInitStage : Nat := 0
def upgradeUnpackStage : Nat := 1
def upgradeModulesStage : Nat := 2
def upgradeRevertModulesStage : Nat := 3
def upgradeFinishStage : Nat := 4

/-- The stages of `revert`: `revertInitStage` (0) to `revertFinishStage` (2). -/
def revertInitStage : Nat := 0
def revertModulesStage : Nat := 1
def revertFinishStage : Nat := 2

structure HandlerState where
  operationState : OperationState
  operationStage : Nat
  operationVersion : Nat
  imagePath : String
  lastError : Option String
  deriving DecidableEq, Repr

/-- The JSON `setState` writes: `LastError` goes as its text, `ErrorMsg`. -/
structure Blob where
  operationState : OperationState
  operationStage : Nat
  operationVersion : Nat
  imagePath : String
  errorMsg : String
  deriving DecidableEq, Repr

def HandlerState.toBlob (state : HandlerState) : Blob :=
  ⟨state.operationState, state.operationStage, state.operationVersion, state.imagePath,
    state.lastError.getD ""⟩

/-- The unmarshalling of `getState`: an empty `ErrorMsg` is no error. -/
def Blob.toState (blob : Blob) : HandlerState :=
  ⟨blob.operationState, blob.operationStage, blob.operationVersion, blob.imagePath,
    if blob.errorMsg = "" then none else some blob.errorMsg⟩

/-- The module statuses of the `StateStorage`: each module's error, `none` for success. -/
abbrev Statuses := List (String × Option String)

def addStatus (statuses : Statuses) (id : String) (status : Option String) : Statuses :=
  if statuses.any (fun entry => entry.1 = id) then
    statuses.map (fun entry => if entry.1 = id then (id, status) else entry)
  else statuses ++ [(id, status)]

def removeStatus (statuses : Statuses) (id : String) : Statuses :=
  statuses.filter (fun entry => entry.1 ≠ id)

/-- What survives a crash: the saved state, the module statuses and the platform version. -/
structure Storage where
  blob : Blob
  statuses : Statuses
  version : Nat
  deriving DecidableEq, Repr

structure ItemMetadata where
  type : String
  path : String
  deriving DecidableEq, Repr

/-- `imageMetadata`, with the fields the handler reads. -/
structure ImageMetadata where
  platformId : String
  updateItems : List ItemMetadata
  deriving DecidableEq, Repr

/-- A module call and its error. -/
inductive Call
  | upgrade (id : String) (version : Nat) (path : String) (result : Option String)
  | revert (id : String) (version : Nat) (result : Option String)
  deriving DecidableEq, Repr

/-- What the environment chooses during one step: the result of each `setState`, numbered in
the step, and of each file, storage, module and platform call. -/
structure Env where
  write : Nat → Option String
  checkFile : Option String
  clearStatuses : Option String
  removeAll : Option String
  mkdir : Option String
  untar : Option String
  metadata : Except String ImageMetadata
  platformId : Except String String
  getStatuses : Option String
  upgrade : String → Option String
  addStatus : String → Option String
  revert : String → Option String
  removeStatus : String → Option String
  setVersion : Option String
  order : String → Nat

/-- The order in which `range` visits the module statuses `GetModuleStatuses` returns: by the
rank `order` gives each id, so that every order of the ids is one the environment can
choose. -/
def Env.range (env : Env) (statuses : Statuses) : Statuses :=
  statuses.insertionSort fun first second => env.order first.1 ≤ env.order second.1

/-! ### One stage -/

/-- What a step reads and changes: the handler state and current version in memory, the
storage, the `setState` calls made so far in the step, and the module calls made. -/
structure Work where
  state : HandlerState
  currentVersion : Nat
  storage : Storage
  writes : Nat
  calls : List Call

namespace Work

variable (env : Env)

def call (work : Work) (call : Call) : Work := { work with calls := work.calls ++ [call] }

def setState (work : Work) : Work × Option String :=
  match env.write work.writes with
  | some message => ({ work with writes := work.writes + 1 }, some message)
  | none =>
      ({ work with
        storage := { work.storage with blob := work.state.toBlob }
        writes := work.writes + 1 }, none)

def addModuleStatus (work : Work) (id : String) (status : Option String) :
    Work × Option String :=
  match env.addStatus id with
  | some message => (work, some message)
  | none =>
      ({ work with storage := { work.storage with
        statuses := addStatus work.storage.statuses id status } }, none)

/-- `RemoveModuleStatus`; its error is only logged. -/
def removeModuleStatus (work : Work) (id : String) : Work :=
  match env.removeStatus id with
  | some _ => work
  | none =>
      { work with storage := { work.storage with
        statuses := removeStatus work.storage.statuses id } }

/-- `operationFinished`: the status sent on `statusChannel` is not modelled. -/
def operationFinished (work : Work) (newState : OperationState)
    (operationError : Option String) : Work :=
  let currentVersion :=
    if operationError.isNone then work.state.operationVersion else work.currentVersion
  let storage := if env.setVersion.isNone then { work.storage with version := currentVersion }
    else work.storage
  (setState env { work with currentVersion, storage, state := { work.state with
    operationState := newState } }).1

end Work

section Stages

variable (modules : List String) (env : Env)

/-- `updateModule`; the item's path stands for `path.Join(bundleDir, item.Path)`. -/
def updateModule (version : Nat) (id path : String) (work : Work) : Work × Option String :=
  if id ∈ modules then
    let result := env.upgrade id
    (work.call (.upgrade id version path result), result)
  else (work, some "module not found")

/-- The loop of `updateModules` over the update items; `saved` is the status map it read
before the loop. -/
def updateItems (version : Nat) (saved : Statuses) (work : Work) :
    List ItemMetadata → Work × Option String
  | [] => (work, none)
  | item :: rest =>
      if (saved.lookup item.type).isSome then updateItems version saved work rest
      else
        let (work, status) := updateModule modules env version item.type item.path work
        let (work, err) := work.addModuleStatus env item.type status
        match status, err with
        | some message, _ => (work, some message)
        | none, some message => (work, some message)
        | none, none => updateItems version saved work rest

def updateModules (version : Nat) (work : Work) : Work × Option String :=
  match env.metadata, env.platformId with
  | .error message, _ => (work, some message)
  | .ok _, .error message => (work, some message)
  | .ok metadata, .ok platformId =>
      if metadata.platformId ≠ platformId then (work, some "wrong platform ID")
      else
        match env.getStatuses with
        | some message => (work, some message)
        | none => updateItems modules env version work.storage.statuses work metadata.updateItems

def revertModule (version : Nat) (id : String) (work : Work) : Work × Option String :=
  if id ∈ modules then
    let result := env.revert id
    (work.call (.revert id version result), result)
  else (work, some "module not found")

/-- The loop of `revertModules`: every module whose saved status is a success is reverted and
its status removed; the first error is kept. -/
def revertEntries (version : Nat) (work : Work) (err : Option String) :
    Statuses → Work × Option String
  | [] => (work, err)
  | (id, status) :: rest =>
      if status.isSome then revertEntries version work err rest
      else
        let (work, status) := revertModule modules env version id work
        revertEntries version (work.removeModuleStatus env id) (err <|> status) rest

def revertModules (version : Nat) (work : Work) : Work × Option String :=
  match env.getStatuses with
  | some message => (work, some message)
  | none => revertEntries modules env version work none (env.range work.storage.statuses)

/-- How a pass of a goroutine's loop ends: on to the next stage, or returned after
`operationFinished` with the given state and error. -/
inductive Next
  | stage (stage : Nat)
  | done (state : OperationState) (err : Option String)
  deriving DecidableEq, Repr

/-- The end of a pass that did not return: `setState`, and `operationFinished` when it
fails. -/
def saveStage (work : Work) (stage : Nat) : Work × Next :=
  match work.setState env with
  | (work, some message) =>
      (work.operationFinished env .upgraded (some message), .done .upgraded (some message))
  | (work, none) => (work, .stage stage)

def Work.setLastError (work : Work) (err : Option String) : Work :=
  { work with state := { work.state with lastError := err } }

/-- One pass of the loop of `upgrade(stage)`. -/
def upgradePass (stage : Nat) (work : Work) : Work × Next :=
  if stage = upgradeInitStage then
    let work := work.setLastError env.removeAll
    saveStage env work (if env.removeAll.isSome then upgradeFinishStage else upgradeUnpackStage)
  else if stage = upgradeUnpackStage then
    match env.mkdir with
    | some message => saveStage env (work.setLastError (some message)) upgradeFinishStage
    | none =>
        let work := work.setLastError env.untar
        saveStage env work (if env.untar.isSome then upgradeFinishStage else upgradeModulesStage)
  else if stage = upgradeModulesStage then
    let (work, err) := updateModules modules env work.state.operationVersion work
    let work := work.setLastError err
    saveStage env work (if err.isSome then upgradeRevertModulesStage else upgradeFinishStage)
  else if stage = upgradeRevertModulesStage then
    let (work, _) := revertModules modules env work.currentVersion work
    saveStage env work upgradeFinishStage
  else if stage = upgradeFinishStage then
    (work.operationFinished env .upgraded work.state.lastError, .done .upgraded work.state.lastError)
  else saveStage env work stage

/-- One pass of the loop of `revert(stage)`. -/
def revertPass (stage : Nat) (work : Work) : Work × Next :=
  if stage = revertInitStage then saveStage env work revertModulesStage
  else if stage = revertModulesStage then
    let (work, err) := revertModules modules env work.state.operationVersion work
    saveStage env (work.setLastError err) revertFinishStage
  else if stage = revertFinishStage then
    (work.operationFinished env .reverted work.state.lastError, .done .reverted work.state.lastError)
  else saveStage env work stage

end Stages

/-! ### The handler -/

/-- A running goroutine, with the stage in its local variable. -/
inductive Run
  | upgrade (stage : Nat)
  | revert (stage : Nat)
  deriving DecidableEq, Repr

/-- The handler in memory: its state, current version and goroutines. -/
structure Handler where
  state : HandlerState
  currentVersion : Nat
  runs : List Run
  deriving DecidableEq, Repr

structure Config where
  storage : Storage
  handler : Option Handler
  deriving DecidableEq, Repr

/-- A step: a request, the next pass of the `index`-th goroutine, or a restart with `New`'s
result. -/
inductive Choice
  | upgrade (version : Nat) (imagePath : String) (env : Env)
  | revert (version : Nat) (env : Env)
  | pass (index : Nat) (env : Env)
  | restart (err : Option String)

/-- What a step shows; a pass shows its module calls, and `operationFinished` when it
returned. -/
inductive Label
  | upgrade (version : Nat) (result : Option String)
  | revert (version : Nat) (result : Option String)
  | pass (calls : List Call) (finished : Option (OperationState × Option String))
  | new (result : Option String)
  deriving DecidableEq, Repr

/-- `if err = handler.setState(); err != nil { return err }`, then `go` the goroutine: the
work, the result, and whether the goroutine started. -/
def Work.saveAndStart (env : Env) (work : Work) : Work × Option String × Bool :=
  match work.setState env with
  | (work, some message) => (work, some message, false)
  | (work, none) => (work, none, true)

section Requests

variable (env : Env) (storage : Storage) (handler : Handler)

def Handler.work : Work := ⟨handler.state, handler.currentVersion, storage, 0, []⟩

/-- `Upgrade`; the result, and whether `upgrade()` started. -/
def upgrade (version : Nat) (imagePath : String) : Work × Option String × Bool :=
  let work := handler.work storage
  if version ≤ handler.currentVersion then
    (work, some ("wrong update version: " ++ toString version), false)
  else if handler.state.operationState ≠ .reverted ∧ handler.state.operationState ≠ .upgraded then
    (work, some "wrong state", false)
  else if handler.state.operationState = .reverted ∧ handler.state.lastError.isSome then
    (work, some "can't upgrade after failed revert", false)
  else
    match env.checkFile, env.clearStatuses with
    | some message, _ => (work, some message, false)
    | none, some message => (work, some message, false)
    | none, none =>
        let work := { work with storage := { work.storage with statuses := [] } }
        let state : HandlerState :=
          ⟨.upgrading, upgradeInitStage, version, imagePath, none⟩
        Work.saveAndStart env { work with state }

/-- `Revert`; the result, and whether `revert()` started. -/
def revert (version : Nat) : Work × Option String × Bool :=
  let work := handler.work storage
  if ¬(handler.state.operationState = .upgraded ∧ handler.state.lastError = none) then
    (work, some "wrong state", false)
  else
    let state : HandlerState := { handler.state with
      operationVersion := version, operationState := .reverting,
      operationStage := revertInitStage, lastError := none }
    Work.saveAndStart env { work with state }

end Requests

def Handler.resume (handler : Handler) (work : Work) : Handler :=
  { handler with state := work.state, currentVersion := work.currentVersion }

/-- `New`: the platform version and the saved state are read back, and an operation under way
resumes at the saved stage. -/
def new (storage : Storage) : Handler :=
  let state := storage.blob.toState
  let runs := match state.operationState with
    | .upgrading => [.upgrade state.operationStage]
    | .reverting => [.revert state.operationStage]
    | _ => []
  ⟨state, storage.version, runs⟩

def Run.pass (modules : List String) (env : Env) : Run → Work → Work × Next
  | .upgrade stage => upgradePass modules env stage
  | .revert stage => revertPass modules env stage

def Run.at : Run → Nat → Run
  | .upgrade _, stage => .upgrade stage
  | .revert _, stage => .revert stage

def step (modules : List String) (cfg : Config) : Choice → Option (Label × Config)
  | .upgrade version imagePath env => do
      let handler ← cfg.handler
      let (work, result, started) := upgrade env cfg.storage handler version imagePath
      let handler := handler.resume work
      let handler :=
        if started then { handler with runs := handler.runs ++ [.upgrade upgradeInitStage] }
        else handler
      some (.upgrade version result, ⟨work.storage, some handler⟩)
  | .revert version env => do
      let handler ← cfg.handler
      let (work, result, started) := revert env cfg.storage handler version
      let handler := handler.resume work
      let handler :=
        if started then { handler with runs := handler.runs ++ [.revert revertInitStage] }
        else handler
      some (.revert version result, ⟨work.storage, some handler⟩)
  | .pass index env => do
      let handler ← cfg.handler
      let run ← handler.runs[index]?
      let (work, next) := run.pass modules env (handler.work cfg.storage)
      let handler := handler.resume work
      match next with
      | .stage stage =>
          some (.pass work.calls none,
            ⟨work.storage, some { handler with runs := handler.runs.set index (run.at stage) }⟩)
      | .done state err =>
          some (.pass work.calls (some (state, err)),
            ⟨work.storage, some { handler with runs := handler.runs.eraseIdx index }⟩)
  | .restart err =>
      match err with
      | some message => some (.new (some message), ⟨cfg.storage, none⟩)
      | none => some (.new none, ⟨cfg.storage, some (new cfg.storage)⟩)

def run (modules : List String) (cfg : Config) : List Choice → Option (Config × List Label)
  | [] => some (cfg, [])
  | choice :: rest => do
      let (label, next) ← step modules cfg choice
      let (last, labels) ← run modules next rest
      pure (last, label :: labels)

def quietEnv : Env :=
  ⟨fun _ => none, none, none, none, none, none, .ok ⟨"board", [⟨"rootfs", "rootfs.img"⟩]⟩,
    .ok "board", none, fun _ => none, fun _ => none, fun _ => none, fun _ => none, none,
    fun _ => 0⟩

def failingModule : Env := { quietEnv with upgrade := fun _ => some "upgrade failed" }

def upgradedStorage : Storage := ⟨⟨.upgraded, upgradeInitStage, 1, "", ""⟩, [], 1⟩

/-! ### `updateModules` skips saved statuses -/

section Skips

variable (modules : List String) (env : Env)

end Skips

/-! ### The saved stage stays `Init` -/

section AtInit

variable (modules : List String) (env : Env) {work : Work}

variable {storage : Storage} {handler : Handler}

end AtInit

section Runs

variable {modules : List String} {cfg next : Config} {choice : Choice} {label : Label}

end Runs

/-! ### A failed module skipped after a crash -/

/-- `Upgrade(2)` runs its stages up to `UpgradeModules`, where `rootfs`'s `Upgrade` fails and
its failure is saved; the process crashes before `RevertModules`. `New` resumes the upgrade
from `Init`, which clears `LastError`; `UpgradeModules` skips `rootfs`, and the upgrade
finishes with no error at version 2. -/
theorem upgrade_succeeds_after_failed_module :
    (run ["rootfs"] ⟨upgradedStorage, none⟩ [.restart none, .upgrade 2 "image.tar.gz" quietEnv,
        .pass 0 quietEnv, .pass 0 quietEnv, .pass 0 failingModule, .restart none,
        .pass 0 quietEnv, .pass 0 quietEnv, .pass 0 quietEnv, .pass 0 quietEnv]).map
        (fun ran => (ran.1.handler.map Handler.currentVersion, ran.2)) =
      some (some 2, [.new none, .upgrade 2 none, .pass [] none, .pass [] none,
        .pass [.upgrade "rootfs" 2 "rootfs.img" (some "upgrade failed")] none, .new none,
        .pass [] none, .pass [] none, .pass [] none, .pass [] (some (.upgraded, none))]) :=
  rfl

end UpdateManager.Staged