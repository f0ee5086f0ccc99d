import Mathlib.Data.List.Sort

set_option autoImplicit false

/-!
# The asynchronous update handler

The `updatehandler.Handler` of `src/unnamed/part_006` (lines 414-1327): `Upgrade` and `Revert`
save the operation and start `upgrade()` or `revert()`, which loop over the shared
`OperationState`; after a restart `init()` resumes the saved operation. A step is a request,
one pass of a goroutine, `init()` or a restart; the environment chooses every call result and
the order `range` visits `ModuleStates`. Without `Revert` at most one goroutine runs
(`single_without_revert`); a `Revert` during an upgrade starts a second one.
-/

namespace UpdateManager.Async

/-- `upgradeOperation`, `revertOperation`. -/
inductive OperationType
  | upgrade
  | revert
  deriving DecidableEq, Repr

/-- `idleState`, `initState`, `upgradeState`, `revertState`, `cancelState`, `finishState`. -/
inductive OperationState
  | idle
  | init
  | upgrade
  | revert
  | cancel
  | finish
  deriving DecidableEq, Repr

/-- The module states: `invalidState` (the zero value) to `canceledState`. -/
inductive ModuleState
  | invalid
  | upgrading
  | upgraded
  | reverting
  | reverted
  | canceling
  | canceled
  deriving DecidableEq, Repr

structure ItemMetadata where
  type : String
  path : String
  deriving DecidableEq, Repr

/-- `imageMetadata`, with the fields the handler reads. -/
structure ImageMetadata where
  platformId : String
  updateItems : List ItemMetadata
  deriving DecidableEq, Repr

structure HandlerState where
  operationType : OperationType
  operationState : OperationState
  operationVersion : Nat
  imagePath : String
  lastError : Option String
  moduleStates : List (String × ModuleState)
  deriving DecidableEq, Repr

/-- The JSON `setState` writes: `LastError` goes as its text, `ErrorMsg`. -/
structure Blob where
  operationType : OperationType
  operationState : OperationState
  operationVersion : Nat
  imagePath : String
  errorMsg : String
  moduleStates : List (String × ModuleState)
  deriving DecidableEq, Repr

def HandlerState.toBlob (state : HandlerState) : Blob :=
  ⟨state.operationType, state.operationState, state.operationVersion, state.imagePath,
    state.lastError.getD "", state.moduleStates⟩

/-- The unmarshalling of `getState`: an empty `ErrorMsg` is no error. -/
def Blob.toState (blob : Blob) : HandlerState :=
  ⟨blob.operationType, blob.operationState, blob.operationVersion, blob.imagePath,
    if blob.errorMsg = "" then none else some blob.errorMsg, blob.moduleStates⟩

/-- `ModuleStates[id]`: the zero value `invalidState` when the id is missing. -/
def moduleStateOf (states : List (String × ModuleState)) (id : String) : ModuleState :=
  ((states.find? (fun entry => entry.1 = id)).map Prod.snd).getD .invalid

def setModuleStateIn (states : List (String × ModuleState)) (id : String) (state : ModuleState) :
    List (String × ModuleState) :=
  if states.any (fun entry => entry.1 = id) then
    states.map (fun entry => if entry.1 = id then (id, state) else entry)
  else states ++ [(id, state)]

/-- The calls the handler makes to its modules and its platform. -/
inductive Call
  | upgrade (id path : String)
  | cancelUpgrade (id : String)
  | finishUpgrade (id : String)
  | revert (id : String)
  | cancelRevert (id : String)
  | systemReboot
  deriving DecidableEq, Repr

/-- What the environment chooses during one step: the result of each `setState`, numbered in
the step, and of each module, image, and platform call. -/
structure Env where
  write : Nat → Option String
  checkFile : Option String
  unpack : Option String
  metadata : Except String ImageMetadata
  platformId : Except String String
  upgrade : String → Bool × Option String
  cancelUpgrade : String → Bool × Option String
  finishUpgrade : String → Option String
  revert : String → Bool × Option String
  cancelRevert : String → Bool × Option String
  setVersion : Option String
  order : String → Nat

/-- The order in which `range` visits `ModuleStates`: by the rank `order` gives each id, so
that every order of the ids is one the environment can choose. -/
def Env.range (env : Env) (states : List (String × ModuleState)) : List (String × ModuleState) :=
  states.insertionSort fun first second => env.order first.1 ≤ env.order second.1

/-! ### One pass of a goroutine -/

/-- What a pass reads and changes: the handler state and current version in memory, the saved
blob and platform version, the `setState` calls made so far in the step, and the calls made. -/
structure Work where
  state : HandlerState
  currentVersion : Nat
  blob : Blob
  version : Nat
  writes : Nat
  calls : List Call

namespace Work

variable (env : Env)

def call (work : Work) (call : Call) : Work := { work with calls := work.calls ++ [call] }

def setState (work : Work) : Work × Option String :=
  match env.write work.writes with
  | some message => ({ work with writes := work.writes + 1 }, some message)
  | none => ({ work with blob := work.state.toBlob, writes := work.writes + 1 }, none)

def setModuleState (work : Work) (id : String) (state : ModuleState) : Work × Option String :=
  setState env { work with state := { work.state with
    moduleStates := setModuleStateIn work.state.moduleStates id state } }

/-- `finishOperation`: the status sent on `statusChannel` is not modelled. -/
def finishOperation (work : Work) (operationError : Option String) : Work :=
  let currentVersion :=
    if operationError.isNone then work.state.operationVersion else work.currentVersion
  let version := if env.setVersion.isNone then currentVersion else work.version
  (setState env { work with currentVersion, version, state := { work.state with
    operationState := .idle, lastError := operationError } }).1

end Work

section Passes

variable (modules : List String) (env : Env)

/-- The loop of `upgradeModules` over the update items. -/
def upgradeItems (work : Work) (rebootRequired : Bool) :
    List ItemMetadata → Work × Bool × Option String
  | [] => (work, rebootRequired, none)
  | item :: rest =>
      if moduleStateOf work.state.moduleStates item.type = .upgraded then
        upgradeItems work rebootRequired rest
      else
        match work.setModuleState env item.type .upgrading with
        | (work, some message) => (work, false, some message)
        | (work, none) =>
            let work := work.call (.upgrade item.type item.path)
            match env.upgrade item.type with
            | (_, some message) => (work, false, some message)
            | (true, none) => upgradeItems work true rest
            | (false, none) =>
                match work.setModuleState env item.type .upgraded with
                | (work, some message) => (work, false, some message)
                | (work, none) => upgradeItems work rebootRequired rest

def upgradeModules (work : Work) : Work × Bool × Option String :=
  match env.metadata, env.platformId with
  | .error message, _ => (work, false, some message)
  | .ok _, .error message => (work, false, some message)
  | .ok metadata, .ok platformId =>
      if metadata.platformId ≠ platformId then (work, false, some "wrong platform ID")
      else
        match metadata.updateItems.find? (fun item => item.type ∉ modules) with
        | some item => (work, false, some ("module " ++ item.type ++ " not found"))
        | none => upgradeItems env work false metadata.updateItems

/-- The loop of `cancelUpgradeModules` and `cancelRevertModules`: `skip` says which states
are left alone, `cancel` is the module method. The first error is kept. -/
def cancelModules (skip : ModuleState → Bool) (cancel : String → Bool × Option String)
    (cancelCall : String → Call) (work : Work) (rebootRequired : Bool)
    (cancelErr : Option String) : List (String × ModuleState) → Work × Bool × Option String
  | [] => (work, rebootRequired, cancelErr)
  | (id, state) :: rest =>
      if skip state then cancelModules skip cancel cancelCall work rebootRequired cancelErr rest
      else
        let (work, err) := work.setModuleState env id .canceling
        let cancelErr := cancelErr <|> err
        if id ∈ modules then
          let work := work.call (cancelCall id)
          let (moduleRebootRequired, err) := cancel id
          let cancelErr := cancelErr <|> err
          if moduleRebootRequired then
            cancelModules skip cancel cancelCall work true cancelErr rest
          else
            let (work, err) := work.setModuleState env id .canceled
            cancelModules skip cancel cancelCall work rebootRequired (cancelErr <|> err) rest
        else
          let cancelErr := cancelErr <|> some ("module " ++ id ++ " not found")
          let (work, err) := work.setModuleState env id .canceled
          cancelModules skip cancel cancelCall work rebootRequired (cancelErr <|> err) rest

def cancelUpgradeModules (work : Work) : Work × Bool × Option String :=
  cancelModules modules env (· == .canceled) env.cancelUpgrade .cancelUpgrade work false none
    (env.range work.state.moduleStates)

/-- `cancelRevertModules`: it also leaves upgraded modules alone. -/
def cancelRevertModules (work : Work) : Work × Bool × Option String :=
  cancelModules modules env (fun state => state == .upgraded || state == .canceled)
    env.cancelRevert .cancelRevert work false none (env.range work.state.moduleStates)

/-- The loop of `finishUpgradeModules`: every module of `ModuleStates` gets `FinishUpgrade`;
the first error is kept. -/
def finishModules (work : Work) (finishErr : Option String) :
    List (String × ModuleState) → Work × Option String
  | [] => (work, finishErr)
  | (id, _) :: rest =>
      if id ∈ modules then
        finishModules (work.call (.finishUpgrade id)) (finishErr <|> env.finishUpgrade id) rest
      else finishModules work (finishErr <|> some ("module " ++ id ++ " not found")) rest

def finishUpgradeModules (work : Work) : Work × Option String :=
  finishModules modules env work none (env.range work.state.moduleStates)

/-- `finishRevertModules`: it calls `FinishUpgrade` too. -/
def finishRevertModules (work : Work) : Work × Option String :=
  finishModules modules env work none (env.range work.state.moduleStates)

/-- The loop of `revertModules`. -/
def revertEntries (work : Work) (rebootRequired : Bool) :
    List (String × ModuleState) → Work × Bool × Option String
  | [] => (work, rebootRequired, none)
  | (id, state) :: rest =>
      if state = .reverted then revertEntries work rebootRequired rest
      else if id ∉ modules then (work, false, some ("module " ++ id ++ " not found"))
      else
        match work.setModuleState env id .reverting with
        | (work, some message) => (work, false, some message)
        | (work, none) =>
            let work := work.call (.revert id)
            match env.revert id with
            | (_, some message) => (work, false, some message)
            | (true, none) => revertEntries work true rest
            | (false, none) =>
                match work.setModuleState env id .reverted with
                | (work, some message) => (work, false, some message)
                | (work, none) => revertEntries work rebootRequired rest

def revertModules (work : Work) : Work × Bool × Option String :=
  revertEntries modules env work false (env.range work.state.moduleStates)

/-- How a pass of a goroutine's loop ends: it loops again, it returned, or it is blocked for
good. -/
inductive Next
  | loop
  | done
  | deadlocked
  deriving DecidableEq, Repr

/-- `switchState`. When its `setState` fails, a `LastError` becomes the write's error and it
calls `finishOperation`, which locks the mutex `switchState` holds: the goroutine blocks for
good, holding the lock. -/
def switchState (work : Work) (state : OperationState) (lastError : Option String) :
    Work × Next :=
  match Work.setState env { work with state := { work.state with
      operationState := state, lastError } } with
  | (work, some message) =>
      ({ work with state := { work.state with
        lastError := work.state.lastError.map fun _ => message } }, .deadlocked)
  | (work, none) => (work, .loop)

/-- The end of a pass: `if rebootRequired { SystemReboot(); return }`. -/
def afterPass (work : Work) (rebootRequired : Bool) : Work × Next :=
  if rebootRequired then (work.call .systemReboot, .done) else (work, .loop)

/-- One pass of the loop of `upgrade()`. -/
def upgradePass (work : Work) : Work × Next :=
  match work.state.operationState with
  | .init =>
      match env.unpack with
      | some message => switchState env work .finish (some message)
      | none => switchState env work .upgrade none
  | .upgrade =>
      match upgradeModules modules env work with
      | (work, _, some message) => switchState env work .cancel (some message)
      | (work, true, none) => afterPass work true
      | (work, false, none) => switchState env work .finish none
  | .cancel =>
      match cancelUpgradeModules modules env work with
      | (work, true, _) => afterPass work true
      | (work, false, _) => (work.finishOperation env work.state.lastError, .done)
  | .finish =>
      let (work, err) := finishUpgradeModules modules env work
      (work.finishOperation env err, .done)
  | _ => (work, .loop)

/-- One pass of the loop of `revert()`. -/
def revertPass (work : Work) : Work × Next :=
  match work.state.operationState with
  | .init => switchState env work .revert none
  | .revert =>
      match revertModules modules env work with
      | (work, _, some message) => switchState env work .cancel (some message)
      | (work, true, none) => afterPass work true
      | (work, false, none) => switchState env work .finish none
  | .cancel =>
      match cancelRevertModules modules env work with
      | (work, true, _) => afterPass work true
      | (work, false, _) => (work.finishOperation env work.state.lastError, .done)
  | .finish =>
      let (work, err) := finishRevertModules modules env work
      (work.finishOperation env err, .done)
  | _ => (work, .loop)

def pass : OperationType → Work → Work × Next
  | .upgrade => upgradePass modules env
  | .revert => revertPass modules env

end Passes

/-! ### The handler -/

/-- The handler in memory: its state and current version, whether `init()` has yet to return
(`wg`), the `upgrade()` and `revert()` goroutines that run, and whether a goroutine blocked
holding the mutex. -/
structure Handler where
  state : HandlerState
  currentVersion : Nat
  initPending : Bool
  runs : List OperationType
  locked : Bool
  deriving DecidableEq, Repr

/-- What survives a restart: the saved blob and the platform version. -/
structure Storage where
  blob : Blob
  version : Nat
  deriving DecidableEq, Repr

structure Config where
  storage : Storage
  handler : Option Handler
  deriving DecidableEq, Repr

/-- A step: a request, the next pass of the `index`-th goroutine, `init()`, or a restart with
`New`'s result. -/
inductive Choice
  | upgrade (version : Nat) (imagePath : String) (env : Env)
  | revert (version : Nat) (env : Env)
  | pass (index : Nat) (env : Env)
  | init
  | restart (err : Option String)

inductive Label
  | upgrade (version : Nat) (result : Option String)
  | revert (version : Nat) (result : Option String)
  | pass (kind : OperationType) (calls : List Call) (next : Next)
  | init
  | new (result : Option String)
  deriving DecidableEq, Repr

section Requests

variable (env : Env) (storage : Storage) (handler : Handler)

def Handler.work : Work :=
  ⟨handler.state, handler.currentVersion, storage.blob, storage.version, 0, []⟩

/-- `Upgrade`; the result, and whether `upgrade()` started. -/
def upgrade (version : Nat) (imagePath : String) : Work × Option String × Bool :=
  let work := handler.work storage
  if version ≤ handler.currentVersion then
    (work, some ("wrong upgrade version: " ++ toString version), false)
  else if handler.state.operationState ≠ .idle then (work, some "wrong state", false)
  else
    match env.checkFile with
    | some message => (work, some message, false)
    | none =>
        match Work.setState env { work with state := ⟨.upgrade, .init, version, imagePath, none, []⟩ } with
        | (work, some message) => (work, some message, false)
        | (work, none) => (work, none, true)

/-- `Revert`; the result, and whether `revert()` started. -/
def revert (version : Nat) : Work × Option String × Bool :=
  let work := handler.work storage
  if version ≥ handler.currentVersion then
    (work, some ("wrong revert version: " ++ toString version), false)
  else
    let state : HandlerState := { work.state with
      operationState := .init, operationVersion := version, operationType := .revert,
      lastError := none }
    match Work.setState env { work with state } with
    | (work, some message) => (work, some message, false)
    | (work, none) => (work, none, true)

end Requests

def Handler.resume (handler : Handler) (work : Work) : Handler :=
  { handler with state := work.state, currentVersion := work.currentVersion }

/-- `init()`: the modules' `Init` results are only logged; a saved operation resumes. -/
def Handler.init (handler : Handler) : Handler :=
  let runs :=
    if handler.state.operationState ≠ .idle then handler.runs ++ [handler.state.operationType]
    else handler.runs
  { handler with initPending := false, runs }

/-- `New`: the platform version and the saved state are read back, and `init()` starts. -/
def new (storage : Storage) : Handler :=
  ⟨storage.blob.toState, storage.version, true, [], false⟩

/-- A request waits for `init()` (`wg.Wait()`) and for the mutex. -/
def Handler.Ready (handler : Handler) : Prop := handler.initPending = false ∧ handler.locked = false

instance (handler : Handler) : Decidable handler.Ready := inferInstanceAs (Decidable (_ ∧ _))

def step (modules : List String) (cfg : Config) : Choice → Option (Label × Config)
  | .upgrade version imagePath env => do
      let handler ← cfg.handler
      if handler.Ready then
        let (work, result, started) := upgrade env cfg.storage handler version imagePath
        let handler := handler.resume work
        let handler := if started then { handler with runs := handler.runs ++ [.upgrade] } else handler
        some (.upgrade version result, ⟨⟨work.blob, work.version⟩, some handler⟩)
      else none
  | .revert version env => do
      let handler ← cfg.handler
      if handler.Ready then
        let (work, result, started) := revert env cfg.storage handler version
        let handler := handler.resume work
        let handler := if started then { handler with runs := handler.runs ++ [.revert] } else handler
        some (.revert version result, ⟨⟨work.blob, work.version⟩, some handler⟩)
      else none
  | .pass index env => do
      let handler ← cfg.handler
      let kind ← handler.runs[index]?
      if handler.locked then none
      else
        let (work, next) := pass modules env kind (handler.work cfg.storage)
        let handler := handler.resume work
        let handler := match next with
          | .loop => handler
          | .done => { handler with runs := handler.runs.eraseIdx index }
          | .deadlocked => { handler with runs := handler.runs.eraseIdx index, locked := true }
        some (.pass kind work.calls next, ⟨⟨work.blob, work.version⟩, some handler⟩)
  | .init => do
      let handler ← cfg.handler
      if handler.initPending then some (.init, ⟨cfg.storage, some handler.init⟩) else none
  | .restart err =>
      match err with
      | some message => some (.new (some message), ⟨cfg.storage, none⟩)
      | none => some (.new none, ⟨cfg.storage, some (new cfg.storage)⟩)

def run (modules : List String) (cfg : Config) : List Choice → Option (Config × List Label)
  | [] => some (cfg, [])
  | choice :: rest => do
      let (label, next) ← step modules cfg choice
      let (last, labels) ← run modules next rest
      pure (last, label :: labels)

/-! ### `Revert` does not wait for the operation in progress -/

def quietEnv : Env :=
  ⟨fun _ => none, none, none, .ok ⟨"board", [⟨"rootfs", "rootfs.img"⟩]⟩, .ok "board",
    fun _ => (false, none), fun _ => (false, none), fun _ => none, fun _ => (false, none),
    fun _ => (false, none), none, fun _ => 0⟩

def idleStorage : Storage := ⟨⟨.upgrade, .idle, 1, "", "", []⟩, 1⟩

/-- After `New` and `init()`, `Upgrade(2)` starts `upgrade()`; `Revert(0)` is then accepted
while it runs: two goroutines run, and the operation is now a revert to version 0. The next
pass of `upgrade()` unpacks the image for it. -/
theorem revert_during_upgrade :
    (run ["rootfs"] ⟨idleStorage, none⟩ [.restart none, .init, .upgrade 2 "image.tar.gz" quietEnv,
        .revert 0 quietEnv, .pass 0 quietEnv]).map
        (fun ran => (ran.1.handler.map fun handler => (handler.runs, handler.state.operationType,
          handler.state.operationState, handler.state.operationVersion), ran.2)) =
      some (some ([.upgrade, .revert], .revert, .upgrade, 0),
        [.new none, .init, .upgrade 2 none, .revert 0 none, .pass .upgrade [] .loop]) :=
  rfl

/-- After `Upgrade(2)` has run to its end, `Revert(1)` reverts `rootfs`, and the finish pass of
`revert()` calls `FinishUpgrade` on it. -/
theorem revert_finished_by_finishUpgrade :
    (run ["rootfs"] ⟨idleStorage, none⟩ [.restart none, .init, .upgrade 2 "image.tar.gz" quietEnv,
        .pass 0 quietEnv, .pass 0 quietEnv, .pass 0 quietEnv, .revert 1 quietEnv,
        .pass 0 quietEnv, .pass 0 quietEnv, .pass 0 quietEnv]).map Prod.snd =
      some [.new none, .init, .upgrade 2 none, .pass .upgrade [] .loop,
        .pass .upgrade [.upgrade "rootfs" "rootfs.img"] .loop,
        .pass .upgrade [.finishUpgrade "rootfs"] .done, .revert 1 none,
        .pass .revert [] .loop, .pass .revert [.revert "rootfs"] .loop,
        .pass .revert [.finishUpgrade "rootfs"] .done] :=
  rfl

/-! ### One goroutine at a time, without `Revert` -/

/-- At most one goroutine runs, one runs only while an operation is under way, and none runs
before `init()` has returned. -/
structure Single (handler : Handler) : Prop where
  atMostOne : handler.runs.length ≤ 1
  busy : handler.runs ≠ [] → handler.state.operationState ≠ .idle
  pending : handler.initPending = true → handler.runs = []

section Single

variable {modules : List String} {env : Env} {work : Work}

private theorem Work.setState_eq (work : Work) :
    Work.setState env work = ({ work with
      blob := (env.write work.writes).elim work.state.toBlob fun _ => work.blob,
      writes := work.writes + 1 }, env.write work.writes) := by
  unfold Work.setState
  split <;> simp_all

@[simp] theorem switchState_state (state : OperationState) (lastError : Option String) :
    (switchState env work state lastError).1.state.operationState = state := by
  simp only [switchState, Work.setState_eq]
  cases env.write work.writes <;> rfl

private theorem pass_loop_busy (kind : OperationType) (busy : work.state.operationState ≠ .idle)
    (looped : (pass modules env kind work).2 = .loop) :
    (pass modules env kind work).1.state.operationState ≠ .idle := by
  cases kind <;> simp only [pass, upgradePass, revertPass] at looped ⊢ <;>
    cases state : work.state.operationState <;> simp only [state] at looped ⊢
  all_goals first
    | exact absurd state busy
    | (split <;> simp_all [afterPass])
    | simp_all

variable {storage : Storage} {handler : Handler} {version : Nat} {imagePath : String}

private theorem upgrade_busy (busy : handler.state.operationState ≠ .idle) :
    (upgrade env storage handler version imagePath).1 = handler.work storage ∧
      (upgrade env storage handler version imagePath).2.2 = false := by
  unfold upgrade
  by_cases old : version ≤ handler.currentVersion <;> simp [old, busy]

private theorem upgrade_started (started : (upgrade env storage handler version imagePath).2.2 = true) :
    handler.state.operationState = .idle ∧
      (upgrade env storage handler version imagePath).1.state.operationState = .init := by
  by_cases idle : handler.state.operationState = .idle
  · refine ⟨idle, ?_⟩
    unfold upgrade at started ⊢
    by_cases old : version ≤ handler.currentVersion
    · simp [old] at started
    · cases check : env.checkFile <;> cases write : env.write 0 <;>
        simp [old, idle, check, write, Work.setState_eq, Handler.work] at started ⊢
  · simp [upgrade_busy idle] at started

private theorem Single.of_runs_nil (nil : handler.runs = []) : Single handler :=
  ⟨by simp [nil], fun running => absurd nil running, fun _ => nil⟩

private theorem single_resume {work : Work} (single : Single handler)
    (busy : handler.runs ≠ [] → work.state.operationState ≠ .idle) :
    Single (handler.resume work) :=
  ⟨single.atMostOne, busy, single.pending⟩

variable {cfg next : Config} {choice : Choice} {label : Label}

private theorem single_upgrade (single : Single handler) (ready : handler.Ready) :
    Single (let outcome := upgrade env storage handler version imagePath
      if outcome.2.2 then { handler.resume outcome.1 with runs := handler.runs ++ [.upgrade] }
      else handler.resume outcome.1) := by
  by_cases idle : handler.state.operationState = .idle
  · have nil : handler.runs = [] := by_contra fun running => single.busy running idle
    cases started : (upgrade env storage handler version imagePath).2.2
    · exact Single.of_runs_nil (by simpa [started, Handler.resume] using nil)
    · refine ⟨by simp [started, nil], fun _ => ?_, fun pending => ?_⟩
      · simp [started, Handler.resume, (upgrade_started started).2]
      · simp [started, Handler.resume, ready.1] at pending
  · obtain ⟨same, unstarted⟩ := @upgrade_busy env storage handler version imagePath idle
    simp only [unstarted, same]
    exact single_resume single single.busy

private theorem single_pass {kind : OperationType} {index : Nat} (single : Single handler)
    (found : handler.runs[index]? = some kind) :
    Single (let outcome := pass modules env kind (handler.work storage)
      match outcome.2 with
      | .loop => handler.resume outcome.1
      | .done => { handler.resume outcome.1 with runs := handler.runs.eraseIdx index }
      | .deadlocked =>
          { handler.resume outcome.1 with runs := handler.runs.eraseIdx index, locked := true }) := by
  have only : handler.runs = [kind] ∧ index = 0 := by
    obtain ⟨inside, at_index⟩ := List.getElem?_eq_some_iff.mp found
    have short := single.atMostOne
    match runs : handler.runs, inside, at_index with
    | [other], inside, at_index => exact ⟨by simp_all, by simpa using inside⟩
    | _ :: _ :: _, _, _ => simp [runs] at short
  obtain ⟨runs, rfl⟩ := only
  have busy := single.busy (by simp [runs])
  cases looped : (pass modules env kind (handler.work storage)).2 <;> simp only [looped]
  · exact single_resume single fun _ => pass_loop_busy kind busy looped
  all_goals exact Single.of_runs_nil (by simp [runs, Handler.resume])

private theorem single_init (single : Single handler) (pending : handler.initPending = true) :
    Single handler.init := by
  have nil := single.pending pending
  refine ⟨?_, fun running => ?_, fun pending => ?_⟩
  · unfold Handler.init
    split <;> simp [nil]
  · unfold Handler.init at running
    split at running
    · assumption
    · exact absurd nil running
  · simp [Handler.init] at pending

private theorem step_single (notRevert : ∀ version env, choice ≠ .revert version env)
    (single : ∀ handler, cfg.handler = some handler → Single handler)
    (stepped : step modules cfg choice = some (label, next)) :
    ∀ handler, next.handler = some handler → Single handler := by
  obtain ⟨storage, running⟩ := cfg
  cases choice with
  | upgrade version imagePath env =>
      simp only [step, Option.bind_eq_bind, Option.bind_eq_some] at stepped
      obtain ⟨handler, rfl, accepted⟩ := stepped
      split at accepted
      · cases accepted
        rintro _ ⟨⟩
        exact single_upgrade (single _ rfl) ‹_›
      · cases accepted
  | revert version env => exact absurd rfl (notRevert version env)
  | pass index env =>
      simp only [step, Option.bind_eq_bind, Option.bind_eq_some] at stepped
      obtain ⟨handler, rfl, kind, found, accepted⟩ := stepped
      split at accepted
      · cases accepted
      · cases accepted
        rintro _ ⟨⟩
        exact single_pass (single _ rfl) found
  | init =>
      simp only [step, Option.bind_eq_bind, Option.bind_eq_some] at stepped
      obtain ⟨handler, rfl, accepted⟩ := stepped
      split at accepted
      · cases accepted
        rintro _ ⟨⟩
        exact single_init (single _ rfl) ‹_›
      · cases accepted
  | restart err =>
      cases err <;> simp only [step, Option.some.injEq, Prod.mk.injEq] at stepped <;>
        obtain ⟨-, rfl⟩ := stepped
      · rintro _ ⟨⟩
        exact Single.of_runs_nil rfl
      · nofun

end Single

/-- In every run with no `Revert` request, from a handler with one goroutine at a time, at
most one `upgrade()` or `revert()` goroutine runs at any time. -/
theorem single_without_revert {modules : List String} {cfg next : Config} {choices : List Choice}
    {trace : List Label} (notRevert : ∀ choice ∈ choices, ∀ version env, choice ≠ .revert version env)
    (single : ∀ handler, cfg.handler = some handler → Single handler)
    (ran : run modules cfg choices = some (next, trace)) :
    ∀ handler, next.handler = some handler → Single handler := by
  induction choices generalizing cfg trace with
  | nil =>
      cases ran
      exact single
  | cons choice rest ih =>
      simp only [run, Option.bind_eq_bind, Option.bind_eq_some] at ran
      obtain ⟨⟨label, middle⟩, stepped, ⟨last, labels⟩, rest_ran, same⟩ := ran
      cases same
      exact ih (fun other member => notRevert other (List.mem_cons_of_mem _ member))
        (step_single (notRevert choice (List.mem_cons_self _ _)) single stepped) rest_ran

def upgradeTwice : List Choice :=
  [.restart none, .init, .upgrade 2 "image.tar.gz" quietEnv, .pass 0 quietEnv,
    .upgrade 3 "image.tar.gz" quietEnv, .pass 0 quietEnv]

theorem upgrade_twice_single : ∃ handler,
    ((run ["rootfs"] ⟨idleStorage, none⟩ upgradeTwice).getD (⟨idleStorage, none⟩, [])).1.handler =
      some handler ∧ Single handler := by
  have ran : run ["rootfs"] ⟨idleStorage, none⟩ upgradeTwice =
      some ((run ["rootfs"] ⟨idleStorage, none⟩ upgradeTwice).getD (⟨idleStorage, none⟩, [])) :=
    rfl
  exact ⟨_, rfl, single_without_revert (by simp [upgradeTwice]) (fun _ found => by cases found)
    ran _ rfl⟩

end UpdateManager.Async
