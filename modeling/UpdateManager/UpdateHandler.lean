import Mathlib.Data.List.Basic

set_option autoImplicit false

/-!
# The synchronous update handler

`updatehandler.Handler` (`src/updatehandler/updatehandler.go`) runs a whole upgrade or revert
inside the call, marking it in progress in memory and in its `Storage`. A call is a function
to the writes that reached the disk, the handler after it, its module calls and its error; a
crash keeps a prefix of the writes. Runs with no failed write are settled between calls
(`run_settled`); `upgrade` reverts exactly the modules it upgraded before an error
(`runUpgrade_error`).
-/

namespace UpdateManager.UpdateHandler

/-- `umserver.UpgradedState`, `UpgradingState`, `RevertedState`, `RevertingState`. -/
inductive State
  | upgraded
  | upgrading
  | reverted
  | reverting
  deriving DecidableEq, Repr

/-- The states of an operation in progress. -/
def State.InProgress (state : State) : Prop :=
  state = .upgrading ∨ state = .reverting

instance : DecidablePred State.InProgress := fun state =>
  inferInstanceAs (Decidable (state = .upgrading ∨ state = .reverting))

/-- `umserver.UpgradeFileInfo`. Its hashes and size go to `image.CheckFileInfo`, whose result
the environment chooses. -/
structure UpgradeFileInfo where
  target : String
  url : String
  deriving DecidableEq, Repr

/-- What survives a crash: the four `Storage` entries and the version file. -/
structure Disk where
  state : State
  filesInfo : List UpgradeFileInfo
  operationVersion : Nat
  lastError : Option String
  imageVersion : Nat
  deriving DecidableEq, Repr

/-- `Handler` in memory. -/
structure Handler where
  state : State
  filesInfo : List UpgradeFileInfo
  imageVersion : Nat
  operationVersion : Nat
  lastError : Option String
  deriving DecidableEq, Repr

/-- A write that reached the disk: a `Storage` setter, or `setImageVersion`. -/
inductive Write
  | state (state : State)
  | filesInfo (filesInfo : List UpgradeFileInfo)
  | operationVersion (version : Nat)
  | lastError (lastError : Option String)
  | imageVersion (version : Nat)
  deriving DecidableEq, Repr

def Disk.write (disk : Disk) : Write → Disk
  | .state state => { disk with state }
  | .filesInfo filesInfo => { disk with filesInfo }
  | .operationVersion version => { disk with operationVersion := version }
  | .lastError lastError => { disk with lastError }
  | .imageVersion version => { disk with imageVersion := version }

def Disk.writeAll (disk : Disk) (writes : List Write) : Disk :=
  writes.foldl Disk.write disk

@[simp] theorem Disk.writeAll_nil (disk : Disk) : disk.writeAll [] = disk := rfl

@[simp] theorem Disk.writeAll_cons (disk : Disk) (write : Write) (writes : List Write) :
    disk.writeAll (write :: writes) = (disk.write write).writeAll writes := rfl

@[simp] theorem Disk.writeAll_append (disk : Disk) (first second : List Write) :
    disk.writeAll (first ++ second) = (disk.writeAll first).writeAll second :=
  List.foldl_append _ _ _ _

/-- A module call. -/
inductive ModuleCall
  | upgrade (id url : String)
  | revert (id : String)
  deriving DecidableEq, Repr

/-- What the environment chooses in one call: the result of each write, numbered in the order
of the call's code, and of each file check and module call, numbered by file. -/
structure Env where
  write : Nat → Option String
  checkFile : Nat → Option String
  upgrade : Nat → Option String
  revert : Nat → Option String

def Env.Clean (env : Env) : Prop := ∀ site, env.write site = none

/-! ### The calls -/

/-- A call in progress: the handler in memory, the writes that reached the disk and the module
calls made. -/
structure Progress where
  handler : Handler
  writes : List Write
  calls : List ModuleCall

abbrev Outcome := Progress × Option String

namespace Progress

def set (progress : Progress) (handler : Handler) : Progress := { progress with handler }

def store (progress : Progress) (write : Write) (err : Option String)
    (next : Progress → Outcome) : Outcome :=
  match err with
  | some message => (progress, some message)
  | none => next { progress with writes := progress.writes ++ [write] }

@[simp] theorem store_none (progress : Progress) (write : Write) (next : Progress → Outcome) :
    progress.store write none next = next { progress with writes := progress.writes ++ [write] } :=
  rfl

@[simp] theorem store_some (progress : Progress) (write : Write) (message : String)
    (next : Progress → Outcome) : progress.store write (some message) next = (progress, some message) :=
  rfl

end Progress

section Calls

variable (modules : List String) (env : Env)

/-- The first loop of `upgrade`: from file `index` on, each file is checked, its module looked
up and upgraded, up to the first error. Returns the module calls, the final `index` (a failed
`Upgrade` counts its file) and the error. -/
def upgradeFiles (index : Nat) : List UpgradeFileInfo → List ModuleCall × Nat × Option String
  | [] => ([], index, none)
  | file :: rest =>
      match env.checkFile index with
      | some message => ([], index, some message)
      | none =>
          if file.target ∈ modules then
            match env.upgrade index with
            | some message => ([.upgrade file.target file.url], index + 1, some message)
            | none =>
                let (calls, last, err) := upgradeFiles (index + 1) rest
                (.upgrade file.target file.url :: calls, last, err)
          else ([], index, some ("missing component: " ++ file.target))

/-- The second loop of `upgrade`: the modules of the files before `index` are reverted, up to
the first error. -/
def rollback (index : Nat) : List UpgradeFileInfo → List ModuleCall × Option String
  | [] => ([], none)
  | file :: rest =>
      match env.revert index with
      | some message => ([.revert file.target], some message)
      | none =>
          let (calls, err) := rollback (index + 1) rest
          (.revert file.target :: calls, err)

/-- The loop of `revert`: each file's module is looked up and reverted, up to the first
error. -/
def revertFiles (index : Nat) : List UpgradeFileInfo → List ModuleCall × Option String
  | [] => ([], none)
  | file :: rest =>
      if file.target ∈ modules then
        match env.revert index with
        | some message => ([.revert file.target], some message)
        | none =>
            let (calls, err) := revertFiles (index + 1) rest
            (.revert file.target :: calls, err)
      else ([], some ("missing component: " ++ file.target))

/-- `upgrade`, the private method: its version file write is write 4 of `Upgrade`. -/
def runUpgrade (progress : Progress) : Outcome :=
  let (calls, index, err) := upgradeFiles modules env 0 progress.handler.filesInfo
  let progress := { progress with calls := progress.calls ++ calls }
  match err with
  | some message =>
      let (reverts, revertErr) := rollback env 0 (progress.handler.filesInfo.take index)
      ({ progress with calls := progress.calls ++ reverts }, some (revertErr.getD message))
  | none =>
      let progress := progress.set
        { progress.handler with imageVersion := progress.handler.operationVersion }
      progress.store (.imageVersion progress.handler.imageVersion) (env.write 4)
        fun progress => (progress, none)

/-- `revert`, the private method: its version file write is write 3 of `Revert`. -/
def runRevert (progress : Progress) : Outcome :=
  let (calls, err) := revertFiles modules env 0 progress.handler.filesInfo
  let progress := { progress with calls := progress.calls ++ calls }
  match err with
  | some message => (progress, some message)
  | none =>
      let progress := progress.set
        { progress.handler with imageVersion := progress.handler.operationVersion }
      progress.store (.imageVersion progress.handler.imageVersion) (env.write 3)
        fun progress => (progress, none)

def Progress.keepError (outcome : Outcome) : Progress :=
  match outcome.2 with
  | some message => outcome.1.set { outcome.1.handler with lastError := some message }
  | none => outcome.1

def upgrade (version : Nat) (filesInfo : List UpgradeFileInfo) (handler : Handler) : Outcome :=
  if handler.state ≠ .reverted ∧ handler.state ≠ .upgraded then
    (⟨handler, [], []⟩, some "wrong state")
  else if handler.state = .reverted ∧ handler.lastError.isSome then
    (⟨handler, [], []⟩, some "can't upgrade after failed revert")
  else
    Progress.store ⟨{ handler with state := .upgrading }, [], []⟩ (.state .upgrading)
      (env.write 0) fun progress =>
    let progress := progress.set { progress.handler with operationVersion := version }
    progress.store (.operationVersion version) (env.write 1) fun progress =>
    let progress := progress.set { progress.handler with filesInfo }
    progress.store (.filesInfo filesInfo) (env.write 2) fun progress =>
    let progress := progress.set { progress.handler with lastError := none }
    progress.store (.lastError none) (env.write 3) fun progress =>
    let progress := Progress.keepError (runUpgrade modules env progress)
    progress.store (.lastError progress.handler.lastError) (env.write 5) fun progress =>
    let progress := progress.set { progress.handler with state := .upgraded }
    progress.store (.state .upgraded) (env.write 6) fun progress =>
    (progress, progress.handler.lastError)

def revert (version : Nat) (handler : Handler) : Outcome :=
  if ¬(handler.state = .upgraded ∧ handler.lastError = none) then
    (⟨handler, [], []⟩, some "wrong state")
  else if handler.filesInfo = [] then
    (⟨handler, [], []⟩, some "wrong state")
  else
    Progress.store ⟨{ handler with state := .reverting }, [], []⟩ (.state .reverting)
      (env.write 0) fun progress =>
    let progress := progress.set { progress.handler with operationVersion := version }
    progress.store (.operationVersion version) (env.write 1) fun progress =>
    let progress := progress.set { progress.handler with lastError := none }
    progress.store (.lastError none) (env.write 2) fun progress =>
    let progress := Progress.keepError (runRevert modules env progress)
    let progress := progress.set { progress.handler with filesInfo := [] }
    progress.store (.filesInfo []) (env.write 4) fun progress =>
    progress.store (.lastError progress.handler.lastError) (env.write 5) fun progress =>
    let progress := progress.set { progress.handler with state := .reverted }
    progress.store (.state .reverted) (env.write 6) fun progress =>
    (progress, progress.handler.lastError)

end Calls

/-- `New`: the version file and the `Storage` entries are read back (`err` is a failed read or
a module that cannot be created); it fails with no module enabled. -/
def new (modules : List String) (disk : Disk) (err : Option String) : Except String Handler :=
  match err with
  | some message => .error message
  | none =>
      if modules = [] then .error "no valid modules info provided"
      else .ok ⟨disk.state, disk.filesInfo, disk.imageVersion, disk.operationVersion,
        disk.lastError⟩

/-! ### Environments -/

def upgradedDisk : Disk := ⟨.upgraded, [⟨"rootfs", "rootfs.img"⟩], 1, none, 1⟩

def quietEnv : Env := ⟨fun _ => none, fun _ => none, fun _ => none, fun _ => none⟩

def firstWriteFails : Env :=
  { quietEnv with write := fun site => if site = 0 then some "write failed" else none }

def nextImage : List UpgradeFileInfo := [⟨"rootfs", "rootfs2.img"⟩]

def versionWriteFails : Env :=
  { quietEnv with write := fun site => if site = 4 then some "write failed" else none }

/-! ### Calls with no failed write -/

section Clean

variable (modules : List String) (env : Env)

@[simp] theorem Progress.set_handler (progress : Progress) (handler : Handler) :
    (progress.set handler).handler = handler := rfl

@[simp] theorem Progress.set_writes (progress : Progress) (handler : Handler) :
    (progress.set handler).writes = progress.writes := rfl

@[simp] theorem Progress.set_calls (progress : Progress) (handler : Handler) :
    (progress.set handler).calls = progress.calls := rfl

@[simp] theorem Disk.write_state (disk : Disk) (state : State) :
    (disk.write (.state state)).state = state := rfl

theorem upgrade_refused_or_runs (version : Nat) (filesInfo : List UpgradeFileInfo)
    (handler : Handler) :
    (∃ message, upgrade modules env version filesInfo handler = (⟨handler, [], []⟩, some message)) ∨
      handler.state = .upgraded ∨ (handler.state = .reverted ∧ handler.lastError = none) := by
  cases state : handler.state with
  | upgraded => exact .inr (.inl rfl)
  | reverted =>
      cases error : handler.lastError with
      | none => exact .inr (.inr ⟨rfl, rfl⟩)
      | some _ => exact .inl ⟨"can't upgrade after failed revert", by simp [upgrade, state, error]⟩
  | upgrading | reverting => exact .inl ⟨"wrong state", by simp [upgrade, state]⟩

theorem revert_refused_or_runs (version : Nat) (handler : Handler) :
    (∃ message, revert modules env version handler = (⟨handler, [], []⟩, some message)) ∨
      (handler.state = .upgraded ∧ handler.lastError = none ∧ handler.filesInfo ≠ []) := by
  by_cases runs : handler.state = .upgraded ∧ handler.lastError = none ∧ handler.filesInfo ≠ []
  · exact .inr runs
  · refine .inl ⟨"wrong state", ?_⟩
    by_cases ready : handler.state = .upgraded ∧ handler.lastError = none
    · have empty : handler.filesInfo = [] := by simpa [ready] using runs
      simp [revert, ready, empty]
    · simp [revert, ready]

variable {env} (clean : env.Clean) (disk : Disk)
include clean

private theorem upgrade_clean (version : Nat) (filesInfo : List UpgradeFileInfo) {handler : Handler}
    (runs : handler.state = .upgraded ∨ (handler.state = .reverted ∧ handler.lastError = none)) :
    (upgrade modules env version filesInfo handler).1.handler.state = .upgraded ∧
      (disk.writeAll (upgrade modules env version filesInfo handler).1.writes).state =
        .upgraded := by
  have clean : ∀ site, env.write site = none := clean
  rcases runs with state | ⟨state, error⟩
  · simp [upgrade, state, clean, Disk.writeAll_append]
  · simp [upgrade, state, error, clean, Disk.writeAll_append]

private theorem revert_clean (version : Nat) {handler : Handler}
    (runs : handler.state = .upgraded ∧ handler.lastError = none ∧ handler.filesInfo ≠ []) :
    (revert modules env version handler).1.handler.state = .reverted ∧
      (disk.writeAll (revert modules env version handler).1.writes).state = .reverted := by
  have clean : ∀ site, env.write site = none := clean
  obtain ⟨state, error, files⟩ := runs
  simp [revert, state, error, files, clean, Disk.writeAll_append]

end Clean

/-! ### The rollback of `upgrade` -/

section Rollback

variable (modules : List String) (env : Env)

private theorem upgradeFiles_spec (index : Nat) (files : List UpgradeFileInfo) :
    ∃ count, (upgradeFiles modules env index files).2.1 = index + count ∧ count ≤ files.length ∧
      (upgradeFiles modules env index files).1 =
        (files.take count).map (fun file => .upgrade file.target file.url) ∧
      ((upgradeFiles modules env index files).2.2 = none → count = files.length) := by
  induction files generalizing index with
  | nil => exact ⟨0, rfl, le_rfl, rfl, fun _ => rfl⟩
  | cons file rest ih =>
      simp only [upgradeFiles]
      split
      · exact ⟨0, rfl, Nat.zero_le _, rfl, nofun⟩
      · split
        · split
          · exact ⟨1, rfl, by simp, rfl, nofun⟩
          · obtain ⟨count, last, bound, calls, complete⟩ := ih (index + 1)
            refine ⟨count + 1, by rw [last]; omega, by simpa using bound, by simp [calls], ?_⟩
            intro finished
            simp [complete finished]
        · exact ⟨0, rfl, Nat.zero_le _, rfl, nofun⟩

private theorem rollback_ok (reverts : ∀ site, env.revert site = none) (index : Nat)
    (files : List UpgradeFileInfo) :
    rollback env index files = (files.map fun file => .revert file.target, none) := by
  induction files generalizing index with
  | nil => rfl
  | cons file rest ih => simp [rollback, reverts, ih]

/-- An `upgrade` that returns an error while every `Revert` succeeds either reverted, once
each and in order, the modules whose `Upgrade` it called, and kept the image version; or it
upgraded every file, then failed to write the version file after it had set the new image
version, and reverted nothing. -/
theorem runUpgrade_error (progress : Progress) {message : String}
    (reverts : ∀ site, env.revert site = none)
    (failed : (runUpgrade modules env progress).2 = some message) :
    (∃ count, (runUpgrade modules env progress).1.calls = progress.calls ++
        (progress.handler.filesInfo.take count).map (fun file => .upgrade file.target file.url) ++
        (progress.handler.filesInfo.take count).map (fun file => .revert file.target) ∧
      (runUpgrade modules env progress).1.handler = progress.handler) ∨
    ((runUpgrade modules env progress).1.calls = progress.calls ++
        progress.handler.filesInfo.map (fun file => .upgrade file.target file.url) ∧
      (runUpgrade modules env progress).1.handler =
        { progress.handler with imageVersion := progress.handler.operationVersion } ∧
      env.write 4 = some message) := by
  obtain ⟨count, last, bound, calls, complete⟩ :=
    upgradeFiles_spec modules env 0 progress.handler.filesInfo
  unfold runUpgrade at failed ⊢
  cases loop : (upgradeFiles modules env 0 progress.handler.filesInfo).2.2 with
  | some loopMessage =>
      refine .inl ⟨count, ?_, ?_⟩ <;>
        simp [loop, last, calls, rollback_ok env reverts, List.take_take]
  | none =>
      have all : count = progress.handler.filesInfo.length := complete loop
      rw [all, List.take_length] at calls
      cases write : env.write 4 with
      | none => simp [loop, write] at failed
      | some writeMessage =>
          simp only [loop, write, Progress.store_some] at failed ⊢
          cases failed
          exact .inr ⟨by simp [calls], rfl, rfl⟩

def versionWriteProgress : Progress := ⟨⟨.upgrading, nextImage, 1, 2, none⟩, [], []⟩

theorem version_write_not_rolled_back :
    (∃ count, (runUpgrade ["rootfs"] versionWriteFails versionWriteProgress).1.calls =
        versionWriteProgress.calls ++
          (nextImage.take count).map (fun file => .upgrade file.target file.url) ++
          (nextImage.take count).map (fun file => .revert file.target) ∧
      (runUpgrade ["rootfs"] versionWriteFails versionWriteProgress).1.handler =
        versionWriteProgress.handler) ∨
    ((runUpgrade ["rootfs"] versionWriteFails versionWriteProgress).1.calls =
        versionWriteProgress.calls ++ nextImage.map (fun file => .upgrade file.target file.url) ∧
      (runUpgrade ["rootfs"] versionWriteFails versionWriteProgress).1.handler =
        { versionWriteProgress.handler with imageVersion := 2 } ∧
      versionWriteFails.write 4 = some "write failed") :=
  runUpgrade_error ["rootfs"] versionWriteFails versionWriteProgress (fun _ => rfl) rfl

end Rollback

/-! ### Runs -/

/-- The disk, and the handler while the process runs. -/
structure Config where
  disk : Disk
  handler : Option Handler

/-- A request, carried out to its return (`cut = none`) or cut by a crash after `kept` of its
writes reached the disk; or a restart, a crash between calls included, with `New`'s result. -/
inductive Choice
  | upgrade (version : Nat) (filesInfo : List UpgradeFileInfo) (env : Env) (cut : Option Nat)
  | revert (version : Nat) (env : Env) (cut : Option Nat)
  | restart (err : Option String)

/-- What a step shows: the return of a call, a crash inside a call, or the return of `New`. -/
inductive Label
  | upgrade (version : Nat) (result : Option String)
  | revert (version : Nat) (result : Option String)
  | crash
  | new (result : Option String)
  deriving DecidableEq, Repr

/-- The end of a call: its writes reach the disk, or a prefix of them does and the handler is
lost. -/
def finishCall (disk : Disk) (outcome : Outcome) (cut : Option Nat) (label : Label) :
    Label × Config :=
  match cut with
  | none => (label, ⟨disk.writeAll outcome.1.writes, some outcome.1.handler⟩)
  | some kept => (.crash, ⟨disk.writeAll (outcome.1.writes.take kept), none⟩)

def step (modules : List String) (cfg : Config) : Choice → Option (Label × Config)
  | .upgrade version filesInfo env cut => cfg.handler.map fun handler =>
      let outcome := upgrade modules env version filesInfo handler
      finishCall cfg.disk outcome cut (.upgrade version outcome.2)
  | .revert version env cut => cfg.handler.map fun handler =>
      let outcome := revert modules env version handler
      finishCall cfg.disk outcome cut (.revert version outcome.2)
  | .restart err =>
      match new modules cfg.disk err with
      | .ok handler => some (.new none, ⟨cfg.disk, some handler⟩)
      | .error message => some (.new (some message), ⟨cfg.disk, none⟩)

def run (modules : List String) (cfg : Config) : List Choice → Option (Config × List Label)
  | [] => some (cfg, [])
  | choice :: rest => do
      let (label, next) ← step modules cfg choice
      let (last, labels) ← run modules next rest
      pure (last, label :: labels)

def Choice.Clean : Choice → Prop
  | .upgrade _ _ env cut => env.Clean ∧ cut = none
  | .revert _ env cut => env.Clean ∧ cut = none
  | .restart _ => True

/-- No operation is in progress on the disk, and the handler, if the process runs, agrees
with it. -/
def Settled (cfg : Config) : Prop :=
  ¬cfg.disk.state.InProgress ∧ ∀ handler, cfg.handler = some handler → handler.state = cfg.disk.state

theorem new_state {modules : List String} {disk : Disk} {err : Option String} {handler : Handler}
    (built : new modules disk err = .ok handler) : handler.state = disk.state := by
  unfold new at built
  split at built
  · cases built
  · split at built
    · cases built
    · cases built
      rfl

section Settled

variable {modules : List String} {disk : Disk} {handler : Handler}

private theorem settled_of_outcome {outcome : Outcome} {settled : State} (done : ¬settled.InProgress)
    (memory : outcome.1.handler.state = settled)
    (written : (disk.writeAll outcome.1.writes).state = settled) :
    Settled ⟨disk.writeAll outcome.1.writes, some outcome.1.handler⟩ :=
  ⟨written ▸ done, fun _ same => by
    cases same
    exact memory.trans written.symm⟩

private theorem settled_of_refusal {outcome : Outcome} (settled : Settled ⟨disk, some handler⟩)
    (refused : ∃ message, outcome = (⟨handler, [], []⟩, some message)) :
    Settled ⟨disk.writeAll outcome.1.writes, some outcome.1.handler⟩ := by
  obtain ⟨message, rfl⟩ := refused
  exact settled

variable {cfg next : Config} {choice : Choice} {label : Label}

theorem step_settled (clean : choice.Clean) (settled : Settled cfg)
    (stepped : step modules cfg choice = some (label, next)) : Settled next := by
  obtain ⟨disk, running⟩ := cfg
  cases choice with
  | upgrade version filesInfo env cut =>
      obtain ⟨clean, rfl⟩ := clean
      obtain ⟨handler, rfl, finished⟩ := Option.map_eq_some'.mp stepped
      simp only [finishCall] at finished
      cases finished
      rcases upgrade_refused_or_runs modules env version filesInfo handler with refused | runs
      · exact settled_of_refusal settled refused
      · obtain ⟨memory, written⟩ := upgrade_clean modules clean disk version filesInfo runs
        exact settled_of_outcome (by decide) memory written
  | revert version env cut =>
      obtain ⟨clean, rfl⟩ := clean
      obtain ⟨handler, rfl, finished⟩ := Option.map_eq_some'.mp stepped
      simp only [finishCall] at finished
      cases finished
      rcases revert_refused_or_runs modules env version handler with refused | runs
      · exact settled_of_refusal settled refused
      · obtain ⟨memory, written⟩ := revert_clean modules clean disk version runs
        exact settled_of_outcome (by decide) memory written
  | restart err =>
      simp only [step] at stepped
      split at stepped <;> cases stepped
      · exact ⟨settled.1, fun _ same => by cases same; exact new_state ‹_›⟩
      · exact ⟨settled.1, nofun⟩

/-- Every run with no failed write and no crash inside a call, from a settled disk, is settled
when it stops: at the return of every call and of every `New`. -/
theorem run_settled {choices : List Choice} {trace : List Label}
    (clean : ∀ choice ∈ choices, choice.Clean) (settled : Settled cfg)
    (ran : run modules cfg choices = some (next, trace)) : Settled next := by
  induction choices generalizing cfg trace with
  | nil =>
      cases ran
      exact settled
  | cons choice rest ih =>
      simp only [run, Option.bind_eq_bind, Option.bind_eq_some] at ran
      obtain ⟨⟨label, middle⟩, stepped, ⟨last, labels⟩, rest_ran, same⟩ := ran
      cases same
      exact ih (fun other member => clean other (List.mem_cons_of_mem _ member))
        (step_settled (clean choice (List.mem_cons_self _ _)) settled stepped) rest_ran

def upgradeThenRevert : List Choice :=
  [.restart none, .upgrade 2 nextImage quietEnv none, .revert 1 quietEnv none, .restart none]

theorem upgrade_then_revert_settled :
    Settled ((run ["rootfs"] ⟨upgradedDisk, none⟩ upgradeThenRevert).getD
      (⟨upgradedDisk, none⟩, [])).1 := by
  have ran : run ["rootfs"] ⟨upgradedDisk, none⟩ upgradeThenRevert =
      some ((run ["rootfs"] ⟨upgradedDisk, none⟩ upgradeThenRevert).getD
        (⟨upgradedDisk, none⟩, [])) :=
    rfl
  exact run_settled (by simp [upgradeThenRevert, Choice.Clean, Env.Clean, quietEnv])
    ⟨by simp [upgradedDisk, State.InProgress], fun _ found => by cases found⟩ ran

end Settled

/-! ### Left in progress -/

/-- After `New`, an `Upgrade` whose `SetState(UpgradingState)` fails returns in
`UpgradingState`, and the next `Upgrade` and `Revert` are refused. An `Upgrade` cut by a crash
right after that write leaves `UpgradingState` on the disk, and the handler `New` rebuilds
refuses them too. -/
theorem upgrade_left_upgrading :
    (run ["rootfs"] ⟨upgradedDisk, none⟩ [.restart none, .upgrade 2 nextImage firstWriteFails none,
        .upgrade 2 nextImage quietEnv none, .revert 0 quietEnv none]).map
        (fun ran => (ran.1.handler.map Handler.state, ran.2)) =
      some (some .upgrading, [.new none, .upgrade 2 (some "write failed"),
        .upgrade 2 (some "wrong state"), .revert 0 (some "wrong state")]) ∧
    (run ["rootfs"] ⟨upgradedDisk, none⟩ [.restart none, .upgrade 2 nextImage quietEnv (some 1),
        .restart none, .upgrade 2 nextImage quietEnv none, .revert 0 quietEnv none]).map
        (fun ran => (ran.1.handler.map Handler.state, ran.2)) =
      some (some .upgrading, [.new none, .crash, .new none, .upgrade 2 (some "wrong state"),
        .revert 0 (some "wrong state")]) := by
  decide

/-! ### Upgraded without rollback -/

/-- After the upgrade to version 1, `Upgrade(2)` upgrades `rootfs`, fails to write the
version file and returns its error with no `Revert`, holding image version 2 in memory. -/
theorem upgrade_fails_without_rollback :
    (upgrade ["rootfs"] versionWriteFails 2 nextImage ⟨.upgraded, upgradedDisk.filesInfo, 1, 1, none⟩ |>
      fun outcome => (outcome.2, outcome.1.calls, outcome.1.handler.imageVersion)) =
      (some "write failed", [.upgrade "rootfs" "rootfs2.img"], 2) := by
  decide

end UpdateManager.UpdateHandler
