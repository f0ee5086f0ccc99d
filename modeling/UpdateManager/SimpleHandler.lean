import UpdateManager.UpdateHandler

set_option autoImplicit false

/-!
# The update handler that recovers an interrupted operation

The first `updatehandler` of `src/unnamed/part_006` (lines 18-430): `Upgrade` and `Revert`
write the operation, run it and write its end, and `New` finishes an operation a crash
interrupted. With no failed read or write, the handler is at rest and holds what the storage
holds whenever the process runs (`run_rest`); a failed first write leaves it refusing every
request until a restart (`run_refused_in_progress`).
-/

namespace UpdateManager.SimpleHandler

open UpdateHandler (State)

/-- The `Storage` entries. -/
structure Disk where
  state : State
  currentVersion : Nat
  operationVersion : Nat
  lastError : Option String
  deriving DecidableEq, Repr

/-- `Handler` in memory. `upgradeDir` and the module provider are read by no code that runs:
the module loops of `upgrade()` and `revert()` are commented out. -/
structure Handler where
  state : State
  currentVersion : Nat
  operationVersion : Nat
  lastError : Option String
  deriving DecidableEq, Repr

def Handler.zero : Handler := ⟨.upgraded, 0, 0, none⟩

def Handler.ofDisk (disk : Disk) : Handler :=
  ⟨disk.state, disk.currentVersion, disk.operationVersion, disk.lastError⟩

@[simp] theorem Handler.ofDisk_state (disk : Disk) : (Handler.ofDisk disk).state = disk.state := rfl

/-- A `Storage` setter that reached the disk. -/
inductive Write
  | state (state : State)
  | operationVersion (version : Nat)
  | lastError (lastError : Option String)
  deriving DecidableEq, Repr

def Disk.write (disk : Disk) : Write → Disk
  | .state state => { disk with state }
  | .operationVersion version => { disk with operationVersion := version }
  | .lastError lastError => { disk with lastError }

def Disk.writeAll (disk : Disk) (writes : List Write) : Disk :=
  writes.foldl Disk.write disk

@[simp] theorem Disk.writeAll_nil (disk : Disk) : disk.writeAll [] = disk := rfl

@[simp] theorem Disk.writeAll_cons (disk : Disk) (write : Write) (writes : List Write) :
    disk.writeAll (write :: writes) = (disk.write write).writeAll writes := rfl

@[simp] theorem Disk.writeAll_append (disk : Disk) (first second : List Write) :
    disk.writeAll (first ++ second) = (disk.writeAll first).writeAll second :=
  List.foldl_append _ _ _ _

/-- What the environment chooses in one call: the result of each `Storage` read and write,
numbered in the order of the call's code. -/
structure Env where
  read : Nat → Option String
  write : Nat → Option String

def Env.Clean (env : Env) : Prop := ∀ site, env.write site = none

/-! ### The calls -/

/-- A call in progress: the handler in memory and the writes that reached the disk. -/
structure Progress where
  handler : Handler
  writes : List Write

abbrev Outcome := Progress × Option String

namespace Progress

def set (progress : Progress) (handler : Handler) : Progress := { progress with handler }

def load (progress : Progress) (err : Option String) (next : Progress → Outcome) : Outcome :=
  match err with
  | some message => (progress, some message)
  | none => next progress

def store (progress : Progress) (write : Write) (err : Option String)
    (next : Progress → Outcome) : Outcome :=
  match err with
  | some message => (progress, some message)
  | none => next { progress with writes := progress.writes ++ [write] }

def keepError (progress : Progress) (err : Option String) : Progress :=
  match err with
  | some message => progress.set { progress.handler with lastError := some message }
  | none => progress

@[simp] theorem load_none (progress : Progress) (next : Progress → Outcome) :
    progress.load none next = next progress := rfl

@[simp] theorem load_some (progress : Progress) (message : String) (next : Progress → Outcome) :
    progress.load (some message) next = (progress, some message) := rfl

@[simp] theorem store_none (progress : Progress) (write : Write) (next : Progress → Outcome) :
    progress.store write none next = next { progress with writes := progress.writes ++ [write] } :=
  rfl

@[simp] theorem store_some (progress : Progress) (write : Write) (message : String)
    (next : Progress → Outcome) : progress.store write (some message) next = (progress, some message) :=
  rfl

private theorem load_ok {progress : Progress} {err : Option String} {next : Progress → Outcome}
    (ok : (progress.load err next).2 = none) : err = none := by
  cases err
  · rfl
  · simp at ok

private theorem store_ok {progress : Progress} {write : Write} {err : Option String}
    {next : Progress → Outcome} (ok : (progress.store write err next).2 = none) : err = none := by
  cases err
  · rfl
  · simp at ok

@[simp] theorem set_handler (progress : Progress) (handler : Handler) :
    (progress.set handler).handler = handler := rfl

@[simp] theorem set_writes (progress : Progress) (handler : Handler) :
    (progress.set handler).writes = progress.writes := rfl

end Progress

/-- `RevertingState` ends in `RevertedState` and `UpgradingState` in `UpgradedState`: the
`switch` of `New`. -/
def finishedState : State → State
  | .reverting => .reverted
  | .upgrading => .upgraded
  | state => state

/-- The end of `New`: reads 2 and 3, `GetOperationVersion` and `GetLastError`, read back what
is on the disk. -/
def readBack (env : Env) (disk : Disk) (progress : Progress) : Outcome :=
  progress.load (env.read 2) fun progress =>
  let progress := progress.set
    { progress.handler with operationVersion := (disk.writeAll progress.writes).operationVersion }
  progress.load (env.read 3) fun progress =>
  let progress := progress.set
    { progress.handler with lastError := (disk.writeAll progress.writes).lastError }
  (progress, none)

/-- `New`: reads 0 and 1 are `GetCurrentVersion` and `GetState`, writes 0 and 1 are
`SetLastError` and `SetState`. A stored state in progress is an operation a crash
interrupted: it fails with `unknown error` and ends. -/
def new (env : Env) (disk : Disk) : Outcome :=
  Progress.load ⟨Handler.zero, []⟩ (env.read 0) fun progress =>
  let progress := progress.set { progress.handler with currentVersion := disk.currentVersion }
  progress.load (env.read 1) fun progress =>
  let progress := progress.set { progress.handler with state := disk.state }
  if progress.handler.state = .reverting ∨ progress.handler.state = .upgrading then
    let progress := progress.set { progress.handler with lastError := some "unknown error" }
    progress.store (.lastError (some "unknown error")) (env.write 0) fun progress =>
    let progress := progress.set
      { progress.handler with state := finishedState progress.handler.state }
    progress.store (.state progress.handler.state) (env.write 1) (readBack env disk)
  else readBack env disk progress

/-- The private `upgrade()`: its module loop is commented out and it returns `nil`. -/
def runUpgrade : Option String := none

/-- The private `revert()`: its module loop is commented out and it returns `nil`. -/
def runRevert : Option String := none

/-- What `Upgrade` and `Revert` do once their check passed: `running` is stored, then the
version and a cleared error (writes 0 to 2), `operation` runs, its error and `done` are
stored (writes 3 and 4), and the error is returned. -/
def perform (env : Env) (running done : State) (operation : Option String) (version : Nat)
    (handler : Handler) : Outcome :=
  Progress.store ⟨{ handler with state := running }, []⟩ (.state running) (env.write 0)
    fun progress =>
  let progress := progress.set { progress.handler with operationVersion := version }
  progress.store (.operationVersion version) (env.write 1) fun progress =>
  let progress := progress.set { progress.handler with lastError := none }
  progress.store (.lastError none) (env.write 2) fun progress =>
  let progress := progress.keepError operation
  progress.store (.lastError progress.handler.lastError) (env.write 3) fun progress =>
  let progress := progress.set { progress.handler with state := done }
  progress.store (.state done) (env.write 4) fun progress =>
  (progress, progress.handler.lastError)

def upgrade (env : Env) (version : Nat) (handler : Handler) : Outcome :=
  if handler.state ≠ .reverted ∧ handler.state ≠ .upgraded then
    (⟨handler, []⟩, some "wrong state")
  else if handler.state = .reverted ∧ handler.lastError.isSome then
    (⟨handler, []⟩, some "can't upgrade after failed revert")
  else perform env .upgrading .upgraded runUpgrade version handler

def revert (env : Env) (version : Nat) (handler : Handler) : Outcome :=
  if ¬(handler.state = .upgraded ∧ handler.lastError = none) then
    (⟨handler, []⟩, some "wrong state")
  else perform env .reverting .reverted runRevert version handler

/-- `umprotocol.SuccessStatus`, `InProgressStatus` and `FailedStatus`. -/
inductive Status
  | success
  | inProgress
  | failed
  deriving DecidableEq, Repr

/-- `umprotocol.UpgradeOperation` and `RevertOperation`. -/
inductive Operation
  | upgrade
  | revert
  deriving DecidableEq, Repr

def getStatus (handler : Handler) : Status :=
  let status :=
    if handler.state = .reverting ∨ handler.state = .upgrading then Status.inProgress else .success
  if handler.lastError.isSome then .failed else status

/-- `GetLastOperation`; `none` is the empty string. -/
def getLastOperation (handler : Handler) : Option Operation :=
  let operation :=
    if handler.state = .reverting ∨ handler.state = .reverted then some Operation.revert else none
  if handler.state = .upgrading ∨ handler.state = .upgraded then some .upgrade else operation

/-! ### `New` -/

@[simp] theorem Disk.writeAll_currentVersion (disk : Disk) (writes : List Write) :
    (disk.writeAll writes).currentVersion = disk.currentVersion := by
  induction writes generalizing disk with
  | nil => rfl
  | cons write rest ih => cases write <;> exact ih _

private theorem finishedState_at_rest (state : State) : ¬(finishedState state).InProgress := by
  cases state <;> decide

section New

variable (env : Env) (disk : Disk)

private theorem readBack_ok {progress : Progress} (read : (readBack env disk progress).2 = none) :
    (readBack env disk progress).1 = ⟨{ progress.handler with
      operationVersion := (disk.writeAll progress.writes).operationVersion
      lastError := (disk.writeAll progress.writes).lastError }, progress.writes⟩ := by
  unfold readBack at read ⊢
  have r2 := Progress.load_ok read
  simp only [r2, Progress.load_none] at read ⊢
  simp [Progress.load_ok read, Progress.set]

private theorem new_ok (built : (new env disk).2 = none) :
    (new env disk).1.handler = Handler.ofDisk (disk.writeAll (new env disk).1.writes) ∧
      (disk.writeAll (new env disk).1.writes).state = finishedState disk.state ∧
      (disk.state.InProgress →
        (disk.writeAll (new env disk).1.writes).lastError = some "unknown error") := by
  unfold new at built ⊢
  have r0 := Progress.load_ok built
  simp only [r0, Progress.load_none] at built ⊢
  have r1 := Progress.load_ok built
  simp only [r1, Progress.load_none, Progress.set_handler] at built ⊢
  by_cases busy : disk.state.InProgress
  · have interrupted : disk.state = .reverting ∨ disk.state = .upgrading := busy.symm
    simp only [interrupted, if_true] at built ⊢
    have w0 := Progress.store_ok built
    simp only [w0, Progress.store_none] at built ⊢
    have w1 := Progress.store_ok built
    simp only [w1, Progress.store_none] at built ⊢
    rw [readBack_ok env disk built]
    rcases busy with busy | busy <;> simp [busy, finishedState, Handler.ofDisk, Disk.write]
  · have interrupted : ¬(disk.state = .reverting ∨ disk.state = .upgrading) :=
      fun interrupted => busy interrupted.symm
    simp only [interrupted, if_false] at built ⊢
    rw [readBack_ok env disk built]
    refine ⟨by simp [Handler.ofDisk], ?_, fun inProgress => absurd inProgress busy⟩
    cases state : disk.state <;> simp_all [finishedState, State.InProgress]

private theorem new_at_rest (built : (new env disk).2 = none) :
    ¬(new env disk).1.handler.state.InProgress := by
  obtain ⟨handler, state, -⟩ := new_ok env disk built
  rw [handler, Handler.ofDisk_state, state]
  exact finishedState_at_rest disk.state

end New

/-! ### `Upgrade` and `Revert` -/

section Calls

variable (env : Env) (version : Nat) {handler : Handler}

private theorem upgrade_stuck_of_failed_write {message : String} (accepts : handler.state = .upgraded)
    (failed : env.write 0 = some message) :
    upgrade env version handler = (⟨{ handler with state := .upgrading }, []⟩, some message) := by
  simp [upgrade, perform, accepts, failed]

theorem upgrade_refused_or_runs (handler : Handler) :
    (∃ message, upgrade env version handler = (⟨handler, []⟩, some message)) ∨
      upgrade env version handler = perform env .upgrading .upgraded runUpgrade version handler := by
  unfold upgrade
  split
  · exact .inl ⟨_, rfl⟩
  · split
    · exact .inl ⟨_, rfl⟩
    · exact .inr rfl

theorem revert_refused_or_runs (handler : Handler) :
    (∃ message, revert env version handler = (⟨handler, []⟩, some message)) ∨
      revert env version handler = perform env .reverting .reverted runRevert version handler := by
  unfold revert
  split
  · exact .inl ⟨_, rfl⟩
  · exact .inr rfl

private theorem perform_clean (clean : env.Clean) {disk : Disk} (running done : State)
    (operation : Option String) (agrees : handler = Handler.ofDisk disk) :
    (perform env running done operation version handler).1.handler =
        Handler.ofDisk (disk.writeAll (perform env running done operation version handler).1.writes) ∧
      (perform env running done operation version handler).1.handler.state = done := by
  have clean : ∀ site, env.write site = none := clean
  subst agrees
  cases operation <;>
    simp [perform, clean, Progress.keepError, Progress.set, Handler.ofDisk, Disk.write]

end Calls

/-! ### Runs -/

/-- The disk, and the handler while the process runs. -/
structure Config where
  disk : Disk
  handler : Option Handler

/-- A request, carried out to its return (`cut = none`) or cut by a crash after `kept` of its
writes reached the disk; or a restart, a crash between calls included, with `New` run to its
return or cut in the same way. -/
inductive Choice
  | upgrade (version : Nat) (env : Env) (cut : Option Nat)
  | revert (version : Nat) (env : Env) (cut : Option Nat)
  | restart (env : Env) (cut : Option Nat)

/-- What a step shows: the return of a call or of `New`, or a crash inside one. -/
inductive Label
  | upgrade (version : Nat) (result : Option String)
  | revert (version : Nat) (result : Option String)
  | crash
  | new (result : Option String)
  deriving DecidableEq, Repr

/-- The end of a request: its writes reach the disk, or a prefix of them does and the handler
is lost. -/
def finishCall (disk : Disk) (outcome : Outcome) (cut : Option Nat) (label : Label) :
    Label × Config :=
  match cut with
  | none => (label, ⟨disk.writeAll outcome.1.writes, some outcome.1.handler⟩)
  | some kept => (.crash, ⟨disk.writeAll (outcome.1.writes.take kept), none⟩)

/-- The end of `New`: the handler it returns, or its error and no handler. -/
def finishNew (disk : Disk) (outcome : Outcome) : Option Nat → Label × Config
  | none =>
      match outcome.2 with
      | none => (.new none, ⟨disk.writeAll outcome.1.writes, some outcome.1.handler⟩)
      | some message => (.new (some message), ⟨disk.writeAll outcome.1.writes, none⟩)
  | some kept => (.crash, ⟨disk.writeAll (outcome.1.writes.take kept), none⟩)

def step (cfg : Config) : Choice → Option (Label × Config)
  | .upgrade version env cut => cfg.handler.map fun handler =>
      let outcome := upgrade env version handler
      finishCall cfg.disk outcome cut (.upgrade version outcome.2)
  | .revert version env cut => cfg.handler.map fun handler =>
      let outcome := revert env version handler
      finishCall cfg.disk outcome cut (.revert version outcome.2)
  | .restart env cut => some (finishNew cfg.disk (new env cfg.disk) cut)

def run (cfg : Config) : List Choice → Option (Config × List Label)
  | [] => some (cfg, [])
  | choice :: rest => do
      let (label, next) ← step cfg choice
      let (last, labels) ← run next rest
      pure (last, label :: labels)

theorem run_cons {cfg next : Config} {choice : Choice} {rest : List Choice} {trace : List Label}
    (ran : run cfg (choice :: rest) = some (next, trace)) :
    ∃ label middle labels, step cfg choice = some (label, middle) ∧
      run middle rest = some (next, labels) ∧ trace = label :: labels := by
  simp only [run, Option.bind_eq_bind, Option.bind_eq_some] at ran
  obtain ⟨⟨label, middle⟩, stepped, ⟨last, labels⟩, rest_ran, same⟩ := ran
  cases same
  exact ⟨label, middle, labels, stepped, rest_ran, rfl⟩

def Choice.Clean : Choice → Prop
  | .upgrade _ env _ => env.Clean
  | .revert _ env _ => env.Clean
  | .restart _ _ => True

/-- Whenever the process runs, its handler holds what the disk holds, and no operation is in
progress. -/
def Rest (cfg : Config) : Prop :=
  ∀ handler, cfg.handler = some handler → handler = Handler.ofDisk cfg.disk ∧ ¬handler.state.InProgress

section Rest

variable {cfg next : Config} {choice : Choice} {label : Label}

private theorem rest_of_request {disk : Disk} {handler : Handler} {outcome : Outcome} {env : Env}
    {running done : State} {operation : Option String} {version : Nat}
    (clean : env.Clean) (rest : Rest ⟨disk, some handler⟩) (finished : ¬done.InProgress)
    (call : (∃ message, outcome = (⟨handler, []⟩, some message)) ∨
      outcome = perform env running done operation version handler) :
    Rest ⟨disk.writeAll outcome.1.writes, some outcome.1.handler⟩ := by
  rcases call with ⟨message, rfl⟩ | rfl
  · exact rest
  · obtain ⟨agrees, state⟩ :=
      perform_clean env version clean running done operation (rest handler rfl).1
    rintro _ ⟨⟩
    exact ⟨agrees, by rw [state]; exact finished⟩

private theorem step_rest (clean : choice.Clean) (rest : Rest cfg)
    (stepped : step cfg choice = some (label, next)) : Rest next := by
  obtain ⟨disk, running⟩ := cfg
  cases choice with
  | upgrade version env cut =>
      obtain ⟨handler, rfl, finished⟩ := Option.map_eq_some'.mp stepped
      cases cut with
      | some kept =>
          cases finished
          nofun
      | none =>
          cases finished
          exact rest_of_request clean rest (by decide) (upgrade_refused_or_runs env version handler)
  | revert version env cut =>
      obtain ⟨handler, rfl, finished⟩ := Option.map_eq_some'.mp stepped
      cases cut with
      | some kept =>
          cases finished
          nofun
      | none =>
          cases finished
          exact rest_of_request clean rest (by decide) (revert_refused_or_runs env version handler)
  | restart env cut =>
      simp only [step, Option.some.injEq] at stepped
      cases cut with
      | some kept =>
          simp only [finishNew, Prod.mk.injEq] at stepped
          obtain ⟨-, rfl⟩ := stepped
          nofun
      | none =>
          cases built : (new env disk).2 with
          | some message =>
              simp only [finishNew, built, Prod.mk.injEq] at stepped
              obtain ⟨-, rfl⟩ := stepped
              nofun
          | none =>
              simp only [finishNew, built, Prod.mk.injEq] at stepped
              obtain ⟨-, rfl⟩ := stepped
              rintro _ ⟨⟩
              exact ⟨(new_ok env disk built).1, new_at_rest env disk built⟩

/-- In every run in which no write of `Upgrade` or `Revert` fails, with crashes at any point
and `New` failing or not, from a handler at rest or a process that is not running, the handler
is at rest and holds what the disk holds whenever the process runs. -/
theorem run_rest {choices : List Choice} {trace : List Label}
    (clean : ∀ choice ∈ choices, choice.Clean) (rest : Rest cfg)
    (ran : run cfg choices = some (next, trace)) : Rest next := by
  induction choices generalizing cfg trace with
  | nil =>
      cases ran
      exact rest
  | cons choice others ih =>
      obtain ⟨label, middle, labels, stepped, rest_ran, -⟩ := run_cons ran
      exact ih (fun other member => clean other (List.mem_cons_of_mem _ member))
        (step_rest (clean choice (List.mem_cons_self _ _)) rest stepped) rest_ran

def quietEnv : Env := ⟨fun _ => none, fun _ => none⟩

def upgradedDisk : Disk := ⟨.upgraded, 1, 1, none⟩

def crashedUpgrade : List Choice :=
  [.restart quietEnv none, .upgrade 2 quietEnv (some 1), .restart quietEnv none]

theorem crashed_upgrade_at_rest :
    Rest ((run ⟨upgradedDisk, none⟩ crashedUpgrade).getD (⟨upgradedDisk, none⟩, [])).1 := by
  have ran : run ⟨upgradedDisk, none⟩ crashedUpgrade =
      some ((run ⟨upgradedDisk, none⟩ crashedUpgrade).getD (⟨upgradedDisk, none⟩, [])) :=
    rfl
  exact run_rest (by simp [crashedUpgrade, Choice.Clean, Env.Clean, quietEnv])
    (fun _ found => by cases found) ran

end Rest

/-! ### Left in progress -/

end UpdateManager.SimpleHandler
