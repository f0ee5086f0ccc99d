import UpdateManager.Fsm.Machine

set_option autoImplicit false

/-!
# The overlay update module

`overlaymodule.go` keeps its `moduleState` in memory and in the module storage. An operation
that asked for a reboot has moved to a state (`call_holds_target`) that `GetVendorVersion`,
`Reboot` and a reboot with `New` and `Init` keep, and there it does not ask again
(`call_at_target`). The file system and the storage return what the environment chooses
(`Env`); `overlayModule` is the module as a `ModuleModel` of the FSM handler.
-/

namespace UpdateManager.Overlay

/-- `updateState`: `idleState`, `preparedState`, `updatedState`. -/
inductive UpdateState
  | idle
  | prepared
  | updated
  deriving DecidableEq, Repr

def UpdateState.name : UpdateState → String
  | .idle => "idle"
  | .prepared => "prepared"
  | .updated => "updated"

/-- `moduleState`, the JSON the module keeps in its storage entry. -/
structure ModuleState where
  updateState : UpdateState
  rebootRequest : Bool
  updateType : String
  deriving DecidableEq, Repr

/-- The zero `moduleState` `getState` starts from when the storage has no entry. -/
def ModuleState.zero : ModuleState :=
  { updateState := .idle, rebootRequest := false, updateType := "" }

/-- The `updated` and `failed` flag files of the update dir, which the boot loader writes. -/
structure Flags where
  updated : Bool
  failed : Bool
  deriving DecidableEq, Repr

/-- `OverlayModule` in memory, with what survives a reboot: its storage entry and the flag
files. -/
structure OverlayModule where
  state : ModuleState
  bootWithUpdate : Bool
  bootFailed : Bool
  vendorVersion : String
  stored : Option ModuleState
  flags : Flags
  deriving DecidableEq, Repr

/-- What the environment decides: the results of the file system calls, of the module storage
write and of the rebooter, the content of the version file, and the flag files after a
reboot. -/
structure Env where
  versionFile : Except String String
  saveErr : Option String
  clearErr : Option String
  renameErr : Option String
  writeErr : Option String
  removeErr : Option String
  rebootErr : Option String
  boot : Flags

namespace OverlayModule

variable (module : OverlayModule) (env : Env)

/-- `saveState`: the module state goes to the storage entry unless the write fails. -/
def saveState (err : Option String) : OverlayModule × Option String :=
  match err with
  | some message => (module, some message)
  | none => ({ module with stored := some module.state }, none)

/-- `clearUpdateDir`: the update dir is emptied, flag files included, unless it fails. -/
def clearUpdateDir (err : Option String) : OverlayModule × Option String :=
  match err with
  | some message => (module, some message)
  | none => ({ module with flags := ⟨false, false⟩ }, none)

/-- `New` after a reboot: the module is built again from its storage entry, or from the zero
state when there is none (`getState`); the boot loader has left `flags`. -/
def new (flags : Flags) : OverlayModule :=
  { state := module.stored.getD .zero, bootWithUpdate := false, bootFailed := false,
    vendorVersion := "", stored := module.stored, flags := flags }

/-- The end of `Init` once the state is not `idleState`: the flag files set `bootWithUpdate`
and `bootFailed`, and the `failed` flag is removed. -/
def readFlags : OverlayModule × Option String :=
  let module := if module.flags.updated then { module with bootWithUpdate := true } else module
  if module.flags.failed then
    let module := { module with bootFailed := true }
    match env.removeErr with
    | some message => (module, some message)
    | none => ({ module with flags := { module.flags with failed := false } }, none)
  else (module, none)

/-- The part of `Init` that clears a reboot request and saves the state. -/
def clearRebootRequest (err : Option String) : OverlayModule × Option String :=
  if module.state.rebootRequest then
    saveState { module with state := { module.state with rebootRequest := false } } err
  else (module, none)

def init : OverlayModule × Option String :=
  match env.versionFile with
  | .error message => ({ module with vendorVersion := "" }, some message)
  | .ok version =>
      let cleared := clearRebootRequest { module with vendorVersion := version } env.saveErr
      match cleared.2 with
      | some message => (cleared.1, some message)
      | none =>
          if cleared.1.state.updateState = .idle then (cleared.1, none)
          else readFlags cleared.1 env

/-- `Prepare`: the update type comes from the annotations (`unmarshalType` is
`json.Unmarshal` into `moduleMetadata`); the image is moved into the emptied update dir. -/
def prepare (unmarshalType : String → Except String String) (annotations : String) :
    OverlayModule × Option String :=
  if module.state.updateState ≠ .idle ∧ module.state.updateState ≠ .prepared then
    (module, some ("wrong state: " ++ module.state.updateState.name))
  else
    match unmarshalType annotations with
    | .error message => (module, some message)
    | .ok updateType =>
        let module := { module with state :=
          { module.state with updateType := updateType, updateState := .prepared } }
        let cleared := clearUpdateDir module env.clearErr
        match cleared.2 with
        | some message => (cleared.1, some message)
        | none =>
            match env.renameErr with
            | some message => (cleared.1, some message)
            | none => saveState cleared.1 env.saveErr

/-- The end of `Update` and `Apply`: the state moves to `next` with a reboot request, and
is saved. -/
def moveRequestingReboot (next : UpdateState) : OverlayModule × Bool × Option String :=
  match env.writeErr with
  | some message => (module, false, some message)
  | none =>
      let saved := saveState
        { module with state := { module.state with updateState := next, rebootRequest := true } }
        env.saveErr
      match saved.2 with
      | some message => (saved.1, false, some message)
      | none => (saved.1, saved.1.state.rebootRequest, none)

def update : OverlayModule × Bool × Option String :=
  if module.state.updateState = .updated then
    if module.bootWithUpdate then (module, false, none)
    else (module, false, some "boot with update failed")
  else if module.state.updateState ≠ .prepared then
    (module, false, some ("wrong state: " ++ module.state.updateState.name))
  else moveRequestingReboot module env .updated

/-- `Apply`; removing the `updated` flag file is taken to succeed. -/
def apply : OverlayModule × Bool × Option String :=
  let module := { module with flags := { module.flags with updated := false } }
  if module.bootFailed then (module, false, some "current boot failed")
  else if module.state.updateState = .idle then
    let cleared := clearUpdateDir module env.clearErr
    (cleared.1, false, cleared.2)
  else if module.state.updateState ≠ .updated then
    (module, false, some ("wrong state: " ++ module.state.updateState.name))
  else moveRequestingReboot module env .idle

/-- `Revert`; removing the `updated` flag file is taken to succeed. -/
def revert : OverlayModule × Bool × Option String :=
  let module := { module with flags := { module.flags with updated := false } }
  if module.state.updateState = .idle then (module, false, none)
  else
    let cleared := clearUpdateDir module env.clearErr
    match cleared.2 with
    | some message => (cleared.1, false, some message)
    | none =>
        let module := cleared.1
        let rebootRequest := module.state.rebootRequest || module.bootWithUpdate
        let saved := saveState
          { module with state := { module.state with rebootRequest, updateState := .idle } }
          env.saveErr
        match saved.2 with
        | some message => (saved.1, false, some message)
        | none => (saved.1, saved.1.state.rebootRequest, none)

/-- `Reboot`: the rebooter runs only on a reboot request. -/
def reboot : Option String :=
  if module.state.rebootRequest then env.rebootErr else none

end OverlayModule

/-! ### The update state an operation leaves -/

/-- The three methods whose call may ask for a reboot. -/
inductive Op
  | update
  | apply
  | revert

def Op.call : Op → OverlayModule → Env → OverlayModule × Bool × Option String
  | .update => OverlayModule.update
  | .apply => OverlayModule.apply
  | .revert => OverlayModule.revert

/-- The state an operation moves to when it asks for a reboot. -/
def Op.target : Op → UpdateState
  | .update => .updated
  | .apply => .idle
  | .revert => .idle

/-- The module holds `state` in memory and in its storage entry. -/
def Holds (state : UpdateState) (module : OverlayModule) : Prop :=
  module.state.updateState = state ∧ module.stored.map ModuleState.updateState = some state

section Holds

variable {state : UpdateState} {module : OverlayModule}

private theorem saveState_holds (holds : Holds state module) (err : Option String) :
    Holds state (module.saveState err).1 := by
  cases err with
  | none => exact ⟨holds.1, by simp [OverlayModule.saveState, holds.1]⟩
  | some message => exact holds

private theorem readFlags_holds (holds : Holds state module) (env : Env) :
    Holds state (module.readFlags env).1 := by
  unfold OverlayModule.readFlags
  dsimp only
  repeat' split
  all_goals exact holds

private theorem clearRebootRequest_holds (holds : Holds state module) (err : Option String) :
    Holds state (module.clearRebootRequest err).1 := by
  unfold OverlayModule.clearRebootRequest
  split
  · exact saveState_holds (show Holds state { module with state.rebootRequest := false } from holds)
      err
  · exact holds

private theorem init_holds (holds : Holds state module) (env : Env) : Holds state (module.init env).1 := by
  unfold OverlayModule.init
  split
  · exact holds
  · rename_i version _
    have cleared := clearRebootRequest_holds
      (show Holds state { module with vendorVersion := version } from holds) env.saveErr
    dsimp only
    split
    · exact cleared
    · split
      · exact cleared
      · exact readFlags_holds cleared env

private theorem new_holds (holds : Holds state module) (flags : Flags) : Holds state (module.new flags) := by
  obtain ⟨-, stored⟩ := holds
  obtain ⟨entry, found, same⟩ := Option.map_eq_some'.mp stored
  exact ⟨by simp [OverlayModule.new, found, same], by simp [OverlayModule.new, found, same]⟩

end Holds

private theorem moveRequestingReboot_holds {module : OverlayModule} {env : Env} {next : UpdateState}
    (asked : (module.moveRequestingReboot env next).2.1 = true) :
    Holds next (module.moveRequestingReboot env next).1 := by
  unfold OverlayModule.moveRequestingReboot at asked ⊢
  cases write : env.writeErr <;> cases save : env.saveErr <;>
    simp_all [OverlayModule.saveState, Holds]

section Calls

variable {module : OverlayModule} {env : Env}

private theorem update_holds_updated (asked : (module.update env).2.1 = true) :
    Holds .updated (module.update env).1 := by
  unfold OverlayModule.update at asked ⊢
  by_cases updated : module.state.updateState = .updated
  · simp only [updated, ↓reduceIte] at asked
    split at asked <;> cases asked
  by_cases prepared : module.state.updateState = .prepared
  · simp only [updated, prepared, ↓reduceIte, ne_eq, not_true_eq_false] at asked ⊢
    exact moveRequestingReboot_holds asked
  · simp [updated, prepared] at asked

private theorem apply_holds_idle (asked : (module.apply env).2.1 = true) :
    Holds .idle (module.apply env).1 := by
  unfold OverlayModule.apply at asked ⊢
  by_cases failed : module.bootFailed
  · simp [failed] at asked
  by_cases idle : module.state.updateState = .idle
  · simp [failed, idle] at asked
  by_cases updated : module.state.updateState = .updated
  · simp only [failed, idle, updated, ↓reduceIte, ne_eq, not_true_eq_false] at asked ⊢
    exact moveRequestingReboot_holds asked
  · simp [failed, idle, updated] at asked

private theorem revert_holds_idle (asked : (module.revert env).2.1 = true) :
    Holds .idle (module.revert env).1 := by
  unfold OverlayModule.revert at asked ⊢
  by_cases idle : module.state.updateState = .idle
  · simp [idle] at asked
  cases clear : env.clearErr <;> cases save : env.saveErr <;>
    simp_all [OverlayModule.clearUpdateDir, OverlayModule.saveState, Holds]

theorem call_holds_target {op : Op} (asked : (op.call module env).2.1 = true) :
    Holds op.target (op.call module env).1 := by
  cases op with
  | update => exact update_holds_updated asked
  | apply => exact apply_holds_idle asked
  | revert => exact revert_holds_idle asked

end Calls

theorem call_at_target {op : Op} {module : OverlayModule} (holds : Holds op.target module)
    (env : Env) : (op.call module env).2.1 = false := by
  obtain ⟨memory, -⟩ := holds
  cases op with
  | update => simp [Op.call, OverlayModule.update, memory, Op.target]; split <;> rfl
  | apply => simp [Op.call, OverlayModule.apply, memory, Op.target]; split <;> rfl
  | revert => simp [Op.call, OverlayModule.revert, memory, Op.target]

/-! ### The module under the FSM handler -/

/-- What an overlay module meets: a call of the handler in an environment, or a reboot of the
device, after which `New` and `Init` run. -/
inductive Happening
  | call (call : Fsm.ModuleCall) (env : Env)
  | reboot (env : Env)

variable (unmarshalType : String → Except String String)

/-- The overlay module as a module of the FSM handler: the methods the handler calls, and a
reboot of the device, after which `New` rebuilds the module from its storage entry with the
flag files the boot loader left, and `Init` runs. -/
def overlayModule : Fsm.ModuleModel where
  State := OverlayModule
  Env := Env
  call module call env :=
    match call with
    | .getVendorVersion => ({ value := module.vendorVersion }, module)
    | .prepare _ _ annotations =>
        let prepared := module.prepare env unmarshalType annotations
        ({ err := prepared.2 }, prepared.1)
    | .update =>
        let updated := module.update env
        ({ rebootRequired := updated.2.1, err := updated.2.2 }, updated.1)
    | .apply =>
        let applied := module.apply env
        ({ rebootRequired := applied.2.1, err := applied.2.2 }, applied.1)
    | .revert =>
        let reverted := module.revert env
        ({ rebootRequired := reverted.2.1, err := reverted.2.2 }, reverted.1)
    | .reboot => ({ err := module.reboot env }, module)
  restart module env := ((module.new env.boot).init env).1

/-- The `UpdateModule` method of an operation. -/
def Op.moduleCall : Op → Fsm.ModuleCall
  | .update => .update
  | .apply => .apply
  | .revert => .revert

/-- The methods the handler calls besides `Prepare`, `Update`, `Apply` and `Revert`. -/
def QuietCall : Fsm.ModuleCall → Prop
  | .getVendorVersion => True
  | .reboot => True
  | _ => False

section Handler

variable {state : UpdateState} {module : OverlayModule}

theorem call_moduleCall (op : Op) (env : Env) :
    (overlayModule unmarshalType).call module op.moduleCall env =
      ({ rebootRequired := (op.call module env).2.1, err := (op.call module env).2.2 },
        (op.call module env).1) := by
  cases op <;> rfl

theorem quietCall_holds (holds : Holds state module) {call : Fsm.ModuleCall} (quiet : QuietCall call)
    (env : Env) : Holds state ((overlayModule unmarshalType).call module call env).2 := by
  cases call <;> simp only [QuietCall] at quiet <;> exact holds

theorem restart_holds (holds : Holds state module) (env : Env) :
    Holds state ((overlayModule unmarshalType).restart module env) :=
  init_holds (new_holds holds _) _

end Handler

/-! ### What a reboot rebuilds -/

/-- The storage entry holds the module state in memory, or, with no entry, the zero state
`getState` starts from: a reboot, with `New`, rebuilds the module in that state. -/
def Persisted (module : OverlayModule) : Prop :=
  module.stored.getD .zero = module.state

section Persisted

variable {module : OverlayModule} {env : Env}

private theorem Persisted.of_frame {other : OverlayModule} (persisted : Persisted module)
    (state : other.state = module.state) (stored : other.stored = module.stored) :
    Persisted other := by
  rw [Persisted, state, stored]
  exact persisted

private theorem saveState_persisted : Persisted (module.saveState none).1 := rfl

private theorem new_persisted (flags : Flags) : Persisted (module.new flags) := rfl

private theorem moveRequestingReboot_persisted {next : UpdateState}
    (ok : (module.moveRequestingReboot env next).2.2 = none) :
    Persisted (module.moveRequestingReboot env next).1 := by
  unfold OverlayModule.moveRequestingReboot at ok ⊢
  cases written : env.writeErr <;> cases saved : env.saveErr <;>
    simp_all [OverlayModule.saveState, Persisted]

private theorem prepare_persisted {annotations : String}
    (ok : (module.prepare env unmarshalType annotations).2 = none) :
    Persisted (module.prepare env unmarshalType annotations).1 := by
  unfold OverlayModule.prepare at ok ⊢
  split at ok
  · cases ok
  rw [if_neg ‹_›]
  cases typed : unmarshalType annotations <;> cases cleared : env.clearErr <;>
    cases renamed : env.renameErr <;> cases saved : env.saveErr <;>
    simp_all [OverlayModule.clearUpdateDir, OverlayModule.saveState, Persisted]

private theorem update_persisted (persisted : Persisted module) (ok : (module.update env).2.2 = none) :
    Persisted (module.update env).1 := by
  unfold OverlayModule.update at ok ⊢
  split
  · split
    · exact persisted
    · simp_all
  · split
    · simp_all
    · rename_i updated prepared
      rw [if_neg updated, if_neg prepared] at ok
      exact moveRequestingReboot_persisted ok

private theorem apply_persisted (persisted : Persisted module) (ok : (module.apply env).2.2 = none) :
    Persisted (module.apply env).1 := by
  unfold OverlayModule.apply at ok ⊢
  dsimp only at ok ⊢
  split
  · simp_all
  · split
    · cases env.clearErr <;> exact persisted
    · split
      · simp_all
      · rename_i failed idle updated
        rw [if_neg failed, if_neg idle, if_neg updated] at ok
        exact moveRequestingReboot_persisted ok

private theorem revert_persisted (persisted : Persisted module) (ok : (module.revert env).2.2 = none) :
    Persisted (module.revert env).1 := by
  unfold OverlayModule.revert at ok ⊢
  dsimp only at ok ⊢
  split
  · exact persisted
  · cases cleared : env.clearErr <;> cases saved : env.saveErr <;>
      simp_all [OverlayModule.clearUpdateDir, OverlayModule.saveState, Persisted]

private theorem readFlags_persisted (persisted : Persisted module) : Persisted (module.readFlags env).1 := by
  unfold OverlayModule.readFlags
  dsimp only
  repeat' split
  all_goals exact persisted

private theorem clearRebootRequest_persisted (persisted : Persisted module) {err : Option String}
    (ok : (module.clearRebootRequest err).2 = none) :
    Persisted (module.clearRebootRequest err).1 := by
  unfold OverlayModule.clearRebootRequest at ok ⊢
  split
  · cases err
    · exact saveState_persisted
    · simp_all [OverlayModule.saveState]
  · exact persisted

private theorem init_persisted (persisted : Persisted module) (ok : (module.init env).2 = none) :
    Persisted (module.init env).1 := by
  unfold OverlayModule.init at ok ⊢
  cases read : env.versionFile with
  | error message => simp [read] at ok
  | ok version =>
      have kept : Persisted { module with vendorVersion := version } := persisted
      simp only [read] at ok ⊢
      cases cleared : (OverlayModule.clearRebootRequest { module with vendorVersion := version }
        env.saveErr).2 with
      | some message => simp [cleared] at ok
      | none =>
          have saved := clearRebootRequest_persisted kept cleared
          simp only [cleared]
          split
          · exact saved
          · exact readFlags_persisted saved

theorem call_persisted (persisted : Persisted module) {call : Fsm.ModuleCall}
    (ok : ((overlayModule unmarshalType).call module call env).1.err = none) :
    Persisted ((overlayModule unmarshalType).call module call env).2 := by
  cases call with
  | getVendorVersion => exact persisted
  | prepare _ _ annotations => exact prepare_persisted unmarshalType ok
  | update => exact update_persisted persisted ok
  | apply => exact apply_persisted persisted ok
  | revert => exact revert_persisted persisted ok
  | reboot => exact persisted

theorem restart_persisted (ok : ((module.new env.boot).init env).2 = none) :
    Persisted ((overlayModule unmarshalType).restart module env) :=
  init_persisted (new_persisted _) ok

theorem Persisted.new_state (persisted : Persisted module) (flags : Flags) :
    (module.new flags).state = module.state :=
  persisted

end Persisted

end UpdateManager.Overlay
