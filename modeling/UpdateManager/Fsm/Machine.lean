import UpdateManager.Fsm.Operations
import Mathlib.Data.List.Sort

/-!
# The FSM handler as a machine

A configuration holds what survives a crash (the storage, the download directory, the
modules' states) and the `Handler` in memory, with the transition in flight and the statuses
not read from the status channel. A step is one action of one party, chosen by a `Choice`: an
event, a step of the transition goroutine or of one of its goroutines, a step of
`onStateChanged`, a read of the status channel, or a crash and `New`. The environment chooses
every result the code does not compute. `New` and its `init` goroutine are one step, so no
event arrives before `init` returns: the code does not wait for `initWG`, and a prepare
accepted earlier may panic on a missing `handler.componentStatuses` entry (a crash, which
`restart` covers) or store an empty vendor version (not covered).
-/

namespace UpdateManager.Fsm

/-- What the modules do: a module call or a restart (`New` and `Init` after a crash)
changes the module's state, with the environment's choices in `Env`. -/
structure ModuleModel where
  State : Type
  Env : Type
  call : State → ModuleCall → Env → Reply × State
  restart : State → Env → State

/-- Modules whose code is not known: every call returns what the environment chooses. -/
def anyModule : ModuleModel where
  State := Unit
  Env := Reply
  call := fun _ _ reply => (reply, ())
  restart := fun _ _ => ()

/-- `componentData` without the module. -/
structure ComponentData where
  updatePriority : Nat
  rebootPriority : Nat
  deriving DecidableEq, Repr

/-- The configuration `New` reads: the enabled update modules (`handler.components`), the
download directory, and `url.Parse`, which yields the scheme and path of a URL. -/
structure Setup where
  components : String → Option ComponentData
  downloadDir : String
  parseUrl : String → Except String (String × String)

/-- The `StateStorage` data and the files of the download directory. -/
structure Storage where
  updateState : Option HandlerState
  aosVersions : String → Option Nat
  vendorVersions : String → Option String
  downloads : List String

/-- The handler state `getState` reads: the stored blob, or the zero state. -/
def Storage.handlerState (storage : Storage) : HandlerState :=
  storage.updateState.getD HandlerState.initial

/-- A goroutine of `doPriorityOperations`, for the component `id`. -/
structure Thread where
  id : String
  program : Io (Bool × Option String)

/-- The locals of `doPriorityOperations`: the sorted operations not yet launched, the
priority of the current group, the launched goroutines that have not returned, `groupErr`
and `err`. -/
structure Sched where
  pending : List (Nat × Thread)
  priority : Nat
  running : List Thread
  groupErr : Option String
  err : Option String

/-- Which scheduler pass `componentOperation` is in: `doOperation`, or `doReboot` whose
goroutines all write to `blamed`, the last value of its `range` variable. -/
inductive Pass
  | operation
  | reboot (blamed : String)

def Pass.isOperation : Pass → Bool
  | .operation => true
  | .reboot _ => false

/-- The locals of `componentOperation`: `err`, the pass and its scheduler, and `statuses`:
the `rebootStatuses` `doOperation` collects, or the ones `doReboot` reboots. -/
structure LoopState where
  err : Option String
  pass : Pass
  sched : Sched
  statuses : List String

/-- Where the transition goroutine is. -/
inductive Stage
  | loop (loop : LoopState)
  | returned (err : Option String)
  | settling
  | cleaning
  | saving

/-- A transition in flight: its event, `fsm.Current()`, and its stage. -/
structure Flight where
  event : Event
  current : UpdateState
  stage : Stage

/-- The handler in memory: `state`, the vendor versions of `handler.componentStatuses`, the
transition in flight, if any, and the statuses `sendStatus` sent that the client has not read,
the one a goroutine waits to put on the full channel included. -/
structure Handler where
  state : HandlerState
  runtimeVendor : String → String
  flight : Option Flight
  queued : Nat

structure Config (M : ModuleModel) where
  storage : Storage
  modules : String → M.State
  handler : Handler

/-- What a step shows. -/
inductive Label
  | accept (event : Event) (source : HandlerState)
  | launch (id : String)
  | call (id : String) (request : ExtCall) (reply : Reply)
  | finish (id : String) (result : Bool × Option String)
  | control
  | passed (operation : Bool)
  | settle (state : UpdateState)
  | clean (err : Option String)
  | save (state : HandlerState) (err : Option String)
  | received
  | restart (state : HandlerState)
  deriving DecidableEq

/-- The environment's and the scheduler's choice of the next step. -/
inductive Choice (M : ModuleModel)
  | send (event : Event) (order : List String)
  | advance
  | goroutine (index : Nat) (env : M.Env) (reply : Reply)
  | finish (index : Nat)
  | settle (env : String → M.Env)
  | clean (err : Option String) (kept : String → Bool)
  | save (err : Option String)
  | receive
  | restart (restartEnv versionEnv : String → M.Env)

/-! ### The scheduler passes of `componentOperation` -/

/-- `doPriorityOperations` entered with `operations`: they are sorted by decreasing
priority and the first group's priority is that of the first. `sort.Slice` leaves the order
of equal priorities open; the goroutines of a group run interleaved in any order anyway. -/
def Sched.start (operations : List (Nat × Thread)) : Sched :=
  let sorted := operations.insertionSort (fun first second => second.1 ≤ first.1)
  { pending := sorted, priority := (sorted.head?.map Prod.fst).getD 0, running := [],
    groupErr := none, err := none }

/-- The loop that `doOperation` and `doReboot` run before `doPriorityOperations`: a status
whose component is not registered gets `componentError`, and with `stopOnError` the first
such status ends the call with its error. -/
def collectOperations (setup : Setup) (stopOnError : Bool) (priorityOf : ComponentData → Nat)
    (operation : String → Io (Bool × Option String)) :
    StatusMap → List String → StatusMap × Except String (List (Nat × Thread))
  | statuses, [] => (statuses, .ok [])
  | statuses, id :: rest =>
      match setup.components id with
      | none =>
          let message := "component " ++ id ++ " not found"
          if stopOnError then (statuses.componentError id message, .error message)
          else collectOperations setup stopOnError priorityOf operation
            (statuses.componentError id message) rest
      | some component =>
          let collected := collectOperations setup stopOnError priorityOf operation statuses rest
          (collected.1, collected.2.map ((priorityOf component, ⟨id, operation id⟩) :: ·))

/-- The lookups of `doOperation`, by update priority. -/
def doOperation (setup : Setup) (stopOnError : Bool)
    (operation : String → Io (Bool × Option String)) :
    StatusMap → List String → StatusMap × Except String (List (Nat × Thread)) :=
  collectOperations setup stopOnError ComponentData.updatePriority operation

/-- The lookups of `doReboot`, by reboot priority. -/
def doReboot (setup : Setup) (stopOnError : Bool) :
    StatusMap → List String → StatusMap × Except String (List (Nat × Thread)) :=
  collectOperations setup stopOnError ComponentData.rebootPriority rebootOperation

/-- The operation the event's `after_` callback passes to `componentOperation`. It reads
`handler.componentStatuses` (`runtimeVendor`) and `handler.state.ComponentStatuses`. -/
def Event.operation (setup : Setup) (runtimeVendor : String → String) (statuses : StatusMap) :
    Event → String → Io (Bool × Option String)
  | .prepare infos => prepareOperation infos runtimeVendor setup.downloadDir
  | .update => fun id =>
      updateOperation (((statuses.find? id).map ComponentStatusInfo.vendorVersion).getD "") id
  | .apply => fun id => applyOperation (statuses.find? id) id
  | .revert => revertOperation

/-- `doOperation` on `operationStatuses`, called by `componentOperation` with its `err`. -/
def operationPass (setup : Setup) (event : Event) (runtimeVendor : String → String)
    (err : Option String) (statuses : StatusMap) (operationStatuses : List String) :
    StatusMap × Stage :=
  let collected := doOperation setup event.stopOnError
    (event.operation setup runtimeVendor statuses) statuses operationStatuses
  match collected.2 with
  | .error message => (collected.1, .returned (some message))
  | .ok operations => (collected.1, .loop ⟨err, .operation, Sched.start operations, []⟩)

/-- `doReboot` on `rebootStatuses`, called by `componentOperation` with its `err`. -/
def rebootPass (setup : Setup) (event : Event) (err : Option String) (statuses : StatusMap)
    (rebootStatuses : List String) : StatusMap × Stage :=
  let collected := doReboot setup event.stopOnError statuses rebootStatuses
  match collected.2 with
  | .error message => (collected.1, .returned (some message))
  | .ok operations =>
      (collected.1, .loop ⟨err, .reboot (rebootStatuses.getLast?.getD ""),
        Sched.start operations, rebootStatuses⟩)

/-- `componentOperation` from its start: `order` is the map's iteration order. -/
def componentOperation (setup : Setup) (event : Event) (runtimeVendor : String → String)
    (statuses : StatusMap) (order : List String) : StatusMap × Stage :=
  if order = [] then (statuses, .returned none)
  else operationPass setup event runtimeVendor none statuses order

/-- `componentOperation` after `doPriorityOperations` of a pass returned `result`. -/
def passReturned (setup : Setup) (event : Event) (runtimeVendor : String → String)
    (statuses : StatusMap) (loop : LoopState) (result : Option String) : StatusMap × Stage :=
  match result, event.stopOnError with
  | some err, true => (statuses, .returned (some err))
  | _, _ =>
      match loop.pass with
      | .operation =>
          if loop.statuses = [] then (statuses, .returned (loop.err.or result))
          else rebootPass setup event (loop.err.or result) statuses loop.statuses
      | .reboot _ =>
          operationPass setup event runtimeVendor (loop.err.or result) statuses loop.statuses

/-- The end of the `after_` callback once `componentOperation` returned `err`: prepare and
update set the error and `stateFailed`, apply and revert only the error. -/
def callbackReturned (event : Event) (err : Option String) (state : HandlerState)
    (current : UpdateState) : HandlerState × UpdateState :=
  match err, event with
  | none, _ => (state, current)
  | some message, .prepare _ => ({ state with error := message }, .failed)
  | some message, .update => ({ state with error := message }, .failed)
  | some message, .apply => ({ state with error := message }, current)
  | some message, .revert => ({ state with error := message }, current)

/-! ### The steps -/

variable {M : ModuleModel}

namespace Handler

def withStage (handler : Handler) (stage : Stage) : Handler :=
  { handler with flight := handler.flight.map fun flight => { flight with stage := stage } }

def withStatuses (handler : Handler) (statuses : StatusMap) : Handler :=
  { handler with state := { handler.state with componentStatuses := statuses } }

end Handler

/-- The status map the event's `after_` callback works on: `onPrepareState` builds a new one
from the request, the other callbacks keep `handler.state.ComponentStatuses`. -/
def Event.statuses (event : Event) (current : StatusMap) : StatusMap :=
  match event with
  | .prepare infos => statusesOf infos
  | _ => current

/-- `fsm.Transition()` up to `componentOperation`: the current state becomes the event's
destination and the event's `after_` callback starts; `none` when `order` is not an order
of the status map. -/
def startTransition (setup : Setup) (handler : Handler) (event : Event) (order : List String) :
    Option Handler :=
  let state := { handler.state with error := "" }
  match event with
  | .prepare [] =>
      let emptied := { state with componentStatuses := .empty }
      some { handler with
        state := { emptied with error := "Prepare componenet list is empty" }
        flight := some ⟨event, .failed, .settling⟩ }
  | _ =>
      let statuses := event.statuses state.componentStatuses
      if order.isPerm statuses.ids then
        let started := componentOperation setup event handler.runtimeVendor statuses order
        some { handler with
          state := { state with componentStatuses := started.1 }
          flight := some ⟨event, event.destination, started.2⟩ }
      else none

def statusChannelSize : Nat := 1

/-- `sendEvent`: refused while a transition is in flight or when the table has no entry for
the event in the current state. While the goroutine of the last transition waits in
`sendStatus` for room on the status channel, it holds the FSM's event lock, and `fsm.Event`
waits. -/
def sendEvent (setup : Setup) (cfg : Config M) (event : Event) (order : List String) :
    Option (Label × Config M) :=
  match cfg.handler.flight with
  | some _ => none
  | none =>
      if statusChannelSize < cfg.handler.queued then none
      else if cfg.handler.state.updateState ∈ event.sources then
        (startTransition setup cfg.handler event order).map fun handler =>
          (.accept event cfg.handler.state, { cfg with handler := handler })
      else none

/-- The transition goroutine's next action. In a scheduler pass: launch the next goroutine of
the current group, or wait for the group and pass the barrier, or wait for the last group
and return to `componentOperation`. After `componentOperation`: the end of the callback. -/
def advance (setup : Setup) (cfg : Config M) : Option (Label × Config M) :=
  match cfg.handler.flight with
  | none => none
  | some flight =>
      match flight.stage with
      | .loop loop =>
          let sched := loop.sched
          match sched.pending with
          | (priority, thread) :: rest =>
              if priority = sched.priority then
                let launched := { sched with pending := rest, running := sched.running ++ [thread] }
                some (.launch thread.id,
                  { cfg with handler := cfg.handler.withStage (.loop { loop with sched := launched }) })
              else if sched.running.isEmpty then
                match sched.groupErr, flight.event.stopOnError with
                | some err, true =>
                    let returned := passReturned setup flight.event cfg.handler.runtimeVendor
                      cfg.handler.state.componentStatuses loop (some err)
                    let handler := (cfg.handler.withStatuses returned.1).withStage returned.2
                    some (.passed loop.pass.isOperation, { cfg with handler := handler })
                | groupErr, _ =>
                    let passed :=
                      { sched with priority := priority, groupErr := none, err := sched.err.or groupErr }
                    some (.control,
                      { cfg with handler := cfg.handler.withStage (.loop { loop with sched := passed }) })
              else none
          | [] =>
              if sched.running.isEmpty then
                let returned := passReturned setup flight.event cfg.handler.runtimeVendor
                  cfg.handler.state.componentStatuses loop (sched.err.or sched.groupErr)
                let handler := (cfg.handler.withStatuses returned.1).withStage returned.2
                some (.passed loop.pass.isOperation, { cfg with handler := handler })
              else none
      | .returned err =>
          let ended := callbackReturned flight.event err cfg.handler.state flight.current
          let handler := { cfg.handler with
            state := ended.1
            flight := some ⟨flight.event, ended.2, .settling⟩ }
          some (.control, { cfg with handler := handler })
      | .settling => none
      | .cleaning => none
      | .saving => none

/-- The reply `GetAosVersion` gives for what is stored. -/
def aosReply : Option Nat → Reply
  | some version => { number := version }
  | none => { err := some "entry doesn't not exist" }

/-- A call of a goroutine: what it returns, and the storage and modules after it. Module
calls go to the module model with `env`; a storage write stores its value and a read returns
what is stored, unless `reply` carries an error; `downloadImage` returns the path of a `file`
URL and otherwise adds the downloaded file unless the download fails. -/
def perform (setup : Setup) (cfg : Config M) (request : ExtCall) (env : M.Env) (reply : Reply) :
    Reply × Storage × (String → M.State) :=
  let storage := cfg.storage
  match request with
  | .module id call =>
      let called := M.call (cfg.modules id) call env
      (called.1, storage, Function.update cfg.modules id called.2)
  | .setVendorVersion id version =>
      let written := { storage with
        vendorVersions := Function.update storage.vendorVersions id (some version) }
      ({ err := reply.err }, if reply.err = none then written else storage, cfg.modules)
  | .getAosVersion id =>
      match reply.err with
      | some message => ({ err := some message }, storage, cfg.modules)
      | none => (aosReply (storage.aosVersions id), storage, cfg.modules)
  | .setAosVersion id version =>
      let written := { storage with
        aosVersions := Function.update storage.aosVersions id (some version) }
      ({ err := reply.err }, if reply.err = none then written else storage, cfg.modules)
  | .downloadImage _ url =>
      match setup.parseUrl url with
      | .error message => ({ err := some message }, storage, cfg.modules)
      | .ok (scheme, path) =>
          if scheme = "file" then ({ value := path }, storage, cfg.modules)
          else
            match reply.err with
            | some message => ({ err := some message }, storage, cfg.modules)
            | none => ({ value := reply.value },
                { storage with downloads := storage.downloads ++ [reply.value] }, cfg.modules)
  | .checkFileInfo .. => ({ err := reply.err }, storage, cfg.modules)

/-- A launched goroutine makes the call its code is waiting on. -/
def goroutineCall (setup : Setup) (cfg : Config M) (index : Nat) (env : M.Env) (reply : Reply) :
    Option (Label × Config M) :=
  match cfg.handler.flight with
  | some ⟨_, _, .loop loop⟩ =>
      match loop.sched.running[index]? with
      | some ⟨id, .call request resume⟩ =>
          let done := perform setup cfg request env reply
          let running := loop.sched.running.set index ⟨id, resume done.1⟩
          let handler := cfg.handler.withStage
            (.loop { loop with sched := { loop.sched with running := running } })
          some (.call id request done.1, { storage := done.2.1, modules := done.2.2, handler })
      | _ => none
  | _ => none

/-- What the goroutine of the component `id` does when its operation returns
`(rebootRequired, err)`, with `sched` the scheduler once it is done. In `doOperation` an error
goes to the component's own status and a reboot request appends the component to
`rebootStatuses`; in `doReboot` an error goes to the shared `range` variable. -/
def finishThread (statuses : StatusMap) (loop : LoopState) (sched : Sched) (id : String)
    (rebootRequired : Bool) (err : Option String) : StatusMap × LoopState :=
  match loop.pass, err with
  | .operation, some message => (statuses.componentError id message, { loop with sched })
  | .operation, none =>
      let rebootStatuses := if rebootRequired then loop.statuses ++ [id] else loop.statuses
      (statuses, { loop with sched, statuses := rebootStatuses })
  | .reboot blamed, some message => (statuses.componentError blamed message, { loop with sched })
  | .reboot _, none => (statuses, { loop with sched })

/-- A launched goroutine returns; the first error of the group becomes `groupErr`. -/
def goroutineFinish (cfg : Config M) (index : Nat) : Option (Label × Config M) :=
  match cfg.handler.flight with
  | some ⟨_, _, .loop loop⟩ =>
      match loop.sched.running[index]? with
      | some ⟨id, .pure (rebootRequired, err)⟩ =>
          let sched := { loop.sched with
            running := loop.sched.running.eraseIdx index
            groupErr := loop.sched.groupErr.or err }
          let finished :=
            finishThread cfg.handler.state.componentStatuses loop sched id rebootRequired err
          let handler := (cfg.handler.withStatuses finished.1).withStage (.loop finished.2)
          some (.finish id (rebootRequired, err), { cfg with handler })
      | _ => none
  | _ => none

/-- `onStateChanged` up to `saveState`: the state becomes `fsm.Current()`; on entering
`stateIdle`, `getVersions` asks each module for its vendor version, the statuses that are
not `StatusError` are deleted and, when there is a download directory, it is emptied next. -/
def settle (setup : Setup) (cfg : Config M) (env : String → M.Env) : Option (Label × Config M) :=
  match cfg.handler.flight with
  | some ⟨event, current, .settling⟩ =>
      let state := { cfg.handler.state with updateState := current }
      if current = .idle then
        let asked := fun id => M.call (cfg.modules id) .getVendorVersion (env id)
        let registered := fun id => (setup.components id).isSome
        let handler := { cfg.handler with
          state := { state with componentStatuses := state.componentStatuses.purge }
          runtimeVendor := fun id =>
            if registered id then (asked id).1.value else cfg.handler.runtimeVendor id
          flight := some ⟨event, current, if setup.downloadDir ≠ "" then .cleaning else .saving⟩ }
        let modules := fun id => if registered id then (asked id).2 else cfg.modules id
        some (.settle current, { cfg with handler, modules })
      else
        some (.settle current, { cfg with handler := { cfg.handler with
          state := state, flight := some ⟨event, current, .saving⟩ } })
  | _ => none

/-- `os.RemoveAll` and `os.MkdirAll` of the download directory in `onStateChanged`, which log
their errors and go on: a `RemoveAll` that fails with `err` leaves the files `kept` selects.
A failing `MkdirAll` leaves no file. -/
def clean (cfg : Config M) (err : Option String) (kept : String → Bool) :
    Option (Label × Config M) :=
  match cfg.handler.flight with
  | some ⟨_, _, .cleaning⟩ =>
      let downloads := if err = none then [] else cfg.storage.downloads.filter kept
      some (.clean err, { cfg with
        storage := { cfg.storage with downloads }
        handler := cfg.handler.withStage .saving })
  | _ => none

/-- `saveState` and `sendStatus` at the end of `onStateChanged`. When `SetUpdateState` fails,
the error is kept (unless one is already set) and the handler moves to `stateFailed` in memory
only. The status goes to the channel, or waits for room there: the transition is over either
way, and `queued` counts it. -/
def save (cfg : Config M) (err : Option String) : Option (Label × Config M) :=
  match cfg.handler.flight with
  | some ⟨_, _, .saving⟩ =>
      let state := cfg.handler.state
      let queued := cfg.handler.queued + 1
      match err with
      | none =>
          some (.save state none, { cfg with
            storage := { cfg.storage with updateState := some state }
            handler := { cfg.handler with flight := none, queued } })
      | some message =>
          let failed := { state with
            error := if state.error = "" then message else state.error
            updateState := .failed }
          let handler := { cfg.handler with state := failed, flight := none, queued }
          some (.save state err, { cfg with handler })
  | _ => none

/-- The client reads a status from the channel; a goroutine waiting in `sendStatus` puts its
own there and returns. No step of a transition touches the channel, so a read is taken
between transitions. -/
def receive (cfg : Config M) : Option (Label × Config M) :=
  match cfg.handler.flight, cfg.handler.queued with
  | none, queued + 1 => some (.received, { cfg with handler := { cfg.handler with queued } })
  | _, _ => none

/-- The handler `New` builds after a crash: each module is built again and initialised,
the state is the stored one, and `getVersions` takes the vendor versions from the modules
in `stateIdle` and from the storage otherwise. -/
def restart (setup : Setup) (cfg : Config M) (restartEnv versionEnv : String → M.Env) :
    Config M :=
  let rebuilt := fun id => M.restart (cfg.modules id) (restartEnv id)
  let state := cfg.storage.handlerState
  let asked := fun id => M.call (rebuilt id) .getVendorVersion (versionEnv id)
  let registered := fun id => (setup.components id).isSome
  let idle := state.updateState = .idle
  { storage := cfg.storage
    modules := fun id => if registered id ∧ idle then (asked id).2 else rebuilt id
    handler := { state := state, flight := none, queued := 0, runtimeVendor := fun id =>
      if idle then (asked id).1.value else (cfg.storage.vendorVersions id).getD "" } }

def step (setup : Setup) (cfg : Config M) : Choice M → Option (Label × Config M)
  | .send event order => sendEvent setup cfg event order
  | .advance => advance setup cfg
  | .goroutine index env reply => goroutineCall setup cfg index env reply
  | .finish index => goroutineFinish cfg index
  | .settle env => settle setup cfg env
  | .clean err kept => clean cfg err kept
  | .save err => save cfg err
  | .receive => receive cfg
  | .restart restartEnv versionEnv =>
      let restarted := restart setup cfg restartEnv versionEnv
      some (.restart restarted.handler.state, restarted)

/-- The configuration `New` builds on `storage` and the modules' states `modules`. -/
def boot (setup : Setup) (storage : Storage) (modules : String → M.State)
    (restartEnv versionEnv : String → M.Env) : Config M :=
  restart setup ⟨storage, modules, ⟨.initial, fun _ => "", none, 0⟩⟩ restartEnv versionEnv

/-- The steps `choices` from `cfg`: the configuration reached and the labels shown, or
`none` when one of the choices is not a step. -/
def run (setup : Setup) : Config M → List (Choice M) → Option (Config M × List Label)
  | cfg, [] => some (cfg, [])
  | cfg, choice :: rest =>
      (step setup cfg choice).bind fun stepped =>
        (run setup stepped.2 rest).map fun ran => (ran.1, stepped.1 :: ran.2)

inductive Reach (setup : Setup) (start : Config M) : Config M → List Label → Prop
  | start : Reach setup start start []
  | step {cfg next : Config M} {trace : List Label} {label : Label} (choice : Choice M) :
      Reach setup start cfg trace → step setup cfg choice = some (label, next) →
      Reach setup start next (trace ++ [label])

namespace Reach

variable {setup : Setup} {start : Config M}

private theorem of_run {cfg : Config M} {trace : List Label} (reach : Reach setup start cfg trace) :
    ∀ {choices : List (Choice M)} {final : Config M} {labels : List Label},
      run setup cfg choices = some (final, labels) → Reach setup start final (trace ++ labels) := by
  intro choices
  induction choices generalizing cfg trace with
  | nil =>
      intro final labels ran
      cases ran
      simpa using reach
  | cons choice rest ih =>
      intro final labels ran
      simp only [run, Option.bind_eq_some, Option.map_eq_some'] at ran
      obtain ⟨⟨label, next⟩, stepped, ⟨final', labels'⟩, rest_ran, same⟩ := ran
      cases same
      simpa using ih (reach.step choice stepped) rest_ran

theorem of_run_labels (choices : List (Choice M)) {trace : List Label}
    (ran : (run setup start choices).map Prod.snd = some trace) :
    ∃ cfg, Reach setup start cfg trace := by
  obtain ⟨⟨cfg, labels⟩, h, rfl⟩ := Option.map_eq_some'.mp ran
  exact ⟨cfg, by simpa using Reach.start.of_run h⟩

theorem of_run_getD (choices : List (Choice M)) (fallback : Config M × List Label)
    (ran : (run setup start choices).isSome) :
    Reach setup start ((run setup start choices).getD fallback).1
      ((run setup start choices).getD fallback).2 := by
  obtain ⟨⟨cfg, labels⟩, same⟩ := Option.isSome_iff_exists.mp ran
  simpa [same] using Reach.start.of_run same

end Reach

theorem step_getD {setup : Setup} {cfg : Config M} {choice : Choice M} {label : Label}
    (fallback : Config M) (shows : (step setup cfg choice).map Prod.fst = some label) :
    step setup cfg choice = some (label, ((step setup cfg choice).map Prod.snd).getD fallback) := by
  obtain ⟨⟨label', next⟩, same, rfl⟩ := Option.map_eq_some'.mp shows
  simp [same]

end UpdateManager.Fsm
