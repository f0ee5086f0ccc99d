import UpdateManager.Fsm.Priority
import UpdateManager.Fsm.Threads

/-!
# The passes of `componentOperation` as runs of `doPriorityOperations`

With the goroutines' code forgotten (`Sched.view`), every step of a pass is a step of the
generic machine of `Fsm.Priority` or leaves its scheduler as it was, so every pass is a run of
`doPriorityOperations` (`pass_as_doPriorityOperations`). Two faults of the passes close the
file: `doReboot` blames the last status rebooted, and `doOperation` without `stopOnError`
drops the error of a failed lookup.
-/

namespace UpdateManager.Fsm

variable {M : ModuleModel}

/-! ### The scheduler with the goroutines' code forgotten -/

/-- The scheduler of a pass as `doPriorityOperations` sees it: each goroutine is the
component it runs for, a running one at the priority of its group. -/
def Sched.view (sched : Sched) : Priority.Scheduler String :=
  { pending := sched.pending.map fun item => (item.1, item.2.id)
    priority := sched.priority
    running := sched.running.map fun thread => (sched.priority, thread.id)
    groupErr := sched.groupErr
    err := sched.err }

private theorem map_eraseIdx {α β : Type} (f : α → β) :
    ∀ (items : List α) (index : Nat), (items.eraseIdx index).map f = (items.map f).eraseIdx index
  | [], _ => rfl
  | _ :: _, 0 => rfl
  | _ :: items, index + 1 => congrArg (_ :: ·) (map_eraseIdx f items index)

theorem Sched.view_start (operations : List (Nat × Thread)) :
    (Sched.start operations).view =
      Priority.Scheduler.start (operations.map fun item => (item.1, item.2.id)) := by
  have sorted := List.map_insertionSort (fun first second : Nat × Thread => second.1 ≤ first.1)
    (fun first second : Nat × String => second.1 ≤ first.1) (fun item => (item.1, item.2.id))
    operations (fun _ _ _ _ => Iff.rfl)
  simp only [Sched.view, Sched.start, Priority.Scheduler.start, ← sorted, List.head?_map,
    Option.map_map, List.map_nil]
  rfl

section Steps

variable {sched : Sched} {priority : Nat} {thread : Thread} {rest : List (Nat × Thread)}
  {stopOnError : Bool}

theorem Sched.view_launch (pending : sched.pending = (priority, thread) :: rest)
    (atPriority : priority = sched.priority) :
    Priority.step stopOnError (.running sched.view) .advance =
      some (.launch (priority, thread.id), .running { sched with
        pending := rest
        running := sched.running ++ [thread] }.view) := by
  subst atPriority
  simp [Priority.step, Priority.Scheduler.advance, Sched.view, pending]

theorem Sched.view_regroup (pending : sched.pending = (priority, thread) :: rest)
    (differs : priority ≠ sched.priority) (idle : sched.running = [])
    (clean : sched.groupErr = none ∨ stopOnError = false) :
    Priority.step stopOnError (.running sched.view) .advance =
      some (.wait sched.priority, .running { sched with
        priority := priority
        groupErr := none
        err := sched.err.or sched.groupErr }.view) := by
  simp only [Priority.step, Priority.Scheduler.advance, Sched.view, pending, idle, List.map_cons,
    List.map_nil, if_neg differs, List.isEmpty_nil, if_true]
  split
  · rcases clean with clean | clean <;> simp_all
  · rfl

private theorem Sched.view_return {result : Option String} (idle : sched.running = [])
    (ending : (∃ priority thread rest, sched.pending = (priority, thread) :: rest ∧
        priority ≠ sched.priority ∧ stopOnError = true ∧ result = sched.groupErr ∧
        result.isSome) ∨
      (sched.pending = [] ∧ result = sched.err.or sched.groupErr)) :
    Priority.step stopOnError (.running sched.view) .advance =
      some (.wait sched.priority, .returned result) := by
  rcases ending with ⟨priority, thread, rest, pending, differs, rfl, rfl, failed⟩ | ⟨empty, rfl⟩
  · obtain ⟨message, failed⟩ := Option.isSome_iff_exists.mp failed
    simp [Priority.step, Priority.Scheduler.advance, Sched.view, pending, idle, failed, differs]
  · simp [Priority.step, Priority.Scheduler.advance, Sched.view, empty, idle]

theorem Sched.view_set {index : Nat} {id : String} {old new : Io (Bool × Option String)}
    (found : sched.running[index]? = some ⟨id, old⟩) :
    { sched with running := sched.running.set index ⟨id, new⟩ }.view = sched.view := by
  have same := @map_set_of_getElem? _ _ (fun thread : Thread => (sched.priority, thread.id))
    sched.running index _ ⟨id, new⟩ found rfl
  simp only [Sched.view, same]

theorem Sched.view_finish {index : Nat} {id : String} {program : Io (Bool × Option String)}
    (found : sched.running[index]? = some ⟨id, program⟩) (err : Option String) :
    Priority.step stopOnError (.running sched.view) (.finish index err) =
      some (.finish (sched.priority, id) err, .running { sched with
        running := sched.running.eraseIdx index
        groupErr := sched.groupErr.or err }.view) := by
  simp [Priority.step, Priority.Scheduler.finish, Sched.view, found, map_eraseIdx]

end Steps

/-! ### Two components -/

def twoSetup : Setup where
  components := fun id => if id = "a" ∨ id = "b" then some ⟨0, 0⟩ else none
  downloadDir := "/var/aos/download"
  parseUrl := fun url => .ok ("http", url)

def twoRequest (id : String) : ComponentUpdateInfo :=
  { id := id, vendorVersion := "2.0", aosVersion := 2, url := "http://fileserver/" ++ id ++ ".img",
    size := 0, sha256 := "", sha512 := "", annotations := "" }

def twoUpdated : HandlerState :=
  { updateState := .updated, error := "",
    componentStatuses := statusesOf [twoRequest "a", twoRequest "b"] }

def twoStart : Config anyModule :=
  boot twoSetup ⟨some twoUpdated, fun _ => none, fun _ => none, []⟩
    (fun _ => ()) (fun _ => {}) (fun _ => {})

def blamedRevert : List (Choice anyModule) :=
  [.send .revert ["a", "b"], .advance, .advance,
    .goroutine 0 { rebootRequired := true } {}, .goroutine 1 { rebootRequired := true } {},
    .finish 0, .finish 0, .advance, .advance, .advance,
    .goroutine 0 { err := some "reboot failed" } {}, .goroutine 1 {} {}, .finish 0, .finish 0,
    .advance, .advance, .advance, .goroutine 0 {} {}, .goroutine 1 {} {}, .finish 0, .finish 0,
    .advance]

/-! ### Every pass of every run -/

section Run

variable {setup : Setup} {cfg next : Config M} {choice : Choice M} {label : Label}
  {trace : List Label}

/-- The scheduler of the pass in flight, as `doPriorityOperations` sees it, is reachable from
the operations the pass started with. -/
def SchedReach (cfg : Config M) : Prop :=
  ∀ flight loop, cfg.handler.flight = some flight → flight.stage = .loop loop →
    ∃ operations events, Priority.Reach flight.event.stopOnError
      (Priority.Scheduler.start operations) (.running loop.sched.view) events

theorem SchedReach.of_stage {flight : Flight} (nextFlight : next.handler.flight = some flight)
    (fresh : ∀ loop, flight.stage = .loop loop → ∃ operations, loop.sched = Sched.start operations) :
    SchedReach next := by
  intro flight' loop inFlight atLoop
  rw [nextFlight] at inFlight
  cases inFlight
  obtain ⟨operations, same⟩ := fresh loop atLoop
  exact ⟨_, [], by rw [same, Sched.view_start]; exact .start⟩

theorem SchedReach.of_settled (settled : next.handler.flight = none) : SchedReach next := by
  intro flight loop inFlight
  rw [settled] at inFlight
  cases inFlight

theorem SchedReach.of_pass {flight : Flight} {loop loop' : LoopState} (reach : SchedReach cfg)
    (inFlight : cfg.handler.flight = some flight) (atLoop : flight.stage = .loop loop)
    (nextFlight : next.handler.flight = some { flight with stage := .loop loop' })
    (moves : loop'.sched.view = loop.sched.view ∨ ∃ choice event,
      Priority.step flight.event.stopOnError (.running loop.sched.view) choice =
        some (event, .running loop'.sched.view)) :
    SchedReach next := by
  intro flight' loop'' inFlight' atLoop'
  rw [nextFlight] at inFlight'
  cases inFlight'
  cases atLoop'
  obtain ⟨operations, events, before⟩ := reach flight loop inFlight atLoop
  rcases moves with same | ⟨choice, event, stepped⟩
  · exact ⟨operations, events, same ▸ before⟩
  · exact ⟨operations, _, before.step choice stepped⟩

private theorem step_schedReach (reach : SchedReach cfg) (stepped : step setup cfg choice = some (label, next)) :
    SchedReach next := by
  cases choice with
  | send event order =>
      obtain ⟨-, -, -, -, -, began⟩ := sendEvent_some stepped
      obtain ⟨-, ⟨-, -, nextFlight⟩ | ⟨-, -, -, nextFlight⟩⟩ := startTransition_some began
      · exact SchedReach.of_stage nextFlight fun loop atLoop => by cases atLoop
      · refine SchedReach.of_stage nextFlight fun loop atLoop => ?_
        obtain ⟨operations, rfl, -⟩ := (componentOperation_spec ..).2 loop atLoop
        exact ⟨operations, rfl⟩
  | advance =>
      obtain ⟨-, -, flight, inFlight, launch | barrier | returned | ended⟩ := advance_some stepped
      · obtain ⟨loop, priority, thread, rest, atLoop, pending, atPriority, -, same⟩ := launch
        have nextFlight := Handler.flight_of_withStage inFlight same
        exact reach.of_pass inFlight atLoop nextFlight
          (.inr ⟨_, _, Sched.view_launch pending atPriority⟩)
      · obtain ⟨loop, priority, thread, rest, atLoop, pending, differs, idle, clean, -, same⟩ :=
          barrier
        have nextFlight := Handler.flight_of_withStage inFlight same
        exact reach.of_pass inFlight atLoop nextFlight
          (.inr ⟨_, _, Sched.view_regroup pending differs idle clean⟩)
      · obtain ⟨loop, result, atLoop, -, -, -, same⟩ := returned
        have nextFlight := Handler.flight_of_withStatuses inFlight same
        refine SchedReach.of_stage nextFlight fun loop' atLoop' => ?_
        rcases (passReturned_spec ..).2 loop' atLoop' with
          ⟨-, operations, rfl, -⟩ | ⟨-, operations, rfl, -⟩ <;> exact ⟨operations, rfl⟩
      · obtain ⟨_, -, -, same⟩ := ended
        exact SchedReach.of_stage (congrArg Handler.flight same) fun loop atLoop => by cases atLoop
  | goroutine index env reply =>
      obtain ⟨_, _, loop, _, _, _, inFlight, waiting, -, -, -, same⟩ := goroutineCall_some stepped
      have nextFlight := Handler.flight_of_withStage inFlight same
      exact reach.of_pass inFlight rfl nextFlight (.inl (Sched.view_set waiting))
  | finish index =>
      obtain ⟨_, _, loop, _, _, err, inFlight, returned, -, -, -, same⟩ :=
        goroutineFinish_some stepped
      have nextFlight := Handler.flight_of_withStatuses inFlight same
      exact reach.of_pass inFlight rfl nextFlight (.inr ⟨_, _, by
        simpa using Sched.view_finish returned err⟩)
  | settle env =>
      obtain ⟨_, _, -, -, -, nextFlight, -⟩ := settle_some stepped
      exact SchedReach.of_stage nextFlight fun loop atLoop => by split at atLoop <;> cases atLoop
  | clean err kept =>
      obtain ⟨_, _, inFlight, -, -, -, same⟩ := clean_some stepped
      exact SchedReach.of_stage (Handler.flight_of_withStage inFlight same) fun loop atLoop => by
        cases atLoop
  | save err =>
      obtain ⟨_, _, -, -, -, settled, -⟩ := save_some stepped
      exact SchedReach.of_settled settled
  | receive =>
      obtain ⟨-, -, -, -, -, settled, -⟩ := receive_some stepped
      exact SchedReach.of_settled settled
  | restart restartEnv versionEnv =>
      cases stepped
      exact SchedReach.of_settled rfl

private theorem reach_schedReach {start : Config M} (initial : start.handler.flight = none)
    (reach : Reach setup start cfg trace) : SchedReach cfg := by
  induction reach with
  | start => exact SchedReach.of_settled initial
  | step _ _ stepped ih => exact step_schedReach ih stepped

/-- In every run from a configuration with no transition in flight, each pass of
`componentOperation` is a run of `doPriorityOperations`: its scheduler, with the goroutines'
code forgotten, is reachable from the operations the pass started with, and keeps the
invariant of that machine. -/
theorem pass_as_doPriorityOperations {start : Config M} (initial : start.handler.flight = none)
    (reach : Reach setup start cfg trace) :
    ∀ flight loop, cfg.handler.flight = some flight → flight.stage = .loop loop →
      ∃ operations events, Priority.Reach flight.event.stopOnError
          (Priority.Scheduler.start operations) (.running loop.sched.view) events ∧
        Priority.Ok flight.event.stopOnError operations events loop.sched.view := by
  intro flight loop inFlight atLoop
  obtain ⟨operations, events, run⟩ := reach_schedReach initial reach flight loop inFlight atLoop
  exact ⟨operations, events, run, Priority.reach_ok run _ rfl⟩

def firstRevertPass : Config anyModule :=
  ((run twoSetup twoStart (blamedRevert.take 5)).getD (twoStart, [])).1

theorem revert_pass_as_doPriorityOperations :
    ∃ flight loop, firstRevertPass.handler.flight = some flight ∧ flight.stage = .loop loop ∧
      ∃ operations events, Priority.Reach flight.event.stopOnError
          (Priority.Scheduler.start operations) (.running loop.sched.view) events ∧
        Priority.Ok flight.event.stopOnError operations events loop.sched.view := by
  have reach : Reach twoSetup twoStart firstRevertPass _ :=
    Reach.of_run_getD (blamedRevert.take 5) (twoStart, []) (by decide)
  refine ⟨_, _, rfl, rfl, ?_⟩
  exact pass_as_doPriorityOperations rfl reach _ _ rfl rfl

end Run

/-! ### The error of a failed reboot -/

def blamedRevertLabels : List Label :=
  [.accept .revert twoUpdated, .launch "a", .launch "b",
    .call "a" (.module "a" .revert) { rebootRequired := true },
    .call "b" (.module "b" .revert) { rebootRequired := true },
    .finish "a" (true, none), .finish "b" (true, none), .passed true, .launch "a", .launch "b",
    .call "a" (.module "a" .reboot) { err := some "reboot failed" },
    .call "b" (.module "b" .reboot) {},
    .finish "a" (false, some "reboot failed"), .finish "b" (false, none), .passed false,
    .launch "a", .launch "b", .call "a" (.module "a" .revert) {},
    .call "b" (.module "b" .revert) {}, .finish "a" (false, none), .finish "b" (false, none),
    .passed true]

/-- When `componentOperation` returns the error of the `Reboot` of `a`, the status of `a` is as
it was, and the status of `b`, whose calls all succeeded, carries the error. -/
theorem reboot_error_recorded_on_last :
    ∃ cfg, Reach twoSetup twoStart cfg blamedRevertLabels ∧
      cfg.handler.flight = some ⟨.revert, .idle, .returned (some "reboot failed")⟩ ∧
      cfg.handler.state.componentStatuses.find? "a" = twoUpdated.componentStatuses.find? "a" ∧
      cfg.handler.state.componentStatuses.find? "b" =
        some { (twoRequest "b").installing with status := .error, error := "reboot failed" } := by
  have ran : ((run twoSetup twoStart blamedRevert).getD (twoStart, [])).2 = blamedRevertLabels := by
    decide
  have reach : Reach twoSetup twoStart _ _ :=
    Reach.of_run_getD blamedRevert (twoStart, []) (by decide)
  rw [ran] at reach
  exact ⟨_, reach, rfl, by decide, by decide⟩

/-! ### The error of a failed lookup -/

def twoFresh : Config anyModule :=
  boot twoSetup ⟨none, fun _ => none, fun _ => none, []⟩ (fun _ => ()) (fun _ => {}) (fun _ => {})

def droppedLookup : List (Choice anyModule) :=
  [.send (.prepare [twoRequest "a", twoRequest "c"]) ["a", "c"], .advance, .settle (fun _ => {}),
    .save none, .send .revert ["a", "c"], .advance, .goroutine 0 {} {}, .finish 0, .advance]

def unknownFailed : HandlerState :=
  { updateState := .failed, error := "component c not found",
    componentStatuses := (statusesOf [twoRequest "a", twoRequest "c"]).componentError "c"
      "component c not found" }

def droppedLookupLabels : List Label :=
  [.accept (.prepare [twoRequest "a", twoRequest "c"]) HandlerState.initial, .control,
    .settle .failed, .save unknownFailed none, .accept .revert unknownFailed, .launch "a",
    .call "a" (.module "a" .revert) {}, .finish "a" (false, none), .passed true]

/-- The revert's `componentOperation` returns no error, although its lookup of `c` failed and
set the status of `c` to the error. -/
theorem lookup_error_dropped :
    ∃ cfg, Reach twoSetup twoFresh cfg droppedLookupLabels ∧
      cfg.handler.flight = some ⟨.revert, .idle, .returned none⟩ ∧
      cfg.handler.state.componentStatuses.find? "c" =
        some { (twoRequest "c").installing with
          status := .error
          error := "component c not found" } := by
  have ran : ((run twoSetup twoFresh droppedLookup).getD (twoFresh, [])).2 =
      droppedLookupLabels := by
    decide
  have reach : Reach twoSetup twoFresh _ _ :=
    Reach.of_run_getD droppedLookup (twoFresh, []) (by decide)
  rw [ran] at reach
  exact ⟨_, reach, rfl, by decide⟩

end UpdateManager.Fsm
