import UpdateManager.Fsm.Prepare

/-!
# What `componentOperation` with `stopOnError` returns

Over every run, while a transition that stops on errors runs a pass, `groupErr` is set exactly
when one of its goroutines returned an error (`reach_stopLedger`); so `onUpdateState` leaves
the FSM in `Updated` exactly when every component is registered and no goroutine failed
(`update_outcome`).
-/

namespace UpdateManager.Fsm

variable {M : ModuleModel}

/-! ### Goroutines that returned no error -/

def FinishedOk (log : List Label) : Prop :=
  ∀ id result, Label.finish id result ∈ log → result.2 = none

def AllRegistered (setup : Setup) (ids : List String) : Prop :=
  ∀ id ∈ ids, (setup.components id).isSome

private theorem finishedOk_nil : FinishedOk [] := fun _ _ member => nomatch member

private theorem finishedOk_snoc {log : List Label} {label : Label} :
    FinishedOk (log ++ [label]) ↔
      FinishedOk log ∧ ∀ id result, Label.finish id result = label → result.2 = none := by
  simp only [FinishedOk, List.mem_append, List.mem_singleton, or_imp, forall_and]

private theorem finishedOk_snoc_quiet {log : List Label} {label : Label}
    (quiet : ∀ id result, Label.finish id result ≠ label) : FinishedOk (log ++ [label]) ↔ FinishedOk log := by
  simp only [finishedOk_snoc, and_iff_left_iff_imp]
  exact fun _ id result same => absurd same (quiet id result)

@[simp] theorem finishedOk_snoc_control {log : List Label} : FinishedOk (log ++ [.control]) ↔ FinishedOk log :=
  finishedOk_snoc_quiet fun _ _ => nofun

@[simp] theorem finishedOk_snoc_passed {log : List Label} {operation : Bool} :
    FinishedOk (log ++ [.passed operation]) ↔ FinishedOk log :=
  finishedOk_snoc_quiet fun _ _ => nofun

private theorem finishedOk_snoc_finish {log : List Label} {id : String} {result : Bool × Option String} :
    FinishedOk (log ++ [.finish id result]) ↔ FinishedOk log ∧ result.2 = none := by
  simp only [finishedOk_snoc, Label.finish.injEq, and_imp]
  exact and_congr_right fun _ => ⟨fun clean => clean id result rfl rfl, fun ok _ _ => by
    rintro rfl rfl; exact ok⟩

/-! ### What a transition that stops on errors has done -/

def StopStage (setup : Setup) (event : Event) (ids : List String) (log : List Label)
    (current : UpdateState) : Stage → Prop
  | .loop loop => current = event.destination ∧ loop.err = none ∧ loop.sched.err = none ∧
      AllRegistered setup ids ∧ (loop.sched.groupErr = none ↔ FinishedOk log)
  | .returned err => current = event.destination ∧ (err = none ↔ AllRegistered setup ids ∧ FinishedOk log)
  | .settling => event ≠ .prepare [] →
      (current = event.destination ↔ AllRegistered setup ids ∧ FinishedOk log) ∧
        (current = event.destination ∨ current = .failed)
  | .cleaning | .saving => True

/-- The transition in flight, if it stops on errors. -/
def StopLedger (setup : Setup) (cfg : Config M) (trace : List Label) : Prop :=
  ∀ event current stage, cfg.handler.flight = some ⟨event, current, stage⟩ →
    event.stopOnError = true →
      StopStage setup event cfg.handler.state.componentStatuses.ids (since trace) current stage

section Start

variable {setup : Setup} {event : Event} {vendor : String → String}

private theorem collectOperations_ok (stopOnError : Bool) (priorityOf : ComponentData → Nat)
    (operation : String → Io (Bool × Option String)) (statuses : StatusMap) {ids : List String}
    (registered : ∀ id ∈ ids, (setup.components id).isSome) :
    ∃ operations,
      (collectOperations setup stopOnError priorityOf operation statuses ids).2 = .ok operations := by
  cases collected : (collectOperations setup stopOnError priorityOf operation statuses ids).2 with
  | error message =>
      obtain ⟨id, member, missing⟩ := collectOperations_error collected
      simpa [missing] using registered id member
  | ok operations => exact ⟨operations, rfl⟩

private theorem componentOperation_stop {statuses : StatusMap} {order : List String}
    (stop : event.stopOnError = true) (perm : order.Perm statuses.ids) :
    StopStage setup event statuses.ids [] event.destination
      (componentOperation setup event vendor statuses order).2 := by
  by_cases empty : order = []
  · subst empty
    have none : statuses.ids = [] := perm.nil_eq.symm
    simp only [componentOperation, if_true, StopStage, true_and, true_iff]
    exact ⟨fun id member => by simp [none] at member, finishedOk_nil⟩
  obtain ⟨-, collected⟩ := collectOperations_spec setup event.stopOnError
    ComponentData.updatePriority (event.operation setup vendor statuses) order statuses
  simp only [componentOperation, empty, if_false, operationPass, doOperation]
  split
  · rename_i message failed
    obtain ⟨id, member, missing⟩ := collectOperations_error failed
    refine ⟨rfl, iff_of_false nofun fun ⟨registered, _⟩ => ?_⟩
    simpa [missing] using registered id (perm.subset member)
  · rename_i operations same
    rw [same] at collected
    exact ⟨rfl, rfl, rfl, fun id member => collected.2 stop id (perm.symm.subset member),
      iff_of_true rfl finishedOk_nil⟩

private theorem passReturned_stop {statuses : StatusMap} {loop : LoopState} {result : Option String}
    (stop : event.stopOnError = true) (noErr : loop.err = none)
    (registered : ∀ id ∈ loop.statuses, (setup.components id).isSome) :
    (passReturned setup event vendor statuses loop result).2 = .returned result ∨
      result = none ∧ ∃ next, (passReturned setup event vendor statuses loop result).2 = .loop next ∧
        next.err = none ∧ next.sched.err = none ∧ next.sched.groupErr = none := by
  cases result with
  | some err => exact .inl (by simp only [passReturned, stop])
  | none =>
      cases pass : loop.pass with
      | operation =>
          by_cases empty : loop.statuses = []
          · exact .inl (by simp only [passReturned, stop, pass, empty, if_true, noErr, Option.or_none])
          · obtain ⟨operations, looked⟩ := collectOperations_ok true
              ComponentData.rebootPriority rebootOperation statuses registered
            simp only [passReturned, stop, pass, empty, if_false, rebootPass, doReboot, looked, noErr,
              Option.or_none]
            exact .inr ⟨trivial, _, rfl, rfl, rfl, rfl⟩
      | reboot blamed =>
          obtain ⟨operations, looked⟩ := collectOperations_ok true
            ComponentData.updatePriority (event.operation setup vendor statuses) statuses registered
          simp only [passReturned, stop, pass, operationPass, doOperation, looked, noErr, Option.or_none]
          exact .inr ⟨trivial, _, rfl, rfl, rfl, rfl⟩

private theorem Event.destination_ne_failed (event : Event) : event.destination ≠ .failed := by
  cases event <;> nofun

private theorem StopStage.loop_quiet {ids : List String} {log : List Label} {current : UpdateState}
    {loop loop' : LoopState} {label : Label}
    (holds : StopStage setup event ids log current (.loop loop))
    (quiet : ∀ id result, Label.finish id result ≠ label) (err : loop'.err = loop.err)
    (schedErr : loop'.sched.err = loop.sched.err)
    (groupErr : loop'.sched.groupErr = loop.sched.groupErr) :
    StopStage setup event ids (log ++ [label]) current (.loop loop') := by
  obtain ⟨destination, noErr, noSchedErr, registered, clean⟩ := holds
  refine ⟨destination, err.trans noErr, schedErr.trans noSchedErr, registered, ?_⟩
  rw [groupErr, finishedOk_snoc_quiet quiet]
  exact clean

end Start

/-! ### Every transition that stops on errors, in every run -/

section Run

variable {setup : Setup} {cfg next : Config M} {choice : Choice M} {label : Label}
  {trace : List Label}

theorem StopLedger.of_stage {trace' : List Label} {flight : Flight}
    (nextFlight : next.handler.flight = some flight)
    (holds : flight.event.stopOnError = true →
      StopStage setup flight.event next.handler.state.componentStatuses.ids (since trace')
        flight.current flight.stage) :
    StopLedger setup next trace' := by
  intro event current stage inFlight stop
  rw [nextFlight] at inFlight
  cases inFlight
  exact holds stop

theorem StopLedger.of_pass {event : Event} {current : UpdateState} {loop : LoopState}
    {stage : Stage} (flying : FlightOk setup cfg trace) (ledger : StopLedger setup cfg trace)
    (inFlight : cfg.handler.flight = some ⟨event, current, .loop loop⟩)
    (nextFlight : next.handler.flight = some ⟨event, current, stage⟩)
    (like : next.handler.state.componentStatuses.Like cfg.handler.state.componentStatuses)
    (inner : label.isBoundary = false)
    (moves : event.stopOnError = true → PassOk setup cfg.handler event (since trace) loop →
      StopStage setup event cfg.handler.state.componentStatuses.ids (since trace) current
        (.loop loop) →
      StopStage setup event cfg.handler.state.componentStatuses.ids (since trace ++ [label])
        current stage) :
    StopLedger setup next (trace ++ [label]) := by
  refine StopLedger.of_stage nextFlight fun stop => ?_
  rw [since_snoc, if_neg (by simp [inner]), like.ids]
  exact moves stop (flying _ loop inFlight rfl) (ledger _ _ _ inFlight stop)

private theorem step_stopLedger (flying : FlightOk setup cfg trace) (ledger : StopLedger setup cfg trace)
    (stepped : step setup cfg choice = some (label, next)) :
    StopLedger setup next (trace ++ [label]) := by
  cases choice with
  | send event order =>
      obtain ⟨-, -, rfl, -, -, began⟩ := sendEvent_some stepped
      obtain ⟨-, ⟨rfl, -, nextFlight⟩ | ⟨-, perm, state, nextFlight⟩⟩ := startTransition_some began
      · exact StopLedger.of_stage nextFlight fun _ notEmpty => absurd rfl notEmpty
      · refine StopLedger.of_stage nextFlight fun stop => ?_
        have like := (componentOperation_spec setup event cfg.handler.runtimeVendor
          (event.statuses cfg.handler.state.componentStatuses) order).1
        simp only [since_snoc, Label.isBoundary, if_true, state, like.ids]
        exact componentOperation_stop stop (List.isPerm_iff.mp perm)
  | advance =>
      obtain ⟨-, -, ⟨event, current, stage⟩, inFlight, launch | barrier | returned | ended⟩ :=
        advance_some stepped
      · obtain ⟨loop, _, _, _, atLoop, -, -, rfl, same⟩ := launch
        obtain rfl : stage = .loop loop := atLoop
        exact ledger.of_pass flying inFlight (Handler.flight_of_withStage inFlight same)
          (by rw [same]; exact .refl _) rfl fun _ _ holds =>
            holds.loop_quiet (fun _ _ => nofun) rfl rfl rfl
      · obtain ⟨loop, _, _, _, atLoop, -, -, -, clean, rfl, same⟩ := barrier
        obtain rfl : stage = .loop loop := atLoop
        refine ledger.of_pass flying inFlight (Handler.flight_of_withStage inFlight same)
          (by rw [same]; exact .refl _) rfl fun stop _ holds => ?_
        have clean : loop.sched.groupErr = none := clean.resolve_right (by simp [stop])
        exact holds.loop_quiet (fun _ _ => nofun) rfl (by simp [clean]) clean.symm
      · obtain ⟨loop, result, atLoop, -, ends, rfl, same⟩ := returned
        obtain rfl : stage = .loop loop := atLoop
        refine ledger.of_pass flying inFlight (Handler.flight_of_withStatuses inFlight same)
          (by rw [same]; exact (passReturned_spec ..).1) rfl fun stop ok holds => ?_
        obtain ⟨destination, noErr, noSchedErr, registered, clean⟩ := holds
        have ended : result = loop.sched.groupErr := by
          rcases ends with ⟨_, _, _, -, -, -, rfl, -⟩ | ⟨-, rfl⟩
          · rfl
          · rw [noSchedErr, Option.none_or]
        rcases passReturned_stop stop noErr fun id member =>
            registered id (ok.known id (List.mem_append_right _ member)) with
          returns | ⟨nil, next', starts, err, schedErr, groupErr⟩
        · rw [returns, ended]
          refine ⟨destination, ?_⟩
          rw [and_iff_right registered, finishedOk_snoc_passed]
          exact clean
        · rw [starts]
          refine ⟨destination, err, schedErr, registered, iff_of_true groupErr ?_⟩
          rw [finishedOk_snoc_passed, ← clean, ← ended, nil]
      · obtain ⟨err, atReturned, rfl, same⟩ := ended
        obtain rfl : stage = .returned err := atReturned
        refine StopLedger.of_stage (congrArg Handler.flight same) fun stop _ => ?_
        obtain ⟨destination, outcome⟩ := ledger event current _ inFlight stop
        rw [since_snoc, if_neg (by simp [Label.isBoundary]), same]
        simp only [callbackReturned_state, finishedOk_snoc_control]
        cases err with
        | none => exact ⟨iff_of_true destination (outcome.mp rfl), .inl destination⟩
        | some message =>
            rw [callbackReturned_failed stop]
            exact ⟨iff_of_false (event.destination_ne_failed).symm
              (mt outcome.mpr (Option.some_ne_none message)),
              .inr rfl⟩
  | goroutine index env reply =>
      obtain ⟨_, _, loop, _, _, _, inFlight, -, rfl, -, -, same⟩ := goroutineCall_some stepped
      exact ledger.of_pass flying inFlight (Handler.flight_of_withStage inFlight same)
        (by rw [same]; exact .refl _) rfl fun _ _ holds =>
          holds.loop_quiet (fun _ _ => nofun) rfl rfl rfl
  | finish index =>
      obtain ⟨_, _, loop, id, rebootRequired, err, inFlight, -, rfl, -, -, same⟩ :=
        goroutineFinish_some stepped
      refine ledger.of_pass flying inFlight (Handler.flight_of_withStatuses inFlight same)
        (by rw [same]; exact finishThread_like ..) rfl fun _ _ holds => ?_
      obtain ⟨destination, noErr, noSchedErr, registered, clean⟩ := holds
      rw [finishThread_loop]
      exact ⟨destination, noErr, noSchedErr, registered, by
        simp only [Option.or_eq_none, finishedOk_snoc_finish, clean]⟩
  | settle env =>
      obtain ⟨_, _, -, -, -, nextFlight, -⟩ := settle_some stepped
      exact StopLedger.of_stage nextFlight fun _ => by split <;> trivial
  | clean err kept =>
      obtain ⟨_, _, inFlight, -, -, -, same⟩ := clean_some stepped
      exact StopLedger.of_stage (Handler.flight_of_withStage inFlight same) fun _ => trivial
  | save err =>
      obtain ⟨_, _, -, -, -, settled, -⟩ := save_some stepped
      exact fun _ _ _ inFlight => by rw [settled] at inFlight; cases inFlight
  | receive =>
      obtain ⟨-, -, -, -, -, settled, -⟩ := receive_some stepped
      exact fun _ _ _ inFlight => by rw [settled] at inFlight; cases inFlight
  | restart restartEnv versionEnv =>
      cases stepped
      exact fun _ _ _ inFlight => by cases inFlight

private theorem reach_stopLedger {start : Config M} (initial : start.handler.flight = none)
    (reach : Reach setup start cfg trace) : StopLedger setup cfg trace := by
  induction reach with
  | start => exact fun _ _ _ inFlight => by rw [initial] at inFlight; cases inFlight
  | step _ prior stepped ih => exact step_stopLedger (reach_flightOk initial prior) ih stepped

/-- When `onUpdateState` has returned, in any run: the FSM is in `Updated` exactly when every
component of the status map is registered and no goroutine of the update, `Update` or
`Reboot`, returned an error, and it is in `Failed` otherwise. -/
theorem update_outcome {start cfg : Config M} {trace : List Label}
    (initial : start.handler.flight = none) (reach : Reach setup start cfg trace)
    (current : UpdateState) (returned : cfg.handler.flight = some ⟨.update, current, .settling⟩) :
    (current = .updated ↔
        (∀ id ∈ cfg.handler.state.componentStatuses.ids, (setup.components id).isSome) ∧
          ∀ id result, Label.finish id result ∈ since trace → result.2 = none) ∧
      (current = .updated ∨ current = .failed) :=
  reach_stopLedger initial reach .update current .settling returned rfl nofun

end Run

def oneUpdate : List (Choice anyModule) :=
  onePrepare ++ [.settle (fun _ => {}), .save none, .send .update ["c"], .advance,
    .goroutine 0 {} {}, .goroutine 0 { value := "2.0" } {}, .finish 0, .advance, .advance]

theorem one_update_succeeds :
    (oneRun oneUpdate).1.handler.flight = some ⟨.update, .updated, .settling⟩ ∧
      ∀ id ∈ (oneRun oneUpdate).1.handler.state.componentStatuses.ids,
        (oneSetup.components id).isSome :=
  have settled : (oneRun oneUpdate).1.handler.flight = some ⟨.update, .updated, .settling⟩ := rfl
  ⟨settled, ((update_outcome rfl (Reach.of_run_getD _ _ (by decide)) _ settled).1.mp rfl).1⟩

end UpdateManager.Fsm
