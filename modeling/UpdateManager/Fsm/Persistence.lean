import UpdateManager.Fsm.Trace

/-!
# What survives a crash

`saveState` runs only at the end of `onStateChanged`. Over every run the stored blob is the
state of the last successful `saveState` (`reach_updateState`), a settled handler that has not
failed in memory holds it (`reach_coherent`), and a transition in flight was opened by its
event (`reach_started`); so `New` rebuilds the last saved state (`restart_rebuilds_saved_state`).
-/

namespace UpdateManager.Fsm

variable {M : ModuleModel}

/-! ### Fresh scheduler passes -/

def Stage.Fresh : Stage → Prop
  | .loop state => state.sched.running = []
  | .returned _ => True
  | _ => False

theorem Stage.Fresh.running {stage : Stage} (fresh : stage.Fresh) : stage.running = [] := by
  cases stage <;> first | rfl | exact fresh

theorem Stage.Fresh.ne_saving {stage : Stage} (fresh : stage.Fresh) : stage ≠ .saving := by
  rintro rfl
  exact fresh

theorem Stage.Fresh.ne_cleaning {stage : Stage} (fresh : stage.Fresh) : stage ≠ .cleaning := by
  rintro rfl
  exact fresh

theorem Stage.Fresh.isSettled {stage : Stage} (fresh : stage.Fresh) : stage.isSettled = false := by
  cases stage <;> first | rfl | exact fresh.elim

section Passes

variable (setup : Setup) (event : Event) (runtimeVendor : String → String)
  (statuses : StatusMap)

private theorem operationPass_fresh (err : Option String) (ids : List String) :
    (operationPass setup event runtimeVendor err statuses ids).2.Fresh := by
  unfold operationPass
  dsimp only
  split <;> first | exact trivial | rfl

private theorem rebootPass_fresh (err : Option String) (ids : List String) :
    (rebootPass setup event err statuses ids).2.Fresh := by
  unfold rebootPass
  dsimp only
  split <;> first | exact trivial | rfl

theorem passReturned_fresh (loop : LoopState) (result : Option String) :
    (passReturned setup event runtimeVendor statuses loop result).2.Fresh := by
  unfold passReturned
  split
  · exact trivial
  · split
    · split
      · exact trivial
      · exact rebootPass_fresh ..
    · exact operationPass_fresh ..

theorem componentOperation_fresh (order : List String) :
    (componentOperation setup event runtimeVendor statuses order).2.Fresh := by
  unfold componentOperation
  split
  · exact trivial
  · exact operationPass_fresh ..

end Passes

/-! ### The stored state -/

section Stored

variable {setup : Setup} {cfg next : Config M} {choice : Choice M} {label : Label}

theorem perform_updateState (request : ExtCall) (env : M.Env) (reply : Reply) :
    (perform setup cfg request env reply).2.1.updateState = cfg.storage.updateState := by
  unfold perform
  repeat' split
  all_goals rfl

theorem Label.stored_of_not_saved {label : Label} (unsaved : label.isSaved = false)
    (stored : Option HandlerState) : label.stored stored = stored := by
  unfold Label.stored
  split
  · simp [Label.isSaved] at unsaved
  · rfl

theorem advance_label (h : advance setup cfg = some (label, next)) :
    label = .control ∨ (∃ operation, label = .passed operation) ∨ ∃ id, label = .launch id := by
  obtain ⟨-, -, _, -, launch | barrier | returned | ended⟩ := advance_some h
  · obtain ⟨_, _, _, _, -, -, -, rfl, -⟩ := launch
    exact .inr (.inr ⟨_, rfl⟩)
  · obtain ⟨_, _, _, _, -, -, -, -, -, rfl, -⟩ := barrier
    exact .inl rfl
  · obtain ⟨_, _, -, -, -, rfl, -⟩ := returned
    exact .inr (.inl ⟨_, rfl⟩)
  · obtain ⟨_, -, rfl, -⟩ := ended
    exact .inl rfl

theorem step_updateState (stepped : step setup cfg choice = some (label, next)) :
    next.storage.updateState = label.stored cfg.storage.updateState := by
  cases choice with
  | send event order =>
      obtain ⟨-, -, rfl, same, -⟩ := sendEvent_some stepped
      rw [same]
      rfl
  | advance =>
      rw [(advance_some stepped).1]
      rcases advance_label stepped with rfl | ⟨_, rfl⟩ | ⟨_, rfl⟩ <;> rfl
  | goroutine index env reply =>
      obtain ⟨_, _, _, _, request, _, -, -, rfl, same, -⟩ := goroutineCall_some stepped
      rw [same, perform_updateState]
      rfl
  | finish index =>
      obtain ⟨_, _, _, _, _, _, -, -, rfl, same, -⟩ := goroutineFinish_some stepped
      rw [same]
      rfl
  | settle env =>
      obtain ⟨_, _, -, rfl, same, -⟩ := settle_some stepped
      rw [same]
      rfl
  | clean err kept =>
      obtain ⟨_, _, -, rfl, -, same, -⟩ := clean_some stepped
      rw [same]
      rfl
  | save err =>
      obtain ⟨_, _, -, rfl, -, -, -, stored | failed⟩ := save_some stepped
      · obtain ⟨rfl, same, -⟩ := stored
        rw [same]
        rfl
      · obtain ⟨message, rfl, same, -⟩ := failed
        rw [same]
        rfl
  | receive =>
      obtain ⟨rfl, -, same, -⟩ := receive_some stepped
      rw [same]
      rfl
  | restart restartEnv versionEnv =>
      cases stepped
      rfl

private theorem reach_updateState {start : Config M} {trace : List Label}
    (reach : Reach setup start cfg trace) :
    cfg.storage.updateState = savedState start.storage.updateState trace := by
  induction reach with
  | start => rfl
  | step choice _ stepped ih => rw [step_updateState stepped, ih, savedState_snoc]

theorem step_shows (stepped : step setup cfg choice = some (label, next)) :
    match label with
    | .accept event source => cfg.handler.flight = none ∧ source = cfg.handler.state ∧
        source.updateState ∈ event.sources
    | .save state _ => state = cfg.handler.state ∧
        ∃ event current, cfg.handler.flight = some ⟨event, current, .saving⟩
    | .restart state => state = cfg.storage.handlerState
    | _ => True := by
  cases choice with
  | send event order =>
      obtain ⟨settled, admissible, rfl, -⟩ := sendEvent_some stepped
      exact ⟨settled, rfl, admissible⟩
  | advance => rcases advance_label stepped with rfl | ⟨_, rfl⟩ | ⟨_, rfl⟩ <;> trivial
  | goroutine index env reply =>
      obtain ⟨_, _, _, _, _, _, -, -, rfl, -⟩ := goroutineCall_some stepped
      trivial
  | finish index =>
      obtain ⟨_, _, _, _, _, _, -, -, rfl, -⟩ := goroutineFinish_some stepped
      trivial
  | settle env =>
      obtain ⟨_, _, -, rfl, -⟩ := settle_some stepped
      trivial
  | clean err kept =>
      obtain ⟨_, _, -, rfl, -⟩ := clean_some stepped
      trivial
  | save err =>
      obtain ⟨event, current, inFlight, rfl, -⟩ := save_some stepped
      exact ⟨rfl, event, current, inFlight⟩
  | receive =>
      obtain ⟨rfl, -⟩ := receive_some stepped
      trivial
  | restart restartEnv versionEnv =>
      cases stepped
      rfl

end Stored

/-! ### The handler in memory against the stored blob -/

/-- A settled handler that has not failed in memory holds the stored state; once
`onStateChanged` has set it, its state is `fsm.Current()`. -/
structure Coherent (cfg : Config M) : Prop where
  settled : cfg.handler.flight = none → cfg.handler.state.updateState ≠ .failed →
    cfg.handler.state = cfg.storage.handlerState
  cleaning : ∀ event current, cfg.handler.flight = some ⟨event, current, .cleaning⟩ →
    cfg.handler.state.updateState = current
  saving : ∀ event current, cfg.handler.flight = some ⟨event, current, .saving⟩ →
    cfg.handler.state.updateState = current

private theorem Coherent.of_busy {cfg : Config M} (inFlight : cfg.handler.flight ≠ none)
    (busy : ∀ event current stage, cfg.handler.flight = some ⟨event, current, stage⟩ →
      stage ≠ .cleaning ∧ stage ≠ .saving) :
    Coherent cfg :=
  ⟨fun settled => absurd settled inFlight,
    fun event current cleaning => absurd rfl (busy event current _ cleaning).1,
    fun event current saving => absurd rfl (busy event current _ saving).2⟩

private theorem Coherent.of_current {cfg : Config M} (inFlight : cfg.handler.flight ≠ none)
    (current : ∀ event current stage, cfg.handler.flight = some ⟨event, current, stage⟩ →
      cfg.handler.state.updateState = current) :
    Coherent cfg :=
  ⟨fun settled => absurd settled inFlight, fun _ _ cleaning => current _ _ _ cleaning,
    fun _ _ saving => current _ _ _ saving⟩

section Memory

variable {setup : Setup} {cfg next : Config M} {choice : Choice M} {label : Label}

private theorem step_coherent (coherent : Coherent cfg) (stepped : step setup cfg choice = some (label, next)) :
    Coherent next := by
  cases choice with
  | send event order =>
      obtain ⟨-, -, -, -, -, started⟩ := sendEvent_some stepped
      obtain ⟨-, ⟨-, -, inFlight⟩ | ⟨-, -, -, inFlight⟩⟩ := startTransition_some started
      · exact Coherent.of_busy (by simp [inFlight]) (by simp [inFlight])
      · exact Coherent.of_busy (by simp [inFlight])
          (by simp [inFlight, (componentOperation_fresh ..).ne_saving,
            (componentOperation_fresh ..).ne_cleaning])
  | advance =>
      obtain ⟨-, -, flight, inFlight, launch | barrier | returned | ended⟩ := advance_some stepped
      · obtain ⟨_, _, _, _, -, -, -, -, same⟩ := launch
        exact Coherent.of_busy (by simp [same, inFlight]) (by simp [same, inFlight])
      · obtain ⟨_, _, _, _, -, -, -, -, -, -, same⟩ := barrier
        exact Coherent.of_busy (by simp [same, inFlight]) (by simp [same, inFlight])
      · obtain ⟨_, _, -, -, -, -, same⟩ := returned
        exact Coherent.of_busy (by simp [same, inFlight])
          (by simp [same, inFlight, (passReturned_fresh ..).ne_saving,
            (passReturned_fresh ..).ne_cleaning])
      · obtain ⟨_, -, -, same⟩ := ended
        exact Coherent.of_busy (by simp [same]) (by simp [same])
  | goroutine index env reply =>
      obtain ⟨_, _, _, _, _, _, inFlight, -, -, -, -, same⟩ := goroutineCall_some stepped
      exact Coherent.of_busy (by simp [same, inFlight]) (by simp [same, inFlight])
  | finish index =>
      obtain ⟨_, _, _, _, _, _, inFlight, -, -, -, -, same⟩ := goroutineFinish_some stepped
      exact Coherent.of_busy (by simp [same, inFlight]) (by simp [same, inFlight])
  | settle env =>
      obtain ⟨event, current, -, -, -, inFlight, state⟩ := settle_some stepped
      refine Coherent.of_current (by simp [inFlight]) fun event' current' stage' nextFlight => ?_
      rw [inFlight, Option.some.injEq, Flight.mk.injEq] at nextFlight
      rw [state, ← nextFlight.2.1]
  | clean err kept =>
      obtain ⟨event, current, inFlight, -, -, -, same⟩ := clean_some stepped
      have nextFlight := Handler.flight_of_withStage inFlight same
      refine Coherent.of_current (by simp [nextFlight]) fun event' current' stage' flight' => ?_
      rw [nextFlight, Option.some.injEq, Flight.mk.injEq] at flight'
      rw [same, Handler.withStage_state, ← flight'.2.1]
      exact coherent.cleaning event current inFlight
  | save err =>
      obtain ⟨_, _, -, -, -, settled, -, stored | failed⟩ := save_some stepped
      · obtain ⟨-, storage, state⟩ := stored
        refine ⟨fun _ _ => ?_, by simp [settled], by simp [settled]⟩
        rw [state, Storage.handlerState, storage]
        rfl
      · obtain ⟨_, -, -, state⟩ := failed
        exact ⟨fun _ notFailed => absurd (by rw [state]) notFailed, by simp [settled],
          by simp [settled]⟩
  | receive =>
      obtain ⟨-, settled, storage, -, state, flight, -⟩ := receive_some stepped
      refine ⟨fun _ => ?_, by simp [flight], by simp [flight]⟩
      rw [state, storage]
      exact coherent.settled settled
  | restart restartEnv versionEnv =>
      cases stepped
      exact ⟨fun _ _ => rfl, by simp, by simp⟩

theorem reach_coherent {start : Config M} {trace : List Label} (initial : Coherent start)
    (reach : Reach setup start cfg trace) : Coherent cfg := by
  induction reach with
  | start => exact initial
  | step _ _ stepped ih => exact step_coherent ih stepped

theorem boot_coherent (storage : Storage) (modules : String → M.State)
    (restartEnv versionEnv : String → M.Env) :
    Coherent (boot setup storage modules restartEnv versionEnv) :=
  ⟨fun _ _ => rfl, by simp [boot], by simp [boot]⟩

end Memory

/-! ### Transitions in flight -/

/-- A transition in flight was opened by its accepted event, and each goroutine it launched
has returned or is still running. -/
def Started (cfg : Config M) (trace : List Label) : Prop :=
  ∀ flight, cfg.handler.flight = some flight →
    (∃ pre source, trace = pre ++ .accept flight.event source :: since trace) ∧
      List.Perm (launches (since trace))
        (finishes (since trace) ++ flight.stage.running.map Thread.id)

section Flight

variable {setup : Setup} {cfg next : Config M} {choice : Choice M} {label : Label}
  {trace : List Label}

theorem extend_opened {pre : List Label} {event : Event} {source : HandlerState}
    (opened : trace = pre ++ .accept event source :: since trace) (inner : label.isBoundary = false) :
    trace ++ [label] = pre ++ .accept event source :: since (trace ++ [label]) := by
  rw [since_snoc, if_neg (by simp [inner])]
  conv_lhs => rw [opened]
  simp

theorem Started.inner {flight flight' : Flight} (started : Started cfg trace)
    (inFlight : cfg.handler.flight = some flight) (nextFlight : next.handler.flight = some flight')
    (sameEvent : flight'.event = flight.event) (inner : label.isBoundary = false)
    (count : List.Perm (launches (since trace))
        (finishes (since trace) ++ flight.stage.running.map Thread.id) →
      List.Perm (launches (since trace) ++ label.launched.toList)
        (finishes (since trace) ++ label.finished.toList ++ flight'.stage.running.map Thread.id)) :
    Started next (trace ++ [label]) := by
  intro current currentFlight
  rw [nextFlight] at currentFlight
  cases currentFlight
  obtain ⟨⟨pre, source, opened⟩, counted⟩ := started flight inFlight
  refine ⟨⟨pre, source, sameEvent ▸ extend_opened opened inner⟩, ?_⟩
  rw [since_snoc, if_neg (by simp [inner]), launches_snoc, finishes_snoc]
  exact count counted

private theorem step_started (started : Started cfg trace)
    (stepped : step setup cfg choice = some (label, next)) : Started next (trace ++ [label]) := by
  cases choice with
  | send event order =>
      obtain ⟨-, -, rfl, -, -, began⟩ := sendEvent_some stepped
      have opened : since (trace ++ [.accept event cfg.handler.state]) = [] := by
        simp [since_snoc, Label.isBoundary]
      intro flight inFlight
      have fresh : flight.event = event ∧ flight.stage.running = [] := by
        obtain ⟨-, ⟨-, -, flightEq⟩ | ⟨-, -, -, flightEq⟩⟩ := startTransition_some began <;>
          rw [flightEq] at inFlight <;> cases inFlight
        · exact ⟨rfl, rfl⟩
        · exact ⟨rfl, (componentOperation_fresh ..).running⟩
      rw [opened, fresh.1, fresh.2]
      exact ⟨⟨trace, cfg.handler.state, by simp⟩, by simp [launches, finishes]⟩
  | advance =>
      obtain ⟨-, -, flight, inFlight, launch | barrier | returned | ended⟩ := advance_some stepped
      · obtain ⟨loop, _, thread, _, atLoop, -, -, rfl, same⟩ := launch
        have nextFlight := Handler.flight_of_withStage inFlight same
        refine started.inner inFlight nextFlight rfl rfl fun counted => ?_
        simp only [atLoop, Stage.running, Label.launched, Label.finished] at counted ⊢
        simpa using counted.append_right [thread.id]
      · obtain ⟨loop, _, _, _, atLoop, -, -, idle, -, rfl, same⟩ := barrier
        have nextFlight := Handler.flight_of_withStage inFlight same
        refine started.inner inFlight nextFlight rfl rfl fun counted => ?_
        simpa [atLoop, Stage.running, idle, Label.launched, Label.finished] using counted
      · obtain ⟨loop, _, atLoop, idle, -, rfl, same⟩ := returned
        have nextFlight := Handler.flight_of_withStatuses inFlight same
        refine started.inner inFlight nextFlight rfl rfl fun counted => ?_
        rw [(passReturned_fresh ..).running]
        simpa [atLoop, Stage.running, idle, Label.launched, Label.finished] using counted
      · obtain ⟨_, atReturned, rfl, same⟩ := ended
        have nextFlight := congrArg Handler.flight same
        refine started.inner inFlight nextFlight rfl rfl fun counted => ?_
        simpa [atReturned, Stage.running, Label.launched, Label.finished] using counted
  | goroutine index env reply =>
      obtain ⟨_, _, loop, id, request, resume, inFlight, running, rfl, -, -, same⟩ :=
        goroutineCall_some stepped
      have nextFlight := Handler.flight_of_withStage inFlight same
      refine started.inner inFlight nextFlight rfl rfl fun counted => ?_
      simp only [Stage.running] at counted ⊢
      rw [ids_set running]
      simpa [Label.launched, Label.finished] using counted
  | finish index =>
      obtain ⟨_, _, loop, id, _, _, inFlight, running, rfl, -, -, same⟩ :=
        goroutineFinish_some stepped
      have nextFlight := Handler.flight_of_withStatuses inFlight same
      refine started.inner inFlight nextFlight rfl rfl fun counted => ?_
      have split := ((perm_cons_eraseIdx running).map Thread.id).append_left (finishes (since trace))
      simpa [Stage.running, Label.launched, Label.finished] using counted.trans split
  | settle env =>
      obtain ⟨_, _, inFlight, rfl, -, nextFlight, -⟩ := settle_some stepped
      refine started.inner inFlight nextFlight rfl rfl fun counted => ?_
      split <;> simpa [Stage.running, Label.launched, Label.finished] using counted
  | clean err kept =>
      obtain ⟨_, _, inFlight, rfl, -, -, same⟩ := clean_some stepped
      refine started.inner inFlight (Handler.flight_of_withStage inFlight same) rfl rfl
        fun counted => ?_
      simpa [Stage.running, Label.launched, Label.finished] using counted
  | save err =>
      obtain ⟨_, _, -, -, -, settled, -⟩ := save_some stepped
      intro flight inFlight
      rw [settled] at inFlight
      cases inFlight
  | receive =>
      obtain ⟨-, -, -, -, -, settled, -⟩ := receive_some stepped
      intro flight inFlight
      rw [settled] at inFlight
      cases inFlight
  | restart restartEnv versionEnv =>
      cases stepped
      intro flight inFlight
      cases inFlight

theorem reach_started {start : Config M} (initial : start.handler.flight = none)
    (reach : Reach setup start cfg trace) : Started cfg trace := by
  induction reach with
  | start =>
      intro flight inFlight
      rw [initial] at inFlight
      cases inFlight
  | step _ _ stepped ih => exact step_started ih stepped

end Flight

/-! ### What `New` rebuilds -/

/-- What `New` rebuilds after a crash, in a run from a storage that held no handler state:
the state of the last `saveState` that succeeded, or the zero state. That save ended a
transition no event or crash interrupted, once every goroutine the transition launched had
returned. If no save succeeded since an event was accepted from the stored state, `New`
rebuilds that state, in which the event is admissible again. -/
theorem restart_rebuilds_saved_state {setup : Setup} {storage : Storage}
    {modules : String → M.State} {restartEnv versionEnv : String → M.Env}
    (fresh : storage.updateState = none) {cfg : Config M} {trace : List Label}
    (reach : Reach setup (boot setup storage modules restartEnv versionEnv) cfg trace)
    {before after : List Label} {state : HandlerState}
    (split : trace = before ++ .restart state :: after) :
    state = (savedState none before).getD .initial ∧
      (∀ saved, savedState none before = some saved →
        ∃ pre event source log post,
          before = pre ++ .accept event source :: (log ++ .save saved none :: post) ∧ Quiet log ∧
            List.Perm (launches log) (finishes log) ∧ ∀ label ∈ post, label.isSaved = false) ∧
      (∀ pre event source log, before = pre ++ .accept event source :: log →
        (∀ label ∈ log, label.isSaved = false) → source = (savedState none pre).getD .initial →
        state = source ∧ source.updateState ∈ event.sources) := by
  obtain ⟨cfg', _, _, reach', stepped⟩ := reach.prefix split
  have rebuilt : state = (savedState none before).getD .initial := by
    rw [show state = cfg'.storage.handlerState from step_shows stepped, Storage.handlerState,
      reach_updateState reach']
    simp [boot, fresh]
  refine ⟨rebuilt, ?_, ?_⟩
  · intro saved last
    obtain ⟨saving, post, rfl, calm⟩ := savedState_eq_some before saved last
    obtain ⟨cfg'', _, _, reach'', saved'⟩ := reach'.prefix rfl
    obtain ⟨-, event, current, inFlight⟩ := step_shows saved'
    obtain ⟨⟨pre, source, opened⟩, counted⟩ :=
      reach_started (by simp [boot]) reach'' _ inFlight
    refine ⟨pre, event, source, since saving, post, ?_, since_quiet saving,
      by simpa [Stage.running] using counted, calm⟩
    conv_lhs => rw [opened]
    simp
  · intro pre event source log opened unsaved stored
    obtain ⟨_, _, _, -, accepted⟩ := reach.prefix (show trace = pre ++ .accept event source ::
      (log ++ .restart state :: after) by rw [split, opened]; simp)
    refine ⟨?_, (step_shows accepted).2.2⟩
    rw [rebuilt, stored, opened, show pre ++ .accept event source :: log =
      (pre ++ [.accept event source]) ++ log by simp, savedState_quiet_calm none _ log unsaved,
      savedState_snoc]
    rfl

/-! ### A failed save -/

def emptySetup : Setup where
  components := fun _ => none
  downloadDir := "/var/aos/download"
  parseUrl := fun url => .ok ("file", url)

def emptyStart : Config anyModule :=
  boot emptySetup ⟨none, fun _ => none, fun _ => none, []⟩ (fun _ => ()) (fun _ => {})
    (fun _ => {})

def emptyPrepareFailed : HandlerState :=
  { updateState := .failed, error := "Prepare componenet list is empty",
    componentStatuses := .empty }

def failedSaveRun : List (Choice anyModule) :=
  [.send (.prepare []) [], .settle (fun _ => {}), .save (some "disk full"), .send .revert [],
    .restart (fun _ => {}) (fun _ => {})]

def failedSaveLabels : List Label :=
  [.accept (.prepare []) .initial, .settle .failed, .save emptyPrepareFailed (some "disk full"),
    .accept .revert emptyPrepareFailed, .restart .initial]

/-- After the failed save the revert starts from the failed state, but `New` rebuilds the
zero state: neither the state the revert started from nor one it settled in, and a revert is
not admissible in it. -/
theorem restart_after_failed_save :
    (∃ cfg, Reach emptySetup emptyStart cfg failedSaveLabels) ∧
      HandlerState.initial ≠ emptyPrepareFailed ∧
      HandlerState.initial.updateState ∉ Event.revert.sources :=
  ⟨Reach.of_run_labels failedSaveRun (by decide), by decide, by decide⟩

/-- The same crash read by `restart_rebuilds_saved_state`: no save succeeded, so `New`
rebuilds the zero state. -/
theorem failed_save_rebuilds_initial :
    HandlerState.initial = (savedState none (failedSaveLabels.take 4)).getD .initial := by
  obtain ⟨cfg, reach⟩ : ∃ cfg, Reach emptySetup emptyStart cfg failedSaveLabels :=
    Reach.of_run_labels failedSaveRun (by decide)
  exact (restart_rebuilds_saved_state rfl reach
    (show failedSaveLabels = failedSaveLabels.take 4 ++ [.restart .initial] by decide)).1

end UpdateManager.Fsm
