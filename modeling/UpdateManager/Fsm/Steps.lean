import UpdateManager.Fsm.Machine

/-!
# What each step can do

One lemma per action of `step`: the guards the action passed, the label it showed and the
configuration it made. The invariants of the later modules are proved from these lemmas and
never unfold an action again.
-/

namespace UpdateManager.Fsm

variable {M : ModuleModel}

namespace Handler

variable (handler : Handler)

@[simp] theorem withStage_state (stage : Stage) : (handler.withStage stage).state = handler.state :=
  rfl

@[simp] theorem withStage_runtimeVendor (stage : Stage) :
    (handler.withStage stage).runtimeVendor = handler.runtimeVendor := rfl

@[simp] theorem withStage_flight (stage : Stage) :
    (handler.withStage stage).flight =
      handler.flight.map fun flight => { flight with stage := stage } := rfl

@[simp] theorem withStatuses_state (statuses : StatusMap) :
    (handler.withStatuses statuses).state =
      { handler.state with componentStatuses := statuses } := rfl

@[simp] theorem withStatuses_runtimeVendor (statuses : StatusMap) :
    (handler.withStatuses statuses).runtimeVendor = handler.runtimeVendor := rfl

@[simp] theorem withStatuses_flight (statuses : StatusMap) :
    (handler.withStatuses statuses).flight = handler.flight := rfl

theorem flight_of_withStage {handler next : Handler} {flight : Flight} {stage : Stage}
    (inFlight : handler.flight = some flight) (same : next = handler.withStage stage) :
    next.flight = some { flight with stage := stage } := by
  rw [same, withStage_flight, inFlight, Option.map_some']

theorem flight_of_withStatuses {handler next : Handler} {flight : Flight} {statuses : StatusMap}
    {stage : Stage} (inFlight : handler.flight = some flight)
    (same : next = (handler.withStatuses statuses).withStage stage) :
    next.flight = some { flight with stage := stage } := by
  rw [same, withStage_flight, withStatuses_flight, inFlight, Option.map_some']

end Handler

def Stage.isSettled : Stage → Bool
  | .cleaning => true
  | .saving => true
  | _ => false

@[simp] theorem finishThread_sched (statuses : StatusMap) (loop : LoopState) (sched : Sched)
    (id : String) (rebootRequired : Bool) (err : Option String) :
    (finishThread statuses loop sched id rebootRequired err).2.sched = sched := by
  unfold finishThread
  split <;> rfl

section Inversion

variable {setup : Setup} {cfg next : Config M} {label : Label}

theorem startTransition_some {handler started : Handler} {event : Event} {order : List String}
    (h : startTransition setup handler event order = some started) :
    started.runtimeVendor = handler.runtimeVendor ∧
      ((event = .prepare [] ∧
          started.state = { handler.state with
            error := "Prepare componenet list is empty", componentStatuses := .empty } ∧
          started.flight = some ⟨event, .failed, .settling⟩) ∨
        (event ≠ .prepare [] ∧ order.isPerm (event.statuses handler.state.componentStatuses).ids ∧
          started.state = { handler.state with
            error := "",
            componentStatuses := (componentOperation setup event handler.runtimeVendor
              (event.statuses handler.state.componentStatuses) order).1 } ∧
          started.flight = some ⟨event, event.destination, (componentOperation setup event
            handler.runtimeVendor (event.statuses handler.state.componentStatuses) order).2⟩)) := by
  unfold startTransition at h
  split at h
  · cases h
    exact ⟨rfl, .inl ⟨rfl, rfl, rfl⟩⟩
  · rename_i notEmpty
    dsimp only at h
    split at h
    · cases h
      exact ⟨rfl, .inr ⟨notEmpty, ‹_›, rfl, rfl⟩⟩
    · cases h

theorem sendEvent_some {event : Event} {order : List String}
    (sent : sendEvent setup cfg event order = some (label, next)) :
    cfg.handler.flight = none ∧ cfg.handler.state.updateState ∈ event.sources ∧
      label = .accept event cfg.handler.state ∧ next.storage = cfg.storage ∧
      next.modules = cfg.modules ∧ startTransition setup cfg.handler event order = some next.handler := by
  unfold sendEvent at sent
  split at sent
  · cases sent
  · rename_i settled
    split at sent
    · cases sent
    split at sent
    · obtain ⟨handler, started, same⟩ := Option.map_eq_some'.mp sent
      cases same
      exact ⟨settled, ‹_›, rfl, rfl, rfl, started⟩
    · cases sent

theorem advance_some (h : advance setup cfg = some (label, next)) :
    next.storage = cfg.storage ∧ next.modules = cfg.modules ∧
      ∃ flight, cfg.handler.flight = some flight ∧
        ((∃ loop priority thread rest, flight.stage = .loop loop ∧
            loop.sched.pending = (priority, thread) :: rest ∧ priority = loop.sched.priority ∧
            label = .launch thread.id ∧
            next.handler = cfg.handler.withStage (.loop { loop with sched := { loop.sched with
              pending := rest, running := loop.sched.running ++ [thread] } })) ∨
          (∃ loop priority thread rest, flight.stage = .loop loop ∧
            loop.sched.pending = (priority, thread) :: rest ∧ priority ≠ loop.sched.priority ∧
            loop.sched.running = [] ∧
            (loop.sched.groupErr = none ∨ flight.event.stopOnError = false) ∧ label = .control ∧
            next.handler = cfg.handler.withStage (.loop { loop with sched := { loop.sched with
              priority := priority, groupErr := none,
              err := loop.sched.err.or loop.sched.groupErr } })) ∨
          (∃ loop result, flight.stage = .loop loop ∧ loop.sched.running = [] ∧
            ((∃ priority thread rest, loop.sched.pending = (priority, thread) :: rest ∧
                priority ≠ loop.sched.priority ∧ flight.event.stopOnError = true ∧
                result = loop.sched.groupErr ∧ result.isSome) ∨
              (loop.sched.pending = [] ∧ result = loop.sched.err.or loop.sched.groupErr)) ∧
            label = .passed loop.pass.isOperation ∧
            next.handler = (cfg.handler.withStatuses (passReturned setup flight.event
              cfg.handler.runtimeVendor cfg.handler.state.componentStatuses loop result).1).withStage
              (passReturned setup flight.event cfg.handler.runtimeVendor
                cfg.handler.state.componentStatuses loop result).2) ∨
          (∃ err, flight.stage = .returned err ∧ label = .control ∧
            next.handler = { cfg.handler with
              state := (callbackReturned flight.event err cfg.handler.state flight.current).1
              flight := some ⟨flight.event,
                (callbackReturned flight.event err cfg.handler.state flight.current).2,
                .settling⟩ })) := by
  unfold advance at h
  split at h
  · cases h
  · rename_i flight inFlight
    split at h
    · rename_i loop atLoop
      dsimp only at h
      split at h
      · rename_i priority thread rest pending
        split at h
        · cases h
          exact ⟨rfl, rfl, flight, inFlight, .inl ⟨loop, priority, thread, rest, atLoop, pending,
            ‹_›, rfl, rfl⟩⟩
        · rename_i other
          split at h
          · rename_i idle
            split at h
            · rename_i err groupErr stop
              cases h
              exact ⟨rfl, rfl, flight, inFlight, .inr (.inr (.inl ⟨loop, some err, atLoop,
                List.isEmpty_iff.mp idle, .inl ⟨priority, thread, rest, pending, other, stop,
                groupErr.symm, rfl⟩,
                rfl, rfl⟩))⟩
            · rename_i groupErr stop notBoth
              cases h
              refine ⟨rfl, rfl, flight, inFlight, .inr (.inl ⟨loop, priority, thread, rest, atLoop,
                pending, other, List.isEmpty_iff.mp idle, ?_, rfl, rfl⟩)⟩
              cases hErr : loop.sched.groupErr with
              | none => exact .inl rfl
              | some err =>
                  cases hStop : flight.event.stopOnError with
                  | false => exact .inr rfl
                  | true => exact absurd (notBoth err hErr hStop) id
          · cases h
      · rename_i pending
        split at h
        · rename_i idle
          cases h
          exact ⟨rfl, rfl, flight, inFlight, .inr (.inr (.inl ⟨loop, _, atLoop,
            List.isEmpty_iff.mp idle, .inr ⟨pending, rfl⟩, rfl, rfl⟩))⟩
        · cases h
    · rename_i err returned
      cases h
      exact ⟨rfl, rfl, flight, inFlight, .inr (.inr (.inr ⟨err, returned, rfl, rfl⟩))⟩
    all_goals cases h

theorem goroutineCall_some {index : Nat} {env : M.Env} {reply : Reply}
    (h : goroutineCall setup cfg index env reply = some (label, next)) :
    ∃ event current loop id request resume,
      cfg.handler.flight = some ⟨event, current, .loop loop⟩ ∧
      loop.sched.running[index]? = some ⟨id, .call request resume⟩ ∧
      label = .call id request (perform setup cfg request env reply).1 ∧
      next.storage = (perform setup cfg request env reply).2.1 ∧
      next.modules = (perform setup cfg request env reply).2.2 ∧
      next.handler = cfg.handler.withStage (.loop { loop with sched := { loop.sched with
        running := loop.sched.running.set index
          ⟨id, resume (perform setup cfg request env reply).1⟩ } }) := by
  unfold goroutineCall at h
  split at h
  · rename_i event current loop inFlight
    split at h
    · rename_i id request resume running
      cases h
      exact ⟨event, current, loop, id, request, resume, inFlight, running, rfl, rfl, rfl, rfl⟩
    · cases h
  · cases h

theorem goroutineFinish_some {index : Nat} (h : goroutineFinish cfg index = some (label, next)) :
    ∃ event current loop id rebootRequired err,
      cfg.handler.flight = some ⟨event, current, .loop loop⟩ ∧
      loop.sched.running[index]? = some ⟨id, .pure (rebootRequired, err)⟩ ∧
      label = .finish id (rebootRequired, err) ∧ next.storage = cfg.storage ∧
      next.modules = cfg.modules ∧
      next.handler =
        let sched := { loop.sched with
          running := loop.sched.running.eraseIdx index
          groupErr := loop.sched.groupErr.or err }
        let finished :=
          finishThread cfg.handler.state.componentStatuses loop sched id rebootRequired err
        (cfg.handler.withStatuses finished.1).withStage (.loop finished.2) := by
  unfold goroutineFinish at h
  split at h
  · rename_i event current loop inFlight
    split at h
    · rename_i id rebootRequired err running
      cases h
      exact ⟨event, current, loop, id, rebootRequired, err, inFlight, running, rfl, rfl, rfl, rfl⟩
    · cases h
  · cases h

theorem settle_some {env : String → M.Env} (h : settle setup cfg env = some (label, next)) :
    ∃ event current, cfg.handler.flight = some ⟨event, current, .settling⟩ ∧
      label = .settle current ∧ next.storage = cfg.storage ∧
      next.handler.flight = some ⟨event, current,
        if current = .idle ∧ setup.downloadDir ≠ "" then .cleaning else .saving⟩ ∧
      next.handler.state = { cfg.handler.state with
        updateState := current,
        componentStatuses := if current = .idle then cfg.handler.state.componentStatuses.purge
          else cfg.handler.state.componentStatuses } := by
  unfold settle at h
  split at h
  · rename_i event current inFlight
    refine ⟨event, current, inFlight, ?_⟩
    split at h
    · rename_i idle
      cases h
      by_cases named : setup.downloadDir ≠ ""
      · simp [idle, named]
      · simp [idle, named]
    · rename_i busy
      cases h
      simp [busy]
  · cases h

theorem clean_some {err : Option String} {kept : String → Bool}
    (h : clean cfg err kept = some (label, next)) :
    ∃ event current, cfg.handler.flight = some ⟨event, current, .cleaning⟩ ∧
      label = .clean err ∧ next.modules = cfg.modules ∧
      next.storage = { cfg.storage with
        downloads := if err = none then [] else cfg.storage.downloads.filter kept } ∧
      next.handler = cfg.handler.withStage .saving := by
  unfold clean at h
  split at h
  · rename_i event current inFlight
    cases h
    exact ⟨event, current, inFlight, rfl, rfl, rfl, rfl⟩
  · cases h

theorem save_some {err : Option String} (h : save cfg err = some (label, next)) :
    ∃ event current, cfg.handler.flight = some ⟨event, current, .saving⟩ ∧
      label = .save cfg.handler.state err ∧ next.modules = cfg.modules ∧
      next.handler.flight = none ∧ next.handler.runtimeVendor = cfg.handler.runtimeVendor ∧
      ((err = none ∧ next.storage = { cfg.storage with updateState := some cfg.handler.state } ∧
          next.handler.state = cfg.handler.state) ∨
        (∃ message, err = some message ∧ next.storage = cfg.storage ∧
          next.handler.state = { cfg.handler.state with
            error := if cfg.handler.state.error = "" then message else cfg.handler.state.error
            updateState := .failed })) := by
  unfold save at h
  split at h
  · rename_i event current inFlight
    refine ⟨event, current, inFlight, ?_⟩
    split at h
    · cases h
      exact ⟨rfl, rfl, rfl, rfl, .inl ⟨rfl, rfl, rfl⟩⟩
    · rename_i message
      cases h
      exact ⟨rfl, rfl, rfl, rfl, .inr ⟨message, rfl, rfl, rfl⟩⟩
  · cases h

theorem receive_some (h : receive cfg = some (label, next)) :
    label = .received ∧ cfg.handler.flight = none ∧ next.storage = cfg.storage ∧
      next.modules = cfg.modules ∧ next.handler.state = cfg.handler.state ∧
      next.handler.flight = none ∧ next.handler.runtimeVendor = cfg.handler.runtimeVendor := by
  unfold receive at h
  split at h
  · rename_i settled _
    cases h
    exact ⟨rfl, settled, rfl, rfl, rfl, settled, rfl⟩
  · cases h

end Inversion

section Restart

variable (setup : Setup) (cfg : Config M) (restartEnv versionEnv : String → M.Env)

@[simp] theorem restart_storage : (restart setup cfg restartEnv versionEnv).storage = cfg.storage :=
  rfl

@[simp] theorem restart_state :
    (restart setup cfg restartEnv versionEnv).handler.state = cfg.storage.handlerState := rfl

@[simp] theorem restart_flight : (restart setup cfg restartEnv versionEnv).handler.flight = none :=
  rfl

end Restart

/-! ### The status channel -/

section Channel

variable {setup : Setup} {cfg next : Config M} {choice : Choice M} {label : Label}

private theorem startTransition_queued {handler started : Handler} {event : Event} {order : List String}
    (began : startTransition setup handler event order = some started) :
    started.queued = handler.queued := by
  unfold startTransition at began
  split at began
  · cases began
    rfl
  · dsimp only at began
    split at began
    · cases began
      rfl
    · cases began

theorem sendEvent_room {event : Event} {order : List String}
    (sent : sendEvent setup cfg event order = some (label, next)) :
    cfg.handler.queued ≤ statusChannelSize := by
  unfold sendEvent at sent
  split at sent
  · cases sent
  · split at sent
    · cases sent
    · omega

theorem step_queued (stepped : step setup cfg choice = some (label, next)) :
    match choice with
    | .save _ => next.handler.queued = cfg.handler.queued + 1
    | .receive => next.handler.queued + 1 = cfg.handler.queued
    | .restart .. => next.handler.queued = 0
    | _ => next.handler.queued = cfg.handler.queued := by
  cases choice with
  | send event order => exact startTransition_queued (sendEvent_some stepped).2.2.2.2.2
  | advance =>
      show next.handler.queued = cfg.handler.queued
      obtain ⟨-, -, _, -, ⟨_, _, _, _, -, -, -, -, same⟩ | ⟨_, _, _, _, -, -, -, -, -, -, same⟩ |
        ⟨_, _, -, -, -, -, same⟩ | ⟨_, -, -, same⟩⟩ := advance_some stepped <;> rw [same] <;> rfl
  | goroutine index env reply =>
      obtain ⟨_, _, _, _, _, _, -, -, -, -, -, same⟩ := goroutineCall_some stepped
      show next.handler.queued = cfg.handler.queued
      rw [same]
      rfl
  | finish index =>
      obtain ⟨_, _, _, _, _, _, -, -, -, -, -, same⟩ := goroutineFinish_some stepped
      show next.handler.queued = cfg.handler.queued
      rw [same]
      rfl
  | clean err kept =>
      obtain ⟨_, _, -, -, -, -, same⟩ := clean_some stepped
      show next.handler.queued = cfg.handler.queued
      rw [same]
      rfl
  | settle env | save err =>
      simp only [step, settle, save] at stepped ⊢
      repeat' split at stepped
      all_goals cases stepped
      all_goals rfl
  | receive =>
      show next.handler.queued + 1 = cfg.handler.queued
      simp only [step, receive] at stepped
      split at stepped
      · rename_i waiting
        cases stepped
        exact waiting.symm
      · cases stepped
  | restart restartEnv versionEnv =>
      cases stepped
      rfl

end Channel

end UpdateManager.Fsm
