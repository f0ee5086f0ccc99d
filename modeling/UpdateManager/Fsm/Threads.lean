import UpdateManager.Fsm.Persistence

/-!
# The goroutines of a transition

What holds of the goroutines of every pass of every reachable transition (`reach_flightOk`):
each belongs to a distinct component of the status map, and a running one is where its code
leads after the calls the trace shows for it. A transition changes only the `Status` and
`Error` fields of the statuses (`StatusMap.Like`).
-/

namespace UpdateManager.Fsm

variable {M : ModuleModel}

/-! ### Statuses that keep their versions -/

/-- What a transition never changes in a status: its id and its versions. -/
def ComponentStatusInfo.key (status : ComponentStatusInfo) : String × String × Nat :=
  (status.id, status.vendorVersion, status.aosVersion)

def StatusMap.Like (first second : StatusMap) : Prop :=
  first.entries.map ComponentStatusInfo.key = second.entries.map ComponentStatusInfo.key

namespace StatusMap

variable {first second third : StatusMap}

theorem Like.refl (statuses : StatusMap) : statuses.Like statuses := rfl

theorem Like.symm (like : first.Like second) : second.Like first := Eq.symm like

theorem Like.trans (like : first.Like second) (like' : second.Like third) : first.Like third :=
  Eq.trans like like'

theorem Like.ids (like : first.Like second) : first.ids = second.ids := by
  have same := congrArg (List.map Prod.fst) like
  simpa [List.map_map, Function.comp_def, ComponentStatusInfo.key] using same

private theorem find?_key (statuses : StatusMap) (id : String) :
    (statuses.find? id).map ComponentStatusInfo.key =
      (statuses.entries.map ComponentStatusInfo.key).find? (fun key => key.1 == id) := by
  rw [List.find?_map]
  rfl

theorem Like.find? (like : first.Like second) (id : String) :
    (first.find? id).map ComponentStatusInfo.key = (second.find? id).map ComponentStatusInfo.key := by
  rw [find?_key, find?_key, like]

private theorem componentError_like (statuses : StatusMap) (id message : String) :
    (statuses.componentError id message).Like statuses := by
  unfold Like componentError modify
  rw [List.map_map]
  apply List.map_congr_left
  intro status _
  by_cases hit : status.id = id <;> simp [hit, ComponentStatusInfo.key]

end StatusMap

private theorem applyOperation_key {status other : Option ComponentStatusInfo} (id : String)
    (same : status.map ComponentStatusInfo.key = other.map ComponentStatusInfo.key) :
    applyOperation status id = applyOperation other id := by
  cases status <;> cases other <;> simp only [Option.map_none', Option.map_some',
    reduceCtorEq, Option.some.injEq] at same
  · rfl
  · simp only [ComponentStatusInfo.key, Prod.mk.injEq] at same
    simp only [applyOperation, same.1, same.2.2]

private theorem Event.operation_like {first second : StatusMap} (like : first.Like second) (setup : Setup)
    (runtimeVendor : String → String) (event : Event) :
    event.operation setup runtimeVendor first = event.operation setup runtimeVendor second := by
  cases event with
  | update =>
      funext id
      have versions := congrArg (Option.map fun key => key.2.1) (like.find? id)
      simp only [Option.map_map, Function.comp_def, ComponentStatusInfo.key] at versions
      simp only [Event.operation, versions]
  | apply =>
      funext id
      exact applyOperation_key id (like.find? id)
  | prepare infos => rfl
  | revert => rfl

/-! ### What a goroutine runs -/

/-- The code a goroutine of the pass runs for the component `id`. -/
def passClosure (setup : Setup) (handler : Handler) (event : Event) :
    Pass → String → Io (Bool × Option String)
  | .operation => event.operation setup handler.runtimeVendor handler.state.componentStatuses
  | .reboot _ => rebootOperation

private theorem passClosure_like {handler handler' : Handler} (setup : Setup) (event : Event) (pass : Pass)
    (vendor : handler'.runtimeVendor = handler.runtimeVendor)
    (like : handler'.state.componentStatuses.Like handler.state.componentStatuses) :
    passClosure setup handler' event pass = passClosure setup handler event pass := by
  cases pass with
  | operation => simp only [passClosure, vendor, Event.operation_like like]
  | reboot blamed => rfl

/-- What the goroutine of the component `id` may ask for: `Apply` only of its own module and
only in the operation pass of an apply, and `SetAosVersion` only there, with the id and the
Aos version of the component's status. -/
def Permitted (event : Event) (pass : Pass) (status : Option ComponentStatusInfo) (id : String)
    (request : ExtCall) : Prop :=
  (∀ target, request = .module target .apply → event = .apply ∧ pass = .operation ∧ target = id) ∧
    ∀ target version, request = .setAosVersion target version →
      event = .apply ∧ pass = .operation ∧
        status.map (fun status => (status.id, status.aosVersion)) = some (target, version)

theorem passClosure_permitted (setup : Setup) (handler : Handler) (event : Event) (pass : Pass)
    (id : String) :
    (passClosure setup handler event pass id).Only
      (Permitted event pass (handler.state.componentStatuses.find? id) id) := by
  have harmless : ∀ request, Harmless request →
      Permitted event pass (handler.state.componentStatuses.find? id) id request :=
    fun request ⟨noApply, noWrite⟩ =>
      ⟨fun target same => absurd same (noApply target),
        fun target version same => absurd same (noWrite target version)⟩
  cases pass with
  | reboot blamed => exact (rebootOperation_harmless id).mono harmless
  | operation =>
      cases event with
      | prepare infos => exact (prepareOperation_harmless ..).mono harmless
      | update => exact (updateOperation_harmless ..).mono harmless
      | apply =>
          exact (applyOperation_calls _ id).mono fun request ⟨applies, writes⟩ =>
            ⟨fun target same => ⟨rfl, rfl, applies target same⟩,
              fun target version same => ⟨rfl, rfl, writes target version same⟩⟩
      | revert => exact (revertOperation_harmless id).mono harmless

/-! ### New passes -/

/-- What the lookup loop of `doOperation` or `doReboot` made of `ids`: with `stopOnError` an
unregistered component ends it with an error; otherwise one goroutine per registered
component, in order. -/
def Collected (setup : Setup) (stopOnError : Bool)
    (operation : String → Io (Bool × Option String)) (ids : List String) :
    Except String (List (Nat × Thread)) → Prop
  | .error _ => stopOnError = true
  | .ok operations =>
      operations.map Prod.snd =
          (ids.filter fun id => (setup.components id).isSome).map (fun id => ⟨id, operation id⟩) ∧
        (stopOnError = true → ∀ id ∈ ids, (setup.components id).isSome)

theorem collectOperations_spec (setup : Setup) (stopOnError : Bool)
    (priorityOf : ComponentData → Nat) (operation : String → Io (Bool × Option String))
    (ids : List String) (statuses : StatusMap) :
    (collectOperations setup stopOnError priorityOf operation statuses ids).1.Like statuses ∧
      Collected setup stopOnError operation ids
        (collectOperations setup stopOnError priorityOf operation statuses ids).2 := by
  induction ids generalizing statuses with
  | nil => exact ⟨.refl _, rfl, fun _ _ member => by cases member⟩
  | cons id rest ih =>
      unfold collectOperations
      split
      · rename_i missing
        dsimp only
        split
        · exact ⟨StatusMap.componentError_like .., ‹_›⟩
        · rename_i continuing
          obtain ⟨like, collected⟩ := ih (statuses.componentError id ("component " ++ id ++ " not found"))
          refine ⟨like.trans (StatusMap.componentError_like ..), ?_⟩
          revert collected
          cases (collectOperations setup stopOnError priorityOf operation
            (statuses.componentError id ("component " ++ id ++ " not found")) rest).2 with
          | error message => exact fun stop => stop
          | ok operations =>
              rintro ⟨threads, -⟩
              refine ⟨by simpa [List.filter_cons, missing] using threads, fun stop => ?_⟩
              simp [stop] at continuing
      · rename_i component found
        obtain ⟨like, collected⟩ := ih statuses
        refine ⟨like, ?_⟩
        revert collected
        dsimp only
        cases (collectOperations setup stopOnError priorityOf operation statuses rest).2 with
        | error message => exact fun stop => stop
        | ok operations =>
            rintro ⟨threads, registered⟩
            refine ⟨by simp [List.filter_cons, found, threads], fun stop id' member => ?_⟩
            rcases List.mem_cons.mp member with rfl | inner
            · simp [found]
            · exact registered stop id' inner

theorem Sched.start_pending (operations : List (Nat × Thread)) :
    List.Perm (Sched.start operations).pending operations :=
  List.perm_insertionSort _ operations

theorem operationPass_spec (setup : Setup) (event : Event) (runtimeVendor : String → String)
    (err : Option String) (statuses : StatusMap) (ids : List String) :
    (operationPass setup event runtimeVendor err statuses ids).1.Like statuses ∧
      ((∃ message, (operationPass setup event runtimeVendor err statuses ids).2 =
          .returned (some message) ∧ event.stopOnError = true) ∨
        ∃ operations, (operationPass setup event runtimeVendor err statuses ids).2 =
            .loop ⟨err, .operation, Sched.start operations, []⟩ ∧
          Collected setup event.stopOnError (event.operation setup runtimeVendor statuses) ids
            (.ok operations)) := by
  obtain ⟨like, collected⟩ := collectOperations_spec setup event.stopOnError
    ComponentData.updatePriority (event.operation setup runtimeVendor statuses) ids statuses
  unfold operationPass doOperation
  dsimp only
  split
  · rename_i message same
    rw [same] at collected
    exact ⟨like, .inl ⟨message, rfl, collected⟩⟩
  · rename_i operations same
    rw [same] at collected
    exact ⟨like, .inr ⟨operations, rfl, collected⟩⟩

theorem rebootPass_spec (setup : Setup) (event : Event) (err : Option String)
    (statuses : StatusMap) (ids : List String) :
    (rebootPass setup event err statuses ids).1.Like statuses ∧
      ((∃ message, (rebootPass setup event err statuses ids).2 = .returned (some message) ∧
          event.stopOnError = true) ∨
        ∃ operations, (rebootPass setup event err statuses ids).2 =
            .loop ⟨err, .reboot (ids.getLast?.getD ""), Sched.start operations, ids⟩ ∧
          Collected setup event.stopOnError rebootOperation ids (.ok operations)) := by
  obtain ⟨like, collected⟩ := collectOperations_spec setup event.stopOnError
    ComponentData.rebootPriority rebootOperation ids statuses
  unfold rebootPass doReboot
  dsimp only
  split
  · rename_i message same
    rw [same] at collected
    exact ⟨like, .inl ⟨message, rfl, collected⟩⟩
  · rename_i operations same
    rw [same] at collected
    exact ⟨like, .inr ⟨operations, rfl, collected⟩⟩

theorem passReturned_spec (setup : Setup) (event : Event) (runtimeVendor : String → String)
    (statuses : StatusMap) (loop : LoopState) (result : Option String) :
    (passReturned setup event runtimeVendor statuses loop result).1.Like statuses ∧
      ∀ next, (passReturned setup event runtimeVendor statuses loop result).2 = .loop next →
        (loop.pass.isOperation = true ∧ ∃ operations,
            next = ⟨loop.err.or result, .reboot (loop.statuses.getLast?.getD ""),
              Sched.start operations, loop.statuses⟩ ∧
            Collected setup event.stopOnError rebootOperation loop.statuses (.ok operations)) ∨
          (loop.pass.isOperation = false ∧ ∃ operations,
            next = ⟨loop.err.or result, .operation, Sched.start operations, []⟩ ∧
            Collected setup event.stopOnError (event.operation setup runtimeVendor statuses)
              loop.statuses (.ok operations)) := by
  unfold passReturned
  split
  · exact ⟨.refl _, fun next same => by cases same⟩
  · rename_i result _ _ _
    cases hPass : loop.pass with
    | operation =>
        simp only
        split
        · exact ⟨.refl _, fun next same => by cases same⟩
        · obtain ⟨like, returned | ⟨operations, same, collected⟩⟩ :=
            rebootPass_spec setup event (loop.err.or result) statuses loop.statuses
          · obtain ⟨message, same, -⟩ := returned
            exact ⟨like, fun next stage => by rw [same] at stage; cases stage⟩
          · refine ⟨like, fun next stage => .inl ⟨rfl, operations, ?_, collected⟩⟩
            rw [same] at stage
            cases stage
            rfl
    | reboot blamed =>
        simp only
        obtain ⟨like, returned | ⟨operations, same, collected⟩⟩ :=
          operationPass_spec setup event runtimeVendor (loop.err.or result) statuses loop.statuses
        · obtain ⟨message, same, -⟩ := returned
          exact ⟨like, fun next stage => by rw [same] at stage; cases stage⟩
        · refine ⟨like, fun next stage => .inr ⟨rfl, operations, ?_, collected⟩⟩
          rw [same] at stage
          cases stage
          rfl

/-! ### The invariant of a pass -/

/-- The components a scheduler has not launched yet or still waits for. -/
def Sched.ids (sched : Sched) : List String :=
  sched.pending.map (fun item => item.2.id) ++ sched.running.map Thread.id

def LoopState.held (loop : LoopState) : List String :=
  if loop.pass.isOperation then loop.statuses else []

/-- The goroutines of a pass, against the labels `log` of its transition so far. -/
structure PassOk (setup : Setup) (handler : Handler) (event : Event) (log : List Label)
    (loop : LoopState) : Prop where
  distinct : (loop.sched.ids ++ loop.held).Nodup
  rebooting : loop.pass.isOperation = false →
    (∀ id ∈ loop.sched.ids, id ∈ loop.statuses) ∧ loop.statuses.Nodup
  known : ∀ id ∈ loop.sched.ids ++ loop.statuses, id ∈ handler.state.componentStatuses.ids
  pending : ∀ item ∈ loop.sched.pending,
    item.2.program = passClosure setup handler event loop.pass item.2.id
  running : ∀ thread ∈ loop.sched.running, ∃ earlier calls,
    callsOf thread.id log = earlier ++ calls ∧
      Io.Runs (passClosure setup handler event loop.pass thread.id) calls thread.program

/-- The pass of the transition in flight, if it is in one. -/
def FlightOk (setup : Setup) (cfg : Config M) (trace : List Label) : Prop :=
  ∀ flight loop, cfg.handler.flight = some flight → flight.stage = .loop loop →
    PassOk setup cfg.handler flight.event (since trace) loop

theorem Collected.threads {setup : Setup} {stopOnError : Bool}
    {operation : String → Io (Bool × Option String)} {ids : List String}
    {operations : List (Nat × Thread)} (collected : Collected setup stopOnError operation ids (.ok operations)) :
    operations.map (fun item => item.2.id) = ids.filter (fun id => (setup.components id).isSome) ∧
      ∀ item ∈ operations, item.2.program = operation item.2.id := by
  obtain ⟨threads, -⟩ := collected
  refine ⟨by simpa [List.map_map, Function.comp_def] using congrArg (List.map Thread.id) threads,
    fun item member => ?_⟩
  have inside : item.2 ∈ operations.map Prod.snd := List.mem_map_of_mem _ member
  rw [threads] at inside
  obtain ⟨id, -, same⟩ := List.mem_map.mp inside
  rw [← same]

section Start

variable {setup : Setup} {handler : Handler} {event : Event} {log : List Label}
  {ids : List String} {operations : List (Nat × Thread)} {err : Option String}

theorem start_ids (ids : List String) (operations : List (Nat × Thread))
    (threads : operations.map (fun item => item.2.id) = ids.filter (fun id => (setup.components id).isSome)) :
    List.Perm (Sched.start operations).ids (ids.filter fun id => (setup.components id).isSome) := by
  rw [← threads]
  simpa [Sched.ids, Sched.start] using (Sched.start_pending operations).map (fun item => item.2.id)

private theorem PassOk.operationStart (distinct : ids.Nodup)
    (known : ∀ id ∈ ids, id ∈ handler.state.componentStatuses.ids)
    (collected : Collected setup event.stopOnError (passClosure setup handler event .operation) ids
      (.ok operations)) :
    PassOk setup handler event log ⟨err, .operation, Sched.start operations, []⟩ := by
  obtain ⟨threads, programs⟩ := collected.threads
  have scheduled := start_ids ids operations threads
  refine ⟨?_, (fun never => by cases never), ?_, ?_, fun thread member => by cases member⟩
  · simpa [LoopState.held, Pass.isOperation] using scheduled.nodup_iff.mpr (distinct.filter _)
  · intro id member
    simp only [List.append_nil] at member
    exact known id (List.mem_of_mem_filter (scheduled.subset member))
  · intro item member
    exact programs item ((Sched.start_pending operations).subset member)

private theorem PassOk.rebootStart (distinct : ids.Nodup) (blamed : String)
    (known : ∀ id ∈ ids, id ∈ handler.state.componentStatuses.ids)
    (collected : Collected setup event.stopOnError rebootOperation ids (.ok operations)) :
    PassOk setup handler event log ⟨err, .reboot blamed, Sched.start operations, ids⟩ := by
  obtain ⟨threads, programs⟩ := collected.threads
  have scheduled := start_ids ids operations threads
  refine ⟨?_, fun _ => ⟨fun id member => List.mem_of_mem_filter (scheduled.subset member), distinct⟩,
    ?_, ?_, fun thread member => by cases member⟩
  · simpa [LoopState.held, Pass.isOperation] using scheduled.nodup_iff.mpr (distinct.filter _)
  · intro id member
    rcases List.mem_append.mp member with scheduledId | held
    · exact known id (List.mem_of_mem_filter (scheduled.subset scheduledId))
    · exact known id held
  · intro item member
    exact programs item ((Sched.start_pending operations).subset member)

end Start

/-! ### One step of a pass -/

section Steps

variable {setup : Setup} {handler : Handler} {event : Event} {log : List Label}
  {loop : LoopState}

theorem finishThread_like (statuses : StatusMap) (loop : LoopState) (sched : Sched) (id : String)
    (rebootRequired : Bool) (err : Option String) :
    (finishThread statuses loop sched id rebootRequired err).1.Like statuses := by
  unfold finishThread
  split <;> first | exact .refl _ | exact StatusMap.componentError_like ..

theorem finishThread_loop (statuses : StatusMap) (loop : LoopState) (sched : Sched) (id : String)
    (rebootRequired : Bool) (err : Option String) :
    (finishThread statuses loop sched id rebootRequired err).2 =
      { loop with sched, statuses := loop.statuses ++
          if loop.pass.isOperation ∧ err = none ∧ rebootRequired then [id] else [] } := by
  unfold finishThread
  split <;> rename_i pass err' <;> simp [Pass.isOperation] <;> split <;> simp_all

theorem PassOk.ids_nodup (ok : PassOk setup handler event log loop) : loop.sched.ids.Nodup :=
  (List.nodup_append.mp ok.distinct).1

theorem PassOk.skip (ok : PassOk setup handler event log loop) {label : Label}
    (quiet : ∀ id, label.callOf id = none) : PassOk setup handler event (log ++ [label]) loop := by
  refine { ok with running := fun thread member => ?_ }
  obtain ⟨earlier, calls, history, runs⟩ := ok.running thread member
  exact ⟨earlier, calls, by simp [history, quiet], runs⟩

private theorem PassOk.reframe {handler' : Handler} (ok : PassOk setup handler event log loop)
    (vendor : handler'.runtimeVendor = handler.runtimeVendor)
    (like : handler'.state.componentStatuses.Like handler.state.componentStatuses) :
    PassOk setup handler' event log loop := by
  have closure := passClosure_like setup event loop.pass vendor like
  refine ⟨ok.distinct, ok.rebooting, fun id member => ?_, fun item member => ?_,
    fun thread member => ?_⟩
  · rw [like.ids]
    exact ok.known id member
  · rw [closure]
    exact ok.pending item member
  · rw [closure]
    exact ok.running thread member

theorem PassOk.regroup (ok : PassOk setup handler event log loop) (priority : Nat)
    (groupErr err : Option String) :
    PassOk setup handler event log
      { loop with sched := { loop.sched with priority, groupErr, err } } :=
  ⟨ok.distinct, ok.rebooting, ok.known, ok.pending, ok.running⟩

theorem Sched.ids_launch {sched : Sched} {priority : Nat} {thread : Thread}
    {rest : List (Nat × Thread)} (pending : sched.pending = (priority, thread) :: rest) :
    List.Perm ({ sched with pending := rest, running := sched.running ++ [thread] } : Sched).ids
      sched.ids := by
  simp only [Sched.ids, pending, List.map_cons, List.map_append, List.map_nil]
  simpa [List.append_assoc] using
    (List.perm_append_singleton thread.id (rest.map (fun item => item.2.id) ++
      sched.running.map Thread.id))

theorem PassOk.launch (ok : PassOk setup handler event log loop) {priority : Nat} {thread : Thread}
    {rest : List (Nat × Thread)} (pending : loop.sched.pending = (priority, thread) :: rest) :
    PassOk setup handler event log { loop with sched := { loop.sched with
      pending := rest, running := loop.sched.running ++ [thread] } } := by
  have moved := Sched.ids_launch pending
  have start : thread.program = passClosure setup handler event loop.pass thread.id :=
    ok.pending (priority, thread) (by simp [pending])
  refine ⟨(moved.append_right _).nodup_iff.mpr ok.distinct,
    fun reboot => ⟨fun id member => (ok.rebooting reboot).1 id (moved.subset member),
      (ok.rebooting reboot).2⟩, fun id member => ?_, fun item member => ?_, fun running member => ?_⟩
  · rcases List.mem_append.mp member with scheduled | held
    · exact ok.known id (List.mem_append_left _ (moved.subset scheduled))
    · exact ok.known id (List.mem_append_right _ held)
  · exact ok.pending item (by simp [pending, member])
  · rcases List.mem_append.mp member with old | new
    · exact ok.running running old
    · rw [List.mem_singleton.mp new, start]
      exact ⟨callsOf thread.id log, [], by simp, .refl _⟩

theorem PassOk.call (ok : PassOk setup handler event log loop) {index : Nat} {id : String}
    {request : ExtCall} {resume : Reply → Io (Bool × Option String)}
    (waiting : loop.sched.running[index]? = some ⟨id, .call request resume⟩) (reply : Reply) :
    PassOk setup handler event (log ++ [.call id request reply]) { loop with sched := { loop.sched with
      running := loop.sched.running.set index ⟨id, resume reply⟩ } } := by
  have sameIds := ids_set waiting (resume reply)
  have ids : ({ loop.sched with running := loop.sched.running.set index ⟨id, resume reply⟩ } : Sched).ids =
      loop.sched.ids := by simp only [Sched.ids, sameIds]
  refine ⟨ids ▸ ok.distinct, fun reboot => ids ▸ ok.rebooting reboot, ids ▸ ok.known, ok.pending,
    fun thread member => ?_⟩
  have distinct : (loop.sched.running.map Thread.id).Nodup :=
    (List.nodup_append.mp ok.ids_nodup).2.1
  obtain ⟨inside, atIndex⟩ := List.getElem?_eq_some_iff.mp waiting
  have placed : (⟨id, resume reply⟩ : Thread) ∈ loop.sched.running.set index ⟨id, resume reply⟩ :=
    List.mem_set _ _ inside _
  by_cases own : thread.id = id
  · have same : thread = ⟨id, resume reply⟩ :=
      List.inj_on_of_nodup_map (sameIds ▸ distinct) member placed own
    subst same
    obtain ⟨earlier, calls, history, runs⟩ := ok.running _ (List.getElem?_mem waiting)
    exact ⟨earlier, calls ++ [(request, reply)], by simp [history, Label.callOf],
      runs.snoc rfl reply⟩
  · rcases List.mem_or_eq_of_mem_set member with old | new
    · obtain ⟨earlier, calls, history, runs⟩ := ok.running thread old
      exact ⟨earlier, calls, by simp [history, Label.callOf, Ne.symm own], runs⟩
    · exact absurd (by rw [new]) own

theorem PassOk.finish (ok : PassOk setup handler event log loop) {index : Nat} {id : String}
    {rebootRequired : Bool} {err : Option String}
    (returned : loop.sched.running[index]? = some ⟨id, .pure (rebootRequired, err)⟩)
    (statuses : StatusMap) (sched : Sched) (pending : sched.pending = loop.sched.pending)
    (running : sched.running = loop.sched.running.eraseIdx index) :
    PassOk setup handler event (log ++ [.finish id (rebootRequired, err)])
      (finishThread statuses loop sched id rebootRequired err).2 := by
  have removed : List.Perm loop.sched.ids (id :: sched.ids) := by
    simp only [Sched.ids, pending, running]
    exact (((perm_cons_eraseIdx returned).map Thread.id).append_left _).trans List.perm_middle
  have kept : ∀ other ∈ sched.ids, other ∈ loop.sched.ids :=
    fun other member => removed.symm.subset (List.mem_cons_of_mem _ member)
  have wasKnown : id ∈ loop.sched.ids := removed.symm.subset (List.mem_cons_self _ _)
  have whole : (id :: (sched.ids ++ loop.held)).Nodup :=
    (removed.append_right loop.held).nodup_iff.mp ok.distinct
  have held : (finishThread statuses loop sched id rebootRequired err).2.held = loop.held ++
      if loop.pass.isOperation ∧ err = none ∧ rebootRequired then [id] else [] := by
    simp only [finishThread_loop, LoopState.held]
    split <;> simp_all
  rw [finishThread_loop] at held ⊢
  refine ⟨?_, fun reboot => ?_, fun other member => ?_, pending ▸ ok.pending, fun thread member => ?_⟩
  · rw [held, ← List.append_assoc]
    split
    · exact (List.perm_append_singleton _ _).nodup_iff.mpr whole
    · simpa using (List.nodup_cons.mp whole).2
  · have unchanged : ¬(loop.pass.isOperation = true ∧ err = none ∧ rebootRequired = true) := by
      simp [show loop.pass.isOperation = false from reboot]
    obtain ⟨inside, distinct⟩ := ok.rebooting reboot
    simp only [unchanged, if_false, List.append_nil]
    exact ⟨fun other member => inside other (kept other member), distinct⟩
  · simp only [List.mem_append] at member
    rcases member with scheduled | old | added
    · exact ok.known other (List.mem_append_left _ (kept other scheduled))
    · exact ok.known other (List.mem_append_right _ old)
    · split at added
      · rw [List.mem_singleton.mp added]
        exact ok.known id (List.mem_append_left _ wasKnown)
      · cases added
  · rw [running] at member
    obtain ⟨earlier, calls, history, runs⟩ := ok.running thread (List.mem_of_mem_eraseIdx member)
    exact ⟨earlier, calls, by simp [history, Label.callOf], runs⟩

end Steps

/-! ### Every pass of every run -/

theorem componentOperation_spec (setup : Setup) (event : Event) (runtimeVendor : String → String)
    (statuses : StatusMap) (order : List String) :
    (componentOperation setup event runtimeVendor statuses order).1.Like statuses ∧
      ∀ next, (componentOperation setup event runtimeVendor statuses order).2 = .loop next →
        ∃ operations, next = ⟨none, .operation, Sched.start operations, []⟩ ∧
          Collected setup event.stopOnError (event.operation setup runtimeVendor statuses) order
            (.ok operations) := by
  unfold componentOperation
  split
  · exact ⟨.refl _, fun next same => by cases same⟩
  · obtain ⟨like, returned | ⟨operations, same, collected⟩⟩ :=
      operationPass_spec setup event runtimeVendor none statuses order
    · obtain ⟨message, same, -⟩ := returned
      exact ⟨like, fun next stage => by rw [same] at stage; cases stage⟩
    · refine ⟨like, fun next stage => ⟨operations, ?_, collected⟩⟩
      rw [same] at stage
      cases stage
      rfl

section Run

variable {setup : Setup} {cfg next : Config M} {choice : Choice M} {label : Label}
  {trace : List Label}

private theorem FlightOk.of_loop {trace' : List Label} {event : Event} {current : UpdateState}
    {loop : LoopState} (nextFlight : next.handler.flight = some ⟨event, current, .loop loop⟩)
    (ok : PassOk setup next.handler event (since trace') loop) : FlightOk setup next trace' := by
  intro flight loop' inFlight atLoop
  rw [nextFlight] at inFlight
  cases inFlight
  cases atLoop
  exact ok

theorem FlightOk.of_stage {trace' : List Label} {flight : Flight}
    (nextFlight : next.handler.flight = some flight) (notLoop : ∀ loop, flight.stage ≠ .loop loop) :
    FlightOk setup next trace' := by
  intro flight' loop inFlight atLoop
  rw [nextFlight] at inFlight
  cases inFlight
  exact absurd atLoop (notLoop loop)

theorem FlightOk.of_settled {trace' : List Label} (settled : next.handler.flight = none) :
    FlightOk setup next trace' := by
  intro flight loop inFlight
  rw [settled] at inFlight
  cases inFlight

theorem FlightOk.of_pass {trace' : List Label} {event : Event} {current : UpdateState} {stage : Stage}
    {statuses : StatusMap} {ids : List String} (pass : Pass)
    (nextFlight : next.handler.flight = some ⟨event, current, stage⟩)
    (like : next.handler.state.componentStatuses.Like statuses) (distinct : ids.Nodup)
    (known : ∀ id ∈ ids, id ∈ statuses.ids)
    (started : ∀ loop, stage = .loop loop →
      ∃ operations err, loop = ⟨err, pass, Sched.start operations, if pass.isOperation then [] else ids⟩ ∧
        Collected setup event.stopOnError (passClosure setup next.handler event pass) ids
          (.ok operations)) :
    FlightOk setup next trace' := by
  intro flight loop inFlight atLoop
  rw [nextFlight] at inFlight
  cases inFlight
  obtain ⟨operations, err, rfl, collected⟩ := started loop atLoop
  have known' : ∀ id ∈ ids, id ∈ next.handler.state.componentStatuses.ids := by
    rw [like.ids]
    exact known
  cases pass with
  | operation => exact PassOk.operationStart distinct known' collected
  | reboot blamed => exact PassOk.rebootStart distinct blamed known' collected

private theorem step_flightOk (flying : FlightOk setup cfg trace)
    (stepped : step setup cfg choice = some (label, next)) : FlightOk setup next (trace ++ [label]) := by
  cases choice with
  | send event order =>
      obtain ⟨-, -, -, -, -, began⟩ := sendEvent_some stepped
      obtain ⟨vendor, ⟨-, -, nextFlight⟩ | ⟨-, perm, state, nextFlight⟩⟩ := startTransition_some began
      · exact FlightOk.of_stage nextFlight (fun loop => by simp)
      · have like := (componentOperation_spec setup event cfg.handler.runtimeVendor
          (event.statuses cfg.handler.state.componentStatuses) order).1
        have statuses : next.handler.state.componentStatuses = (componentOperation setup event
            cfg.handler.runtimeVendor (event.statuses cfg.handler.state.componentStatuses) order).1 := by
          rw [state]
        rw [← statuses] at like
        have order_perm := List.isPerm_iff.mp perm
        refine FlightOk.of_pass .operation nextFlight like (order_perm.nodup_iff.mpr
          (event.statuses cfg.handler.state.componentStatuses).keyed)
          (fun id member => order_perm.subset member) fun loop stage => ?_
        obtain ⟨operations, rfl, collected⟩ := (componentOperation_spec ..).2 loop stage
        refine ⟨operations, none, rfl, ?_⟩
        have closure : passClosure setup next.handler event .operation = event.operation setup
            cfg.handler.runtimeVendor (event.statuses cfg.handler.state.componentStatuses) := by
          simp only [passClosure, vendor, Event.operation_like like]
        rw [closure]
        exact collected
  | advance =>
      obtain ⟨-, -, flight, inFlight, launch | barrier | returned | ended⟩ := advance_some stepped
      · obtain ⟨loop, _, thread, _, atLoop, pending, -, rfl, same⟩ := launch
        have nextFlight := Handler.flight_of_withStage inFlight same
        refine FlightOk.of_loop nextFlight ?_
        rw [since_snoc, if_neg (by simp [Label.isBoundary])]
        exact (((flying flight loop inFlight atLoop).launch pending).skip (by simp [Label.callOf])).reframe
          (by rw [same]; rfl) (by rw [same]; exact .refl _)
      · obtain ⟨loop, priority, _, _, atLoop, -, -, -, -, rfl, same⟩ := barrier
        have nextFlight := Handler.flight_of_withStage inFlight same
        refine FlightOk.of_loop nextFlight ?_
        rw [since_snoc, if_neg (by simp [Label.isBoundary])]
        exact (((flying flight loop inFlight atLoop).regroup priority none _).skip
          (by simp [Label.callOf])).reframe (by rw [same]; rfl) (by rw [same]; exact .refl _)
      · obtain ⟨loop, result, atLoop, -, -, rfl, same⟩ := returned
        have nextFlight := Handler.flight_of_withStatuses inFlight same
        have ok := flying flight loop inFlight atLoop
        obtain ⟨like, started⟩ := passReturned_spec setup flight.event cfg.handler.runtimeVendor
          cfg.handler.state.componentStatuses loop result
        have like' : next.handler.state.componentStatuses.Like cfg.handler.state.componentStatuses := by
          rw [same]
          exact like
        have known : ∀ id ∈ loop.statuses, id ∈ cfg.handler.state.componentStatuses.ids :=
          fun id member => ok.known id (List.mem_append_right _ member)
        cases hPass : loop.pass with
        | operation =>
            have distinct : loop.statuses.Nodup := by
              have whole := ok.distinct
              simp only [LoopState.held, hPass, Pass.isOperation, if_true] at whole
              exact (List.nodup_append.mp whole).2.1
            refine FlightOk.of_pass (.reboot (loop.statuses.getLast?.getD "")) nextFlight like'
              distinct known fun next' stage => ?_
            rcases started next' stage with ⟨-, operations, rfl, collected⟩ | ⟨never, -⟩
            · exact ⟨operations, _, rfl, collected⟩
            · simp [hPass, Pass.isOperation] at never
        | reboot blamed =>
            refine FlightOk.of_pass .operation nextFlight like'
              (ok.rebooting (by simp [hPass, Pass.isOperation])).2 known fun next' stage => ?_
            rcases started next' stage with ⟨never, -⟩ | ⟨-, operations, rfl, collected⟩
            · simp [hPass, Pass.isOperation] at never
            · refine ⟨operations, _, rfl, ?_⟩
              have closure : passClosure setup next.handler flight.event .operation =
                  flight.event.operation setup cfg.handler.runtimeVendor
                    cfg.handler.state.componentStatuses := by
                rw [same]
                simp only [passClosure, Handler.withStage_runtimeVendor,
                  Handler.withStatuses_runtimeVendor, Handler.withStage_state]
                exact Event.operation_like like ..
              rw [closure]
              exact collected
      · obtain ⟨_, -, -, same⟩ := ended
        exact FlightOk.of_stage (congrArg Handler.flight same) (fun loop => by simp)
  | goroutine index env reply =>
      obtain ⟨_, _, loop, _, _, _, inFlight, waiting, rfl, -, -, same⟩ := goroutineCall_some stepped
      have nextFlight := Handler.flight_of_withStage inFlight same
      refine FlightOk.of_loop nextFlight ?_
      rw [since_snoc, if_neg (by simp [Label.isBoundary])]
      exact ((flying _ loop inFlight rfl).call waiting _).reframe (by rw [same]; rfl)
        (by rw [same]; exact .refl _)
  | finish index =>
      obtain ⟨_, _, loop, _, _, _, inFlight, returned, rfl, -, -, same⟩ :=
        goroutineFinish_some stepped
      have nextFlight := Handler.flight_of_withStatuses inFlight same
      refine FlightOk.of_loop nextFlight ?_
      rw [since_snoc, if_neg (by simp [Label.isBoundary])]
      exact ((flying _ loop inFlight rfl).finish returned _ _ (by rfl) (by rfl)).reframe
        (by rw [same]; rfl) (by rw [same]; exact finishThread_like ..)
  | settle env =>
      obtain ⟨_, _, -, -, -, nextFlight, -⟩ := settle_some stepped
      exact FlightOk.of_stage nextFlight (fun loop => by split <;> simp)
  | clean err kept =>
      obtain ⟨_, _, inFlight, -, -, -, same⟩ := clean_some stepped
      exact FlightOk.of_stage (Handler.flight_of_withStage inFlight same) (fun loop => by simp)
  | save err =>
      obtain ⟨_, _, -, -, -, settled, -⟩ := save_some stepped
      exact FlightOk.of_settled settled
  | receive =>
      obtain ⟨-, -, -, -, -, settled, -⟩ := receive_some stepped
      exact FlightOk.of_settled settled
  | restart restartEnv versionEnv =>
      cases stepped
      exact FlightOk.of_settled rfl

theorem reach_flightOk {start : Config M} (initial : start.handler.flight = none)
    (reach : Reach setup start cfg trace) : FlightOk setup cfg trace := by
  induction reach with
  | start => exact FlightOk.of_settled initial
  | step _ _ stepped ih => exact step_flightOk ih stepped

end Run

end UpdateManager.Fsm
