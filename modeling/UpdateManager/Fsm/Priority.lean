import UpdateManager.Fsm.Trace

/-!
# `doPriorityOperations`

`doPriorityOperations` (`src/unnamed/part_008`, lines 463-517) as a machine over operations of
any type: it launches each group of equal priority, waits for it, and goes on to the next lower
one, stopping at a failed group with `stopOnError`. Every run returns within `3 * n + 1` steps
(`reach_length_le`), with the first error of the highest failed group
(`doPriorityOperations_result`) and in decreasing priority (`doPriorityOperations_order`).
-/

namespace UpdateManager.Fsm.Priority

/-- The locals of `doPriorityOperations` on operations of type `α`, each with its priority:
the sorted operations not launched yet, the priority of the current group, the launched
operations that have not returned, `groupErr` and `err`. -/
structure Scheduler (α : Type) where
  pending : List (Nat × α)
  priority : Nat
  running : List (Nat × α)
  groupErr : Option String
  err : Option String

/-- `doPriorityOperations` in its loop, or returned with its result. -/
inductive Stage (α : Type)
  | running (sched : Scheduler α)
  | returned (err : Option String)

/-- What a step shows: a launch, the return of an operation with its error, or a `wg.Wait()`
that returned for the group of the given priority. -/
inductive Event (α : Type)
  | launch (operation : Nat × α)
  | finish (operation : Nat × α) (err : Option String)
  | wait (priority : Nat)

/-- The next action of the loop, or the return of the `index`-th running operation. -/
inductive Choice
  | advance
  | finish (index : Nat) (err : Option String)

variable {α : Type}

/-- The operations sorted by decreasing priority, the first group's priority that of the
first; `sort.Slice` leaves the order of equal priorities open. -/
def Scheduler.start (operations : List (Nat × α)) : Scheduler α :=
  let sorted := operations.insertionSort (fun first second => second.1 ≤ first.1)
  { pending := sorted, priority := (sorted.head?.map Prod.fst).getD 0, running := [],
    groupErr := none, err := none }

/-- The loop's next action: launch the next operation of the current group, or wait for the
group and pass to the next one, or return. -/
def Scheduler.advance (stopOnError : Bool) (sched : Scheduler α) : Option (Event α × Stage α) :=
  match sched.pending with
  | operation :: rest =>
      if operation.1 = sched.priority then
        some (.launch operation,
          .running { sched with pending := rest, running := sched.running ++ [operation] })
      else if sched.running.isEmpty then
        match sched.groupErr, stopOnError with
        | some err, true => some (.wait sched.priority, .returned (some err))
        | groupErr, _ => some (.wait sched.priority, .running { sched with
            priority := operation.1, groupErr := none, err := sched.err.or groupErr })
      else none
  | [] =>
      if sched.running.isEmpty then
        some (.wait sched.priority, .returned (sched.err.or sched.groupErr))
      else none

/-- A running operation returns `err`; the first error of the group becomes `groupErr`. -/
def Scheduler.finish (sched : Scheduler α) (index : Nat) (err : Option String) :
    Option (Event α × Stage α) :=
  sched.running[index]?.map fun operation => (.finish operation err,
    .running { sched with
      running := sched.running.eraseIdx index
      groupErr := sched.groupErr.or err })

def step (stopOnError : Bool) : Stage α → Choice → Option (Event α × Stage α)
  | .running sched, .advance => sched.advance stopOnError
  | .running sched, .finish index err => sched.finish index err
  | .returned _, _ => none

inductive Reach (stopOnError : Bool) (start : Scheduler α) : Stage α → List (Event α) → Prop
  | start : Reach stopOnError start (.running start) []
  | step {stage next : Stage α} {trace : List (Event α)} {event : Event α} (choice : Choice) :
      Reach stopOnError start stage trace → step stopOnError stage choice = some (event, next) →
      Reach stopOnError start next (trace ++ [event])

def Event.launched : Event α → Option (Nat × α)
  | .launch operation => some operation
  | _ => none

def Event.finished : Event α → Option ((Nat × α) × Option String)
  | .finish operation err => some (operation, err)
  | _ => none

/-- The operations launched in a trace. -/
def launches (trace : List (Event α)) : List (Nat × α) := trace.filterMap Event.launched

/-- The operations that returned in a trace, with their errors. -/
def finishes (trace : List (Event α)) : List ((Nat × α) × Option String) :=
  trace.filterMap Event.finished

@[simp] theorem launches_nil : launches ([] : List (Event α)) = [] := rfl

@[simp] theorem finishes_nil : finishes ([] : List (Event α)) = [] := rfl

@[simp] theorem launches_append (trace trace' : List (Event α)) :
    launches (trace ++ trace') = launches trace ++ launches trace' :=
  List.filterMap_append _ _ _

@[simp] theorem finishes_append (trace trace' : List (Event α)) :
    finishes (trace ++ trace') = finishes trace ++ finishes trace' :=
  List.filterMap_append _ _ _

@[simp] theorem launches_single (event : Event α) :
    launches [event] = event.launched.toList := by
  cases event <;> rfl

@[simp] theorem finishes_single (event : Event α) :
    finishes [event] = event.finished.toList := by
  cases event <;> rfl

/-! ### What one step does -/

section Steps

variable {stopOnError : Bool} {sched sched' : Scheduler α} {choice : Choice} {event : Event α}
  {err : Option String}

private theorem step_running (stepped : step stopOnError (.running sched) choice = some (event, .running sched')) :
    (∃ operation rest, sched.pending = operation :: rest ∧ operation.1 = sched.priority ∧
        event = .launch operation ∧
        sched' = { sched with pending := rest, running := sched.running ++ [operation] }) ∨
      (∃ operation rest, sched.pending = operation :: rest ∧ operation.1 ≠ sched.priority ∧
        sched.running = [] ∧ (stopOnError = true → sched.groupErr = none) ∧
        event = .wait sched.priority ∧
        sched' = { sched with
          priority := operation.1
          groupErr := none
          err := sched.err.or sched.groupErr }) ∨
      (∃ index err operation, choice = .finish index err ∧
        sched.running[index]? = some operation ∧ event = .finish operation err ∧
        sched' = { sched with
          running := sched.running.eraseIdx index
          groupErr := sched.groupErr.or err }) := by
  cases choice with
  | advance =>
      simp only [step, Scheduler.advance] at stepped
      split at stepped
      · rename_i operation rest pending
        split at stepped
        · cases stepped
          exact .inl ⟨operation, rest, pending, ‹_›, rfl, rfl⟩
        · split at stepped
          · rename_i idle
            split at stepped
            · cases stepped
            · rename_i groupErr stop notBoth
              cases stepped
              refine .inr (.inl ⟨operation, rest, pending, ‹_›, List.isEmpty_iff.mp idle,
                fun stopping => ?_, rfl, rfl⟩)
              cases hErr : sched.groupErr with
              | none => rfl
              | some message => exact absurd stopping (notBoth message hErr)
          · cases stepped
      · split at stepped <;> cases stepped
  | finish index err =>
      obtain ⟨operation, found, same⟩ := Option.map_eq_some'.mp stepped
      cases same
      exact .inr (.inr ⟨index, err, operation, rfl, found, rfl, rfl⟩)

private theorem step_returned (stepped : step stopOnError (.running sched) choice = some (event, .returned err)) :
    event = .wait sched.priority ∧ sched.running = [] ∧
      ((sched.pending = [] ∧ err = sched.err.or sched.groupErr) ∨
        (∃ operation rest, sched.pending = operation :: rest ∧ operation.1 ≠ sched.priority ∧
          stopOnError = true ∧ err = sched.groupErr ∧ err.isSome)) := by
  cases choice with
  | advance =>
      simp only [step, Scheduler.advance] at stepped
      split at stepped
      · rename_i operation rest pending
        split at stepped
        · cases stepped
        · split at stepped
          · rename_i idle
            split at stepped
            · cases stepped
              exact ⟨rfl, List.isEmpty_iff.mp idle,
                .inr ⟨operation, rest, pending, ‹_›, rfl, (‹sched.groupErr = _›).symm, rfl⟩⟩
            · cases stepped
          · cases stepped
      · rename_i pending
        split at stepped
        · cases stepped
          exact ⟨rfl, List.isEmpty_iff.mp ‹_›, .inl ⟨pending, rfl⟩⟩
        · cases stepped
  | finish index err =>
      obtain ⟨operation, -, same⟩ := Option.map_eq_some'.mp stepped
      cases same

private theorem step_launch {stage next : Stage α} {operation : Nat × α}
    (stepped : step stopOnError stage choice = some (.launch operation, next)) :
    ∃ sched rest, stage = .running sched ∧ sched.pending = operation :: rest ∧
      operation.1 = sched.priority := by
  cases stage with
  | returned => cases stepped
  | running sched =>
      cases next with
      | running sched' =>
          rcases step_running stepped with
            ⟨operation', rest, pending, atPriority, launched, -⟩ | ⟨_, _, _, _, _, _, waited, -⟩ |
            ⟨_, _, _, _, _, finished, -⟩
          · cases launched
            exact ⟨sched, rest, rfl, pending, atPriority⟩
          · cases waited
          · cases finished
      | returned => cases (step_returned stepped).1

private theorem step_wait {stage next : Stage α} {priority : Nat}
    (stepped : step stopOnError stage choice = some (.wait priority, next)) :
    ∃ sched, stage = .running sched ∧ priority = sched.priority ∧ sched.running = [] ∧
      (sched.pending = [] ∨
        ∃ operation rest, sched.pending = operation :: rest ∧ operation.1 ≠ sched.priority) := by
  cases stage with
  | returned => cases stepped
  | running sched =>
      cases next with
      | running sched' =>
          rcases step_running stepped with
            ⟨_, _, _, _, launched, -⟩ | ⟨operation, rest, pending, below, idle, -, waited, -⟩ |
            ⟨_, _, _, _, _, finished, -⟩
          · cases launched
          · cases waited
            exact ⟨sched, rfl, rfl, idle, .inr ⟨operation, rest, pending, below⟩⟩
          · cases finished
      | returned =>
          obtain ⟨waited, idle, ending⟩ := step_returned stepped
          cases waited
          refine ⟨sched, rfl, rfl, idle, ?_⟩
          rcases ending with ⟨empty, -⟩ | ⟨operation, rest, pending, below, -⟩
          · exact .inl empty
          · exact .inr ⟨operation, rest, pending, below⟩

end Steps

/-! ### The invariant of a run -/

/-- What holds of every state of a run of `doPriorityOperations` on `operations`, against the
events `trace` it showed: the operations not launched are sorted, at or below the current
priority, and with the launched ones they are all the operations; the launched ones are at or
above the current priority and have returned or run in the current group; the returns come by
decreasing priority; the first error returned is `err`, or else `groupErr`; and with
`stopOnError` only the current group has failed. -/
structure Ok (stopOnError : Bool) (operations : List (Nat × α)) (trace : List (Event α))
    (sched : Scheduler α) : Prop where
  sorted : sched.pending.Pairwise fun first second => second.1 ≤ first.1
  pendingBelow : ∀ operation ∈ sched.pending, operation.1 ≤ sched.priority
  scheduled : (launches trace ++ sched.pending).Perm operations
  launchedAbove : ∀ operation ∈ launches trace, sched.priority ≤ operation.1
  inFlight : (launches trace).Perm ((finishes trace).map Prod.fst ++ sched.running)
  runningAt : ∀ operation ∈ sched.running, operation.1 = sched.priority
  byPriority : (finishes trace).Pairwise fun first second => second.1.1 ≤ first.1.1
  firstFailure : sched.err.or sched.groupErr = (finishes trace).findSome? Prod.snd
  stopped : stopOnError = true → sched.err = none ∧
    ∀ done ∈ finishes trace, done.2.isSome → done.1.1 = sched.priority

instance byPriorityTotal : IsTotal (Nat × α) fun first second => second.1 ≤ first.1 :=
  ⟨fun first second => le_total second.1 first.1⟩

instance byPriorityTrans : IsTrans (Nat × α) fun first second => second.1 ≤ first.1 :=
  ⟨fun _ _ _ first second => le_trans second first⟩

private theorem findSome?_highest {finished : List ((Nat × α) × Option String)} {message : String}
    (sorted : finished.Pairwise fun first second => second.1.1 ≤ first.1.1)
    (found : finished.findSome? Prod.snd = some message) :
    ∃ operation, (operation, some message) ∈ finished ∧
      ∀ done ∈ finished, done.2.isSome → done.1.1 ≤ operation.1 := by
  induction finished with
  | nil => cases found
  | cons done rest ih =>
      obtain ⟨after, sorted⟩ := List.pairwise_cons.mp sorted
      cases failed : done.2 with
      | some first =>
          simp only [List.findSome?_cons, failed, Option.some.injEq] at found
          subst found
          refine ⟨done.1, by simp [← failed], fun other member _ => ?_⟩
          rcases List.mem_cons.mp member with rfl | later
          · exact le_rfl
          · exact after other later
      | none =>
          simp only [List.findSome?_cons, failed] at found
          obtain ⟨operation, member, highest⟩ := ih sorted found
          refine ⟨operation, List.mem_cons_of_mem _ member, fun other member' isFailure => ?_⟩
          rcases List.mem_cons.mp member' with rfl | later
          · simp [failed] at isFailure
          · exact highest other later isFailure

private theorem le_head {operation : Nat × α} {rest : List (Nat × α)}
    (sorted : (operation :: rest).Pairwise fun first second => second.1 ≤ first.1) :
    ∀ other ∈ operation :: rest, other.1 ≤ operation.1 := by
  intro other member
  rcases List.mem_cons.mp member with rfl | later
  · exact le_rfl
  · exact List.rel_of_pairwise_cons sorted later

section Invariant

variable {stopOnError : Bool} {operations : List (Nat × α)} {trace : List (Event α)}
  {sched sched' : Scheduler α} {choice : Choice} {event : Event α}

theorem Ok.start (operations : List (Nat × α)) :
    Ok stopOnError operations [] (Scheduler.start operations) := by
  have sorted := List.sorted_insertionSort (fun first second : Nat × α => second.1 ≤ first.1)
    operations
  refine ⟨sorted, ?_, by simpa using List.perm_insertionSort _ operations, by simp,
    by simp [Scheduler.start], by simp [Scheduler.start], by simp, rfl, by simp [Scheduler.start]⟩
  simp only [Scheduler.start]
  cases sortedList : operations.insertionSort (fun first second => second.1 ≤ first.1) with
  | nil => simp
  | cons operation rest =>
      rw [sortedList] at sorted
      simpa using le_head sorted

theorem Ok.step (ok : Ok stopOnError operations trace sched)
    (stepped : step stopOnError (.running sched) choice = some (event, .running sched')) :
    Ok stopOnError operations (trace ++ [event]) sched' := by
  rcases step_running stepped with
    ⟨operation, rest, pending, atPriority, rfl, rfl⟩ |
    ⟨operation, rest, pending, below, idle, clean, rfl, rfl⟩ |
    ⟨index, err, operation, -, found, rfl, rfl⟩
  · have sorted := ok.sorted
    rw [pending] at sorted
    refine ⟨sorted.of_cons, fun other member => ok.pendingBelow other (by simp [pending, member]),
      by simpa [pending, Event.launched] using ok.scheduled, ?_,
      by simpa [Event.launched, Event.finished] using ok.inFlight.append_right [operation], ?_,
      by simpa [Event.finished] using ok.byPriority,
      by simpa [Event.finished] using ok.firstFailure,
      by simpa [Event.finished] using ok.stopped⟩
    · simp only [launches_append, launches_single, Event.launched, Option.toList_some,
        List.mem_append, List.mem_singleton]
      rintro other (launched | rfl)
      · exact ok.launchedAbove other launched
      · exact atPriority.ge
    · simp only [List.mem_append, List.mem_singleton]
      rintro other (running | rfl)
      · exact ok.runningAt other running
      · exact atPriority
  · have sorted := ok.sorted
    rw [pending] at sorted
    have lower : operation.1 < sched.priority :=
      lt_of_le_of_ne (ok.pendingBelow operation (by simp [pending])) below
    refine ⟨ok.sorted, by simpa [pending] using le_head sorted,
      by simpa [Event.launched] using ok.scheduled, ?_,
      by simpa [Event.launched, Event.finished] using ok.inFlight, by simp [idle],
      by simpa [Event.finished] using ok.byPriority,
      by simpa [Event.finished] using ok.firstFailure, fun stop => ?_⟩
    · intro other launched
      exact lower.le.trans (ok.launchedAbove other (by simpa [Event.launched] using launched))
    · have noErr := (ok.stopped stop).1
      have noFailure := ok.firstFailure
      rw [noErr, clean stop] at noFailure
      refine ⟨by simp [noErr, clean stop], fun done member failed => ?_⟩
      have := List.findSome?_eq_none_iff.mp noFailure.symm done
        (by simpa [Event.finished] using member)
      simp [this] at failed
  · have running : operation ∈ sched.running := List.getElem?_mem found
    have atPriority := ok.runningAt operation running
    refine ⟨ok.sorted, ok.pendingBelow, by simpa [Event.launched] using ok.scheduled,
      by simpa [Event.launched] using ok.launchedAbove, ?_,
      fun other member => ok.runningAt other (List.mem_of_mem_eraseIdx member), ?_, ?_, ?_⟩
    · have moved := ok.inFlight.trans (List.Perm.append_left _ (perm_cons_eraseIdx found))
      simpa [Event.launched, Event.finished] using moved
    · simp only [finishes_append, finishes_single, Event.finished, Option.toList_some]
      refine List.pairwise_append.mpr ⟨ok.byPriority, List.pairwise_singleton _ _, ?_⟩
      intro done member _ same
      rw [List.mem_singleton] at same
      subst same
      have launched : done.1 ∈ launches trace :=
        ok.inFlight.symm.subset (List.mem_append_left _ (List.mem_map_of_mem _ member))
      exact atPriority ▸ ok.launchedAbove done.1 launched
    · simp only [finishes_append, finishes_single, Event.finished, Option.toList_some,
        List.findSome?_append, ← ok.firstFailure]
      cases sched.err <;> cases sched.groupErr <;> cases err <;> rfl
    · intro stop
      obtain ⟨noErr, only⟩ := ok.stopped stop
      refine ⟨noErr, fun done member failed => ?_⟩
      simp only [finishes_append, finishes_single, Event.finished, Option.toList_some,
        List.mem_append, List.mem_singleton] at member
      rcases member with earlier | rfl
      · exact only done earlier failed
      · exact atPriority

private theorem Ok.of_events {trace' : List (Event α)} (ok : Ok stopOnError operations trace sched)
    (launched : launches trace' = launches trace) (finished : finishes trace' = finishes trace) :
    Ok stopOnError operations trace' sched := by
  obtain ⟨sorted, below, scheduled, above, inFlight, atPriority, byPriority, first, stopped⟩ := ok
  rw [← launched] at scheduled above inFlight
  rw [← finished] at inFlight byPriority first stopped
  exact ⟨sorted, below, scheduled, above, inFlight, atPriority, byPriority, first, stopped⟩

private theorem Ok.pending_lt (ok : Ok stopOnError operations trace sched) {operation : Nat × α}
    {rest : List (Nat × α)} (pending : sched.pending = operation :: rest)
    (below : operation.1 ≠ sched.priority) : ∀ other ∈ sched.pending, other.1 < sched.priority := by
  have sorted := ok.sorted
  rw [pending] at sorted ⊢
  intro other member
  exact lt_of_le_of_lt (le_head sorted other member)
    (lt_of_le_of_ne (ok.pendingBelow operation (by simp [pending])) below)

private theorem Ok.filter_launches (ok : Ok stopOnError operations trace sched) (keep : Nat × α → Bool)
    (dropped : ∀ operation ∈ sched.pending, keep operation = false) :
    (operations.filter keep).Perm ((launches trace).filter keep) := by
  have none : sched.pending.filter keep = [] := List.filter_eq_nil_iff.mpr (by simpa using dropped)
  have kept := (ok.scheduled.filter keep).symm
  rwa [List.filter_append, none, List.append_nil] at kept

private theorem Ok.filter_finishes (ok : Ok stopOnError operations trace sched) (keep : Nat × α → Bool)
    (dropped : ∀ operation ∈ sched.running, keep operation = false) :
    ((launches trace).filter keep).Perm (((finishes trace).map Prod.fst).filter keep) := by
  have none : sched.running.filter keep = [] := List.filter_eq_nil_iff.mpr (by simpa using dropped)
  have kept := ok.inFlight.filter keep
  rwa [List.filter_append, none, List.append_nil] at kept

end Invariant

/-! ### Termination -/

def Scheduler.barrier (sched : Scheduler α) : Nat :=
  match sched.pending with
  | operation :: _ => if operation.1 = sched.priority then 0 else 1
  | [] => 0

def Scheduler.remaining (sched : Scheduler α) : Nat :=
  3 * sched.pending.length + sched.running.length + sched.barrier

private theorem Scheduler.barrier_le_one (sched : Scheduler α) : sched.barrier ≤ 1 := by
  unfold Scheduler.barrier
  split
  · split <;> simp
  · simp

theorem Scheduler.remaining_start (operations : List (Nat × α)) :
    (Scheduler.start operations).remaining = 3 * operations.length := by
  simp only [Scheduler.remaining, Scheduler.barrier, Scheduler.start, List.length_insertionSort,
    List.length_nil]
  split <;> simp_all

theorem step_remaining {stopOnError : Bool} {sched sched' : Scheduler α} {choice : Choice}
    {event : Event α} (stepped : step stopOnError (.running sched) choice = some (event, .running sched')) :
    sched'.remaining < sched.remaining := by
  rcases step_running stepped with
    ⟨operation, rest, pending, atPriority, -, rfl⟩ |
    ⟨operation, rest, pending, below, idle, -, -, rfl⟩ |
    ⟨index, err, operation, -, found, -, rfl⟩
  · have opens : sched.barrier = 0 := by simp [Scheduler.barrier, pending, atPriority]
    have next := Scheduler.barrier_le_one { sched with
      pending := rest
      running := sched.running ++ [operation] }
    simp only [Scheduler.remaining, pending, opens, List.length_append, List.length_cons,
      List.length_nil] at next ⊢
    omega
  · simp [Scheduler.remaining, Scheduler.barrier, pending, below, idle]
  · have inside : index < sched.running.length := (List.getElem?_eq_some_iff.mp found).1
    have same : Scheduler.barrier { sched with
        running := sched.running.eraseIdx index
        groupErr := sched.groupErr.or err } = sched.barrier := rfl
    simp only [Scheduler.remaining, List.length_eraseIdx_of_lt inside, same]
    omega

private theorem step_enabled (stopOnError : Bool) (sched : Scheduler α) :
    ∃ choice result, step stopOnError (.running sched) choice = some result := by
  cases running : sched.running with
  | cons operation rest =>
      refine ⟨.finish 0 none, ?_⟩
      simp [step, Scheduler.finish, running]
  | nil =>
      refine ⟨.advance, ?_⟩
      simp only [step, Scheduler.advance, running, List.isEmpty_nil, if_true]
      split
      · split
        · exact ⟨_, rfl⟩
        · split <;> exact ⟨_, rfl⟩
      · exact ⟨_, rfl⟩

/-! ### Whole runs -/

section Runs

variable {stopOnError : Bool} {operations : List (Nat × α)} {start : Scheduler α}
  {stage : Stage α} {trace : List (Event α)}

private theorem step_returned_none {err : Option String} {choice : Choice} :
    step stopOnError (.returned err : Stage α) choice = none := rfl

theorem reach_ok (reach : Reach stopOnError (Scheduler.start operations) stage trace)
    (sched : Scheduler α) (running : stage = .running sched) :
    Ok stopOnError operations trace sched := by
  induction reach generalizing sched with
  | start =>
      cases running
      exact Ok.start operations
  | @step stage _ _ _ choice _ stepped ih =>
      subst running
      cases stage with
      | running prev => exact (ih prev rfl).step stepped
      | returned => simp [step_returned_none] at stepped

private theorem reach_remaining (reach : Reach stopOnError (Scheduler.start operations) stage trace)
    (sched : Scheduler α) (running : stage = .running sched) :
    trace.length + sched.remaining ≤ 3 * operations.length := by
  induction reach generalizing sched with
  | start =>
      cases running
      simp [Scheduler.remaining_start]
  | @step stage _ _ _ choice _ stepped ih =>
      subst running
      cases stage with
      | running prev =>
          have used := step_remaining stepped
          have before := ih prev rfl
          simp only [List.length_append, List.length_singleton]
          omega
      | returned => simp [step_returned_none] at stepped

private theorem reach_length_le (reach : Reach stopOnError (Scheduler.start operations) stage trace) :
    trace.length ≤ 3 * operations.length + 1 := by
  cases reach with
  | start => simp
  | @step stage _ before _ choice upTo stepped =>
      cases stage with
      | running sched =>
          have := reach_remaining upTo sched rfl
          simp only [List.length_append, List.length_singleton]
          omega
      | returned => simp [step_returned_none] at stepped

private theorem reach_returned {err : Option String}
    (reach : Reach stopOnError (Scheduler.start operations) (.returned err) trace) :
    ∃ sched, Ok stopOnError operations trace sched ∧ sched.running = [] ∧
      err = (finishes trace).findSome? Prod.snd ∧
      ∀ operation ∈ sched.pending, stopOnError = true ∧
        ∃ done ∈ finishes trace, done.2.isSome ∧ operation.1 < done.1.1 := by
  cases reach with
  | @step stage _ before _ choice upTo stepped =>
      cases stage with
      | returned => simp [step_returned_none] at stepped
      | running sched =>
          obtain ⟨rfl, idle, ending⟩ := step_returned stepped
          have ok' : Ok stopOnError operations (before ++ [.wait sched.priority]) sched :=
            (reach_ok upTo sched rfl).of_events (by simp [Event.launched]) (by simp [Event.finished])
          refine ⟨sched, ok', idle, ?_⟩
          rcases ending with ⟨empty, rfl⟩ | ⟨operation, rest, pending, below, stop, rfl, failed⟩
          · refine ⟨by rw [ok'.firstFailure], ?_⟩
            simp [empty]
          · have noErr := (ok'.stopped stop).1
            have first := ok'.firstFailure
            rw [noErr, Option.none_or] at first
            refine ⟨first, fun other member => ⟨stop, ?_⟩⟩
            obtain ⟨message, hMessage⟩ := Option.isSome_iff_exists.mp failed
            rw [hMessage] at first
            obtain ⟨done, member', found⟩ := List.exists_of_findSome?_eq_some first.symm
            refine ⟨done, member', by simp [found], ?_⟩
            rw [(ok'.stopped stop).2 done member' (by simp [found])]
            exact ok'.pending_lt pending below other member

theorem Reach.upTo {start : Scheduler α} (reach : Reach stopOnError start stage trace)
    {before after : List (Event α)} {event : Event α} (cut : trace = before ++ event :: after) :
    ∃ stage' next choice, Reach stopOnError start stage' before ∧
      Priority.step stopOnError stage' choice = some (event, next) := by
  induction reach generalizing after with
  | start => simp at cut
  | step choice reach stepped ih =>
      rcases split_snoc cut with ⟨rfl, rfl, rfl⟩ | ⟨after', rfl, inner⟩
      · exact ⟨_, _, choice, reach, stepped⟩
      · exact ih inner

/-- `doPriorityOperations` returns, and what it returns. No run is longer than `3 * n + 1`
steps, and one stops only once the call has returned. Once it has returned `err`, every
launched operation has returned once; without `stopOnError` every operation was launched once,
and with it exactly those at or above every priority at which an operation failed. `err` is
`nil` exactly when no operation failed, and otherwise the error of an operation of the highest
priority that failed. -/
theorem doPriorityOperations_result (stopOnError : Bool) (operations : List (Nat × α)) :
    (∀ stage trace, Reach stopOnError (Scheduler.start operations) stage trace →
      trace.length ≤ 3 * operations.length + 1 ∧
        ((∃ err, stage = .returned err) ∨
          ∃ choice result, step stopOnError stage choice = some result)) ∧
    ∀ err trace, Reach stopOnError (Scheduler.start operations) (.returned err) trace →
      ((finishes trace).map Prod.fst).Perm (launches trace) ∧
      (stopOnError = false → (launches trace).Perm operations) ∧
      (stopOnError = true → (launches trace).Perm (operations.filter fun operation =>
        decide (∀ done ∈ finishes trace, done.2.isSome → done.1.1 ≤ operation.1))) ∧
      (err = none ↔ ∀ done ∈ finishes trace, done.2 = none) ∧
      ∀ message, err = some message → ∃ operation, (operation, some message) ∈ finishes trace ∧
        ∀ done ∈ finishes trace, done.2.isSome → done.1.1 ≤ operation.1 := by
  refine ⟨fun stage trace reach => ⟨reach_length_le reach, ?_⟩, fun err trace reach => ?_⟩
  · cases stage with
    | running sched => exact .inr (step_enabled stopOnError sched)
    | returned err => exact .inl ⟨err, rfl⟩
  obtain ⟨sched, ok, idle, result, stopped⟩ := reach_returned reach
  have returned := ok.inFlight
  rw [idle, List.append_nil] at returned
  refine ⟨returned.symm, fun continues => ?_, fun stop => ?_, by simp [result],
    fun message failed => findSome?_highest ok.byPriority (result ▸ failed)⟩
  · have empty : sched.pending = [] := List.eq_nil_iff_forall_not_mem.mpr fun operation member => by
      simp [(stopped operation member).1] at continues
    simpa [empty] using ok.scheduled
  · have all : (launches trace).filter (fun operation =>
        decide (∀ done ∈ finishes trace, done.2.isSome → done.1.1 ≤ operation.1)) = launches trace :=
      List.filter_eq_self.mpr fun operation launched => decide_eq_true fun done member failed =>
        ((ok.stopped stop).2 done member failed).symm ▸ ok.launchedAbove operation launched
    refine (all ▸ ok.filter_launches _ fun operation member => ?_).symm
    obtain ⟨-, done, member', failed, above⟩ := stopped operation member
    exact decide_eq_false fun highest => absurd (highest done member' failed) (by omega)

/-- The order `doPriorityOperations` keeps, whatever order the operations of a group return
in: an operation is launched only once every operation of a higher priority has returned, and
a group is waited for only once every operation of its priority has been launched. -/
theorem doPriorityOperations_order {operations : List (Nat × α)}
    (reach : Reach stopOnError (Scheduler.start operations) stage trace) :
    (∀ before after operation, trace = before ++ .launch operation :: after →
      (operations.filter fun other => operation.1 < other.1).Perm
        (((finishes before).map Prod.fst).filter fun other => operation.1 < other.1)) ∧
    (∀ before after priority, trace = before ++ .wait priority :: after →
      (operations.filter fun other => other.1 = priority).Perm
        ((launches before).filter fun other => other.1 = priority)) := by
  refine ⟨fun before after operation cut => ?_, fun before after priority cut => ?_⟩
  · obtain ⟨stage', next, choice, upTo, stepped⟩ := reach.upTo cut
    obtain ⟨sched, rest, rfl, pending, atPriority⟩ := step_launch stepped
    have ok := reach_ok upTo sched rfl
    refine (ok.filter_launches _ fun other member => ?_).trans
      (ok.filter_finishes _ fun other member => ?_)
    · simpa [atPriority] using ok.pendingBelow other member
    · simpa [atPriority] using (ok.runningAt other member).le
  · obtain ⟨stage', next, choice, upTo, stepped⟩ := reach.upTo cut
    obtain ⟨sched, rfl, rfl, -, ending⟩ := step_wait stepped
    have ok := reach_ok upTo sched rfl
    refine ok.filter_launches _ fun other member => ?_
    have below : other.1 < sched.priority := by
      rcases ending with empty | ⟨operation, rest, pending, differs⟩
      · simp [empty] at member
      · exact ok.pending_lt pending differs other member
    simpa using below.ne

def twoGroups : List (Nat × String) := [(1, "a"), (2, "b")]

def twoGroupsRun : List (Event String) :=
  [.launch (2, "b"), .finish (2, "b") none, .wait 2, .launch (1, "a"), .finish (1, "a") none,
    .wait 1]

theorem two_groups_ordered :
    Reach false (Scheduler.start twoGroups) (.returned none) twoGroupsRun ∧
      (∀ before after operation, twoGroupsRun = before ++ .launch operation :: after →
        (twoGroups.filter fun other => operation.1 < other.1).Perm
          (((finishes before).map Prod.fst).filter fun other => operation.1 < other.1)) ∧
      (∀ before after priority, twoGroupsRun = before ++ .wait priority :: after →
        (twoGroups.filter fun other => other.1 = priority).Perm
          ((launches before).filter fun other => other.1 = priority)) :=
  let reach := (((((((@Reach.start String false (Scheduler.start twoGroups)).step .advance rfl).step
    (.finish 0 none) rfl).step .advance rfl).step .advance rfl).step (.finish 0 none) rfl).step
    .advance rfl)
  ⟨reach, doPriorityOperations_order reach⟩

end Runs

end UpdateManager.Fsm.Priority
