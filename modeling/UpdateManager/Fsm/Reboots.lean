import UpdateManager.Fsm.Overlay
import UpdateManager.Fsm.Passes

set_option autoImplicit false

/-!
# The passes of an overlay transition

With overlay modules `componentOperation` goes round its loop once at most: a module that asked
for a reboot holds its target state through `Reboot`, so it does not ask again. The pass a
transition is in (`Round`) and the steps it has left (`InRound.budget`) are an invariant of its
labels (`reach_tally`), which bounds its calls, passes and labels (`overlay_reboots_bounded`).
-/

namespace UpdateManager.Fsm

/-! ### What the labels of a transition show -/

/-- Whether the label shows a call of `operation` on the module `target`. -/
def Label.calls (target : String) (operation : ModuleCall) : Label → Bool
  | .call _ (.module id made) _ => id == target && made == operation
  | _ => false

/-- The calls of `operation` on the module `target` that `log` shows. -/
def callCount (target : String) (operation : ModuleCall) (log : List Label) : Nat :=
  log.countP (Label.calls target operation)

/-- The passes of `componentOperation` that `log` shows returning: `doOperation` passes when
`operation`, `doReboot` passes otherwise. -/
def passCount (operation : Bool) (log : List Label) : Nat :=
  log.count (.passed operation)

@[simp] theorem callCount_nil (target : String) (operation : ModuleCall) :
    callCount target operation [] = 0 := rfl

@[simp] theorem callCount_snoc (target : String) (operation : ModuleCall) (log : List Label)
    (label : Label) :
    callCount target operation (log ++ [label]) =
      callCount target operation log + if label.calls target operation then 1 else 0 := by
  simp [callCount, List.countP_append, List.countP_cons]

@[simp] theorem passCount_nil (operation : Bool) : passCount operation [] = 0 := rfl

@[simp] theorem passCount_snoc (operation : Bool) (log : List Label) (label : Label) :
    passCount operation (log ++ [label]) =
      passCount operation log + if label = .passed operation then 1 else 0 := by
  simp [passCount, List.count_append, List.count_singleton]

/-- The number of labels that follow a stage of the transition at most, besides the reads of
the statuses already waiting: the return of the pass, of the callback, the state set, the
emptied directory, the save and the client's read of the status it sends. -/
def Stage.rest : Stage → Nat
  | .loop _ => 6
  | .returned _ => 5
  | .settling => 4
  | .cleaning => 3
  | .saving => 2

/-- The module operation the event's callback runs on each component. -/
def Event.op : Event → Option Overlay.Op
  | .prepare _ => none
  | .update => some .update
  | .apply => some .apply
  | .revert => some .revert

/-! ### The code of the goroutines -/

namespace Io

variable {α : Type}

def Within : Nat → Io α → Prop
  | _, .pure _ => True
  | 0, .call _ _ => False
  | calls + 1, .call _ resume => ∀ reply, Within calls (resume reply)

def Returns (ok : α → Prop) : Io α → Prop
  | .pure result => ok result
  | .call _ resume => ∀ reply, Returns ok (resume reply)

theorem Within.resume {calls : Nat} {request : ExtCall} {resume : Reply → Io α}
    (within : (Io.call request resume).Within calls) (reply : Reply) :
    0 < calls ∧ (resume reply).Within (calls - 1) := by
  cases calls with
  | zero => exact within.elim
  | succ calls => exact ⟨Nat.succ_pos calls, within reply⟩

end Io

def QuietOn (id : String) : ExtCall → Prop
  | .module target made => target = id ∧ Overlay.QuietCall made
  | _ => True

def OpShape (operation : ModuleCall) (id : String) (program : Io (Bool × Option String)) : Prop :=
  ∃ resume, program = .call (.module id operation) resume ∧ ∀ reply,
    (resume reply).Only (QuietOn id) ∧
      (reply.rebootRequired = false → (resume reply).Returns fun result => result.1 = false)

section Closures

variable {event : Event} {op : Overlay.Op}

private theorem passClosure_opShape (operation : event.op = some op) (setup : Setup) (handler : Handler)
    (id : String) : OpShape op.moduleCall id (passClosure setup handler event .operation id) := by
  cases event <;> cases operation
  · refine ⟨_, rfl, fun updated => ⟨?_, fun kept => ?_⟩⟩
    · split
      · trivial
      · split
        · trivial
        · exact ⟨⟨rfl, trivial⟩, fun current => by dsimp only; split <;> (try split) <;> trivial⟩
    · split
      · rfl
      · rw [if_neg (by simp [kept])]
        intro current
        dsimp only
        split <;> (try split) <;> rfl
  · refine ⟨_, rfl, fun applied => ⟨?_, fun kept => ?_⟩⟩
    · split
      · trivial
      · split
        · trivial
        · exact ⟨trivial, fun _ => trivial⟩
    · split
      · exact kept
      · split
        · exact kept
        · exact fun _ => kept
  · exact ⟨_, rfl, fun reverted => ⟨trivial, fun kept => kept⟩⟩

private theorem rebootOperation_quiet (id : String) : (rebootOperation id).Only (QuietOn id) :=
  ⟨⟨rfl, trivial⟩, fun _ => trivial⟩

private theorem passClosure_within (operation : event.op = some op) (setup : Setup) (handler : Handler)
    (pass : Pass) (id : String) : (passClosure setup handler event pass id).Within 2 := by
  cases pass with
  | reboot blamed => exact fun _ => trivial
  | operation =>
      cases event <;> cases operation
      · intro updated
        dsimp only [passClosure, Event.operation, updateOperation]
        split
        · trivial
        · split
          · trivial
          · exact fun current => by dsimp only; split <;> (try split) <;> trivial
      · intro applied
        dsimp only [passClosure, Event.operation, applyOperation]
        split
        · trivial
        · split
          · trivial
          · exact fun _ => trivial
      · exact fun _ => trivial

end Closures

/-! ### The goroutines of a pass -/

section Pass

variable {setup : Setup} {handler : Handler} {event : Event} {log : List Label} {loop : LoopState}

private theorem PassOk.running_nodup (ok : PassOk setup handler event log loop) :
    (loop.sched.running.map Thread.id).Nodup :=
  (List.nodup_append.mp ok.ids_nodup).2.1

private theorem PassOk.pending_apart (ok : PassOk setup handler event log loop)
    {item : Nat × Thread} (queued : item ∈ loop.sched.pending) {thread : Thread}
    (launched : thread ∈ loop.sched.running) : item.2.id ≠ thread.id := fun same =>
  (List.nodup_append.mp ok.ids_nodup).2.2 (List.mem_map_of_mem _ queued)
    (same ▸ List.mem_map_of_mem _ launched)

private theorem PassOk.held_apart (ok : PassOk setup handler event log loop)
    (operating : loop.pass.isOperation = true) {thread : Thread}
    (launched : thread ∈ loop.sched.running) : thread.id ∉ loop.statuses := fun held =>
  (List.nodup_append.mp ok.distinct).2.2
    (List.mem_append_right _ (List.mem_map_of_mem _ launched))
    (by simpa [LoopState.held, operating] using held)

private theorem PassOk.running_known (ok : PassOk setup handler event log loop) {thread : Thread}
    (launched : thread ∈ loop.sched.running) : thread.id ∈ handler.state.componentStatuses.ids :=
  ok.known _ (List.mem_append_left _ (List.mem_append_right _ (List.mem_map_of_mem _ launched)))

private theorem PassOk.statuses_le (ok : PassOk setup handler event log loop) :
    loop.statuses.length ≤ handler.state.componentStatuses.ids.length := by
  have distinct : loop.statuses.Nodup := by
    cases operating : loop.pass.isOperation
    · exact (ok.rebooting operating).2
    · simpa [LoopState.held, operating] using (List.nodup_append.mp ok.distinct).2.1
  exact (List.subperm_of_subset distinct fun id member =>
    ok.known id (List.mem_append_right _ member)).length_le

end Pass

private theorem mem_set_of_nodup {running : List Thread} (distinct : (running.map Thread.id).Nodup)
    {index : Nat} {id : String} {old new : Io (Bool × Option String)}
    (waiting : running[index]? = some ⟨id, old⟩) {thread : Thread}
    (member : thread ∈ running.set index ⟨id, new⟩) :
    thread = ⟨id, new⟩ ∨ (thread ∈ running ∧ thread.id ≠ id) := by
  obtain ⟨position, found⟩ := List.mem_iff_getElem?.mp member
  have inside : index < running.length := (List.getElem?_eq_some_iff.mp waiting).1
  by_cases moved : position = index
  · subst moved
    rw [List.getElem?_set_self inside, Option.some.injEq] at found
    exact .inl found.symm
  · rw [List.getElem?_set_ne (Ne.symm moved)] at found
    refine .inr ⟨List.mem_iff_getElem?.mpr ⟨position, found⟩, fun same => moved ?_⟩
    have key : (running.map Thread.id)[index]? = (running.map Thread.id)[position]? := by
      simp [List.getElem?_map, found, waiting, same]
    exact (List.getElem?_inj (by simpa using inside) distinct key).symm

def total (credit : String → Nat) : List String → Nat
  | [] => 0
  | id :: ids => credit id + total credit ids

private theorem total_zero : ∀ ids : List String, total (fun _ => 0) ids = 0
  | [] => rfl
  | _ :: ids => by rw [total, total_zero ids]

private theorem total_update_of_not_mem (credit : String → Nat) {id : String} (value : Nat) :
    ∀ {ids : List String}, id ∉ ids → total (Function.update credit id value) ids = total credit ids
  | [], _ => rfl
  | other :: ids, fresh => by
      rw [List.mem_cons, not_or] at fresh
      rw [total, total, total_update_of_not_mem credit value fresh.2,
        Function.update_noteq (Ne.symm fresh.1)]

private theorem total_update {ids : List String} (distinct : ids.Nodup) (credit : String → Nat)
    (id : String) (value : Nat) :
    total (Function.update credit id value) ids + (if id ∈ ids then credit id else 0) =
      total credit ids + if id ∈ ids then value else 0 := by
  induction ids with
  | nil => rfl
  | cons head rest ih =>
      obtain ⟨fresh, distinct⟩ := List.nodup_cons.mp distinct
      by_cases same : head = id
      · subst same
        simp only [total, total_update_of_not_mem credit value fresh, Function.update_same,
          List.mem_cons_self, if_true]
        omega
      · have split := ih distinct
        simp only [total, Function.update_noteq same, List.mem_cons, Ne.symm same, false_or]
          at split ⊢
        omega

/-! ### Passes that start and end -/

private theorem Collected.length_le {setup : Setup} {stopOnError : Bool}
    {operation : String → Io (Bool × Option String)} {ids : List String}
    {operations : List (Nat × Thread)} (collected : Collected setup stopOnError operation ids (.ok operations)) :
    operations.length ≤ ids.length := by
  have same := congrArg List.length collected.threads.1
  rw [List.length_map] at same
  exact same ▸ List.length_filter_le _ _

private theorem Collected.mem_ids {setup : Setup} {stopOnError : Bool}
    {operation : String → Io (Bool × Option String)} {ids : List String}
    {operations : List (Nat × Thread)} (collected : Collected setup stopOnError operation ids (.ok operations))
    {item : Nat × Thread} (member : item ∈ operations) : item.2.id ∈ ids := by
  have listed : item.2.id ∈ operations.map (fun item => item.2.id) := List.mem_map_of_mem _ member
  rw [collected.threads.1] at listed
  exact List.mem_of_mem_filter listed

private theorem Sched.start_cost (operations : List (Nat × Thread)) :
    (Sched.start operations).view.remaining + 2 * (Sched.start operations).pending.length =
      5 * operations.length := by
  rw [Sched.view_start, Priority.Scheduler.remaining_start]
  simp only [Sched.start, List.length_insertionSort, List.length_map]
  omega

private theorem passReturned_of_empty (setup : Setup) (event : Event) (runtimeVendor : String → String)
    (statuses : StatusMap) {loop : LoopState} (result : Option String)
    (operation : loop.pass = .operation) (empty : loop.statuses = []) :
    ∃ err, (passReturned setup event runtimeVendor statuses loop result).2 = .returned err := by
  unfold passReturned
  split
  · exact ⟨_, rfl⟩
  · simp [operation, empty]

/-! ### A transition is never stuck -/

section Enabled

variable {M : ModuleModel} {setup : Setup} {cfg : Config M}

/-- Whether the choice is a crash and a new start. -/
def Choice.isRestart : Choice M → Bool
  | .restart .. => true
  | _ => false

private theorem advance_isSome_of_idle {event : Event} {current : UpdateState} {loop : LoopState}
    (inFlight : cfg.handler.flight = some ⟨event, current, .loop loop⟩)
    (idle : loop.sched.running = []) : (advance setup cfg).isSome := by
  simp only [advance, inFlight, idle, List.isEmpty_nil, if_true]
  split
  · split
    · rfl
    · split <;> rfl
  · rfl

private theorem flight_enabled {flight : Flight} (inFlight : cfg.handler.flight = some flight)
    (env : M.Env) (envs : String → M.Env) :
    ∃ choice : Choice M, choice.isRestart = false ∧ (step setup cfg choice).isSome := by
  obtain ⟨event, current, stage⟩ := flight
  cases stage with
  | loop loop =>
      cases running : loop.sched.running with
      | nil => exact ⟨.advance, rfl, advance_isSome_of_idle inFlight running⟩
      | cons thread rest =>
          obtain ⟨id, program⟩ := thread
          cases program with
          | pure result =>
              exact ⟨.finish 0, rfl, by simp [step, goroutineFinish, inFlight, running]⟩
          | call request resume =>
              exact ⟨.goroutine 0 env {}, rfl, by simp [step, goroutineCall, inFlight, running]⟩
  | returned err => exact ⟨.advance, rfl, by simp [step, advance, inFlight]⟩
  | settling => exact ⟨.settle envs, rfl, by simp only [step, settle, inFlight]; split <;> rfl⟩
  | cleaning => exact ⟨.clean none fun _ => false, rfl, by simp [step, clean, inFlight]⟩
  | saving => exact ⟨.save none, rfl, by simp [step, save, inFlight]⟩

end Enabled

end UpdateManager.Fsm

namespace UpdateManager.Overlay

open Fsm (Config Setup Label Reach LoopState Handler PassOk FlightOk Thread callCount passCount
  QuietOn OpShape)

private theorem QuietCall.ne_moduleCall {made : Fsm.ModuleCall} (quiet : QuietCall made) (op : Op) :
    made ≠ op.moduleCall := by
  rintro rfl
  cases op <;> exact quiet.elim

/-- The pass of `componentOperation` a transition with overlay modules is in: its first
`doOperation` pass, the `doReboot` pass after it, or the second `doOperation` pass. -/
inductive Round
  | first
  | reboot
  | second
  deriving DecidableEq

namespace Round

def isOperation : Round → Bool
  | .reboot => false
  | _ => true

def opPasses : Round → Nat
  | .first => 0
  | _ => 1

def rebootPasses : Round → Nat
  | .second => 1
  | _ => 0

/-- The calls of the operation each component of an operation pass had before it. -/
def before : Round → Nat
  | .second => 1
  | _ => 0

def left : Round → Nat
  | .first => 2
  | .reboot => 1
  | .second => 0

end Round

/-- A pass of a transition that runs `op` on overlay modules, against the labels `log` since
its event was accepted, with `ids` the components of its status map. A component of an
operation pass had `round.before` calls of `op` before it; one whose call asked for a reboot
holds `op.target`, and none of the second pass asks. `budget` pays for what is left: the
calls `credit` allows the running goroutines, the scheduler's own steps, two calls for each
goroutine not launched, the return of the pass and the passes that may follow. -/
structure InRound (op : Op) (ids : List String) (modules : String → OverlayModule)
    (log : List Label) (loop : LoopState) (round : Round) : Prop where
  pass : loop.pass.isOperation = round.isOperation
  opPasses : passCount true log = round.opPasses
  rebootPasses : passCount false log = round.rebootPasses
  calls : ∀ id, callCount id op.moduleCall log ≤ round.before + 1
  held : ∀ id ∈ loop.statuses, callCount id op.moduleCall log = 1 ∧ Holds op.target (modules id)
  second : round = .second → loop.statuses = []
  pending : round.isOperation = true → ∀ item ∈ loop.sched.pending,
    callCount item.2.id op.moduleCall log = round.before ∧
      (round = .second → Holds op.target (modules item.2.id))
  running : round.isOperation = true → ∀ thread ∈ loop.sched.running,
    (OpShape op.moduleCall thread.id thread.program ∧
        callCount thread.id op.moduleCall log = round.before ∧
        (round = .second → Holds op.target (modules thread.id))) ∨
      (thread.program.Only (QuietOn thread.id) ∧
        (thread.program.Returns (fun result => result.1 = false) ∨
          round = .first ∧ callCount thread.id op.moduleCall log = 1 ∧
            Holds op.target (modules thread.id)))
  rebooting : round = .reboot → ∀ thread ∈ loop.sched.running,
    thread.program.Only (QuietOn thread.id)
  budget : ∃ credit : String → Nat,
    (∀ thread ∈ loop.sched.running, thread.program.Within (credit thread.id)) ∧
      log.length + Fsm.total credit ids + loop.sched.view.remaining +
          2 * loop.sched.pending.length + 1 + round.left * (5 * ids.length + 1) + 4 ≤
        15 * ids.length + 7

section Round

variable {op : Op} {ids : List String} {modules : String → OverlayModule} {log : List Label}
  {loop : LoopState} {round : Round}

theorem InRound.length (inRound : InRound op ids modules log loop round) :
    log.length + 5 ≤ 15 * ids.length + 7 := by
  obtain ⟨_, -, paid⟩ := inRound.budget
  omega

theorem InRound.operation (inRound : InRound op ids modules log loop round)
    (operating : round.isOperation = true) : loop.pass = .operation := by
  have pass := inRound.pass
  rw [operating] at pass
  cases same : loop.pass <;> simp_all [Fsm.Pass.isOperation]

theorem InRound.rebootPass (inRound : InRound op ids modules log loop round)
    (rebooting : round = .reboot) : ∃ blamed, loop.pass = .reboot blamed := by
  have pass := inRound.pass
  rw [rebooting] at pass
  cases same : loop.pass <;> simp_all [Fsm.Pass.isOperation, Round.isOperation]

theorem InRound.skip (inRound : InRound op ids modules log loop round) {label : Label}
    (noCall : ∀ id, label.calls id op.moduleCall = false)
    (noPass : ∀ operation, label ≠ .passed operation) {sched : Fsm.Sched}
    (pending : sched.pending ⊆ loop.sched.pending) (running : sched.running ⊆ loop.sched.running)
    (fewer : sched.view.remaining + 2 * sched.pending.length <
      loop.sched.view.remaining + 2 * loop.sched.pending.length) :
    InRound op ids modules (log ++ [label]) { loop with sched := sched } round := by
  have same : ∀ id, callCount id op.moduleCall (log ++ [label]) = callCount id op.moduleCall log :=
    fun id => by simp [noCall]
  obtain ⟨credit, within, paid⟩ := inRound.budget
  refine ⟨inRound.pass, by simp [noPass, inRound.opPasses], by simp [noPass, inRound.rebootPasses],
    fun id => same id ▸ inRound.calls id, fun id held => same id ▸ inRound.held id held,
    inRound.second, fun operating item queued => same item.2.id ▸
      inRound.pending operating item (pending queued),
    fun operating thread launched => same thread.id ▸ inRound.running operating thread
      (running launched),
    fun rebooting thread launched => inRound.rebooting rebooting thread (running launched),
    credit, fun thread launched => within thread (running launched), ?_⟩
  simp only [List.length_append, List.length_singleton]
  omega

theorem InRound.regroup (inRound : InRound op ids modules log loop round) {stopOnError : Bool}
    {priority : Nat} {thread : Thread} {rest : List (Nat × Thread)}
    (pending : loop.sched.pending = (priority, thread) :: rest)
    (differs : priority ≠ loop.sched.priority) (idle : loop.sched.running = [])
    (clean : loop.sched.groupErr = none ∨ stopOnError = false) :
    InRound op ids modules (log ++ [.control])
      { loop with sched := { loop.sched with
        priority := priority
        groupErr := none
        err := loop.sched.err.or loop.sched.groupErr } } round :=
  have fewer := Fsm.Priority.step_remaining (Fsm.Sched.view_regroup pending differs idle clean)
  inRound.skip (show ∀ id, Label.control.calls id op.moduleCall = false from fun _ => rfl)
    (fun _ => nofun) (fun _ queued => queued) (fun _ launched => launched) (by simpa using fewer)

theorem InRound.launch (inRound : InRound op ids modules log loop round) (distinct : ids.Nodup)
    {setup : Setup} {handler : Handler} {event : Fsm.Event} (ok : PassOk setup handler event log loop)
    (operation : event.op = some op) {priority : Nat} {thread : Thread}
    {rest : List (Nat × Thread)} (pending : loop.sched.pending = (priority, thread) :: rest)
    (atPriority : priority = loop.sched.priority) :
    InRound op ids modules (log ++ [.launch thread.id])
      { loop with sched := { loop.sched with
        pending := rest
        running := loop.sched.running ++ [thread] } } round := by
  have queued : (priority, thread) ∈ loop.sched.pending := pending ▸ List.mem_cons_self _ _
  have program := ok.pending _ queued
  have same : ∀ id, callCount id op.moduleCall (log ++ [.launch thread.id]) =
      callCount id op.moduleCall log := fun id => by simp [Label.calls]
  have launched : Fsm.Priority.step false (.running loop.sched.view) .advance = some _ :=
    Fsm.Sched.view_launch pending atPriority
  have fewer := Fsm.Priority.step_remaining launched
  obtain ⟨credit, within, paid⟩ := inRound.budget
  have sum := Fsm.total_update distinct credit thread.id 2
  refine ⟨inRound.pass, by simp [inRound.opPasses], by simp [inRound.rebootPasses],
    fun id => same id ▸ inRound.calls id, fun id held => same id ▸ inRound.held id held,
    inRound.second, fun operating item later => same item.2.id ▸
      inRound.pending operating item (pending ▸ List.mem_cons_of_mem _ later),
    fun operating other member => ?_, fun rebooting other member => ?_,
    Function.update credit thread.id 2, fun other member => ?_, ?_⟩
  · rcases List.mem_append.mp member with before | now
    · exact same other.id ▸ inRound.running operating other before
    · obtain rfl := List.mem_singleton.mp now
      rw [program, inRound.operation operating]
      obtain ⟨count, holds⟩ := inRound.pending operating _ queued
      exact .inl ⟨Fsm.passClosure_opShape operation .., (same _).trans count, holds⟩
  · rcases List.mem_append.mp member with before | now
    · exact inRound.rebooting rebooting other before
    · obtain rfl := List.mem_singleton.mp now
      obtain ⟨blamed, pass⟩ := inRound.rebootPass rebooting
      rw [program, pass]
      exact Fsm.rebootOperation_quiet _
  · rcases List.mem_append.mp member with before | now
    · rw [Function.update_noteq (ok.pending_apart queued before).symm]
      exact within other before
    · obtain rfl := List.mem_singleton.mp now
      rw [Function.update_same, program]
      exact Fsm.passClosure_within operation ..
  · simp only [List.length_append, List.length_singleton, pending, List.length_cons,
      List.length_nil] at paid fewer ⊢
    split at sum <;> omega

theorem InRound.finish (inRound : InRound op ids modules log loop round)
    {index : Nat} {id : String} {rebootRequired : Bool} {err : Option String}
    (returned : loop.sched.running[index]? = some ⟨id, .pure (rebootRequired, err)⟩) :
    InRound op ids modules (log ++ [.finish id (rebootRequired, err)])
      { loop with
        sched := { loop.sched with
          running := loop.sched.running.eraseIdx index
          groupErr := loop.sched.groupErr.or err }
        statuses := loop.statuses ++
          if loop.pass.isOperation ∧ err = none ∧ rebootRequired then [id] else [] } round := by
  have member : (⟨id, .pure (rebootRequired, err)⟩ : Thread) ∈ loop.sched.running :=
    List.mem_iff_getElem?.mpr ⟨index, returned⟩
  have same : ∀ target, callCount target op.moduleCall (log ++ [.finish id (rebootRequired, err)]) =
      callCount target op.moduleCall log := fun _ => by simp [Label.calls]
  -- a goroutine that returns a reboot request asked for it in the first pass
  have asked : loop.pass.isOperation = true ∧ err = none ∧ rebootRequired = true →
      round = .first ∧ callCount id op.moduleCall log = 1 ∧ Holds op.target (modules id) := by
    rintro ⟨operating, -, rfl⟩
    rw [inRound.pass] at operating
    rcases inRound.running operating _ member with ⟨⟨_, shape, -⟩, -⟩ | ⟨-, never | held⟩
    · cases shape
    · exact absurd never (by simp [Fsm.Io.Returns])
    · exact held
  have fewer := Fsm.Priority.step_remaining
    (show Fsm.Priority.step false (.running loop.sched.view) (.finish index err) = some _ from
      Fsm.Sched.view_finish returned err)
  obtain ⟨credit, within, paid⟩ := inRound.budget
  refine ⟨inRound.pass, by simp [inRound.opPasses], by simp [inRound.rebootPasses],
    fun target => same target ▸ inRound.calls target, fun target held => ?_, fun second => ?_,
    fun operating item queued => same item.2.id ▸ inRound.pending operating item queued,
    fun operating thread launched => same thread.id ▸
      inRound.running operating thread (List.mem_of_mem_eraseIdx launched),
    fun rebooting thread launched =>
      inRound.rebooting rebooting thread (List.mem_of_mem_eraseIdx launched),
    credit, fun thread launched => within thread (List.mem_of_mem_eraseIdx launched), ?_⟩
  · rw [same]
    split at held
    · rcases List.mem_append.mp held with before | now
      · exact inRound.held target before
      · obtain ⟨-, count, holds⟩ := asked ‹_›
        rw [List.mem_singleton.mp now]
        exact ⟨count, holds⟩
    · exact inRound.held target (by simpa using held)
  · rw [inRound.second second,
      if_neg fun condition => absurd ((asked condition).1.symm.trans second) (by decide)]
    rfl
  · simp only [List.length_append, List.length_singleton] at paid fewer ⊢
    omega

section Call

variable {unmarshalType : String → Except String String} {setup : Setup}
  {cfg : Config (overlayModule unmarshalType)}

private theorem quiet_frame (op : Op) {id : String} {request : Fsm.ExtCall} (quiet : QuietOn id request)
    (env : Env) (reply : Fsm.Reply) (target : String) :
    (∀ state, Holds state (cfg.modules target) →
        Holds state ((Fsm.perform setup cfg request env reply).2.2 target)) ∧
      (Label.call id request (Fsm.perform setup cfg request env reply).1).calls target
        op.moduleCall = false := by
  cases request with
  | module owner made =>
      obtain ⟨rfl, quietCall⟩ := quiet
      by_cases same : target = owner
      · subst same
        refine ⟨fun state holds => ?_, by simp [Label.calls, quietCall.ne_moduleCall op]⟩
        simpa [Fsm.perform] using quietCall_holds unmarshalType holds quietCall env
      · refine ⟨fun state holds => ?_, by simp [Label.calls, Ne.symm same]⟩
        rwa [Fsm.perform_other fun made' equal => same (Fsm.ExtCall.module.inj equal).1.symm]
  | _ =>
      refine ⟨fun state holds => ?_, rfl⟩
      rw [Fsm.perform_other]
      · exact holds
      · exact fun made equal => by cases equal

theorem InRound.call (inRound : InRound op ids cfg.modules log loop round) (distinct : ids.Nodup)
    {handler : Handler} {event : Fsm.Event} (ok : PassOk setup handler event log loop)
    (known : ∀ thread ∈ loop.sched.running, thread.id ∈ ids) {index : Nat} {id : String}
    {request : Fsm.ExtCall} {resume : Fsm.Reply → Fsm.Io (Bool × Option String)}
    (waiting : loop.sched.running[index]? = some ⟨id, .call request resume⟩) (env : Env)
    (reply : Fsm.Reply) :
    InRound op ids (Fsm.perform setup cfg request env reply).2.2
      (log ++ [.call id request (Fsm.perform setup cfg request env reply).1])
      { loop with sched := { loop.sched with
        running := loop.sched.running.set index
          ⟨id, resume (Fsm.perform setup cfg request env reply).1⟩ } } round := by
  have member : (⟨id, .call request resume⟩ : Thread) ∈ loop.sched.running :=
    List.mem_iff_getElem?.mpr ⟨index, waiting⟩
  set done := Fsm.perform setup cfg request env reply with performed
  have moved : ∀ thread ∈ loop.sched.running.set index ⟨id, resume done.1⟩,
      thread = ⟨id, resume done.1⟩ ∨ (thread ∈ loop.sched.running ∧ thread.id ≠ id) :=
    fun _ launched => Fsm.mem_set_of_nodup ok.running_nodup waiting launched
  -- the budget: the call uses one of the calls its goroutine was allowed
  have budget : ∃ credit : String → Nat, (∀ thread ∈ loop.sched.running.set index
        ⟨id, resume done.1⟩, thread.program.Within (credit thread.id)) ∧
      (log ++ [Label.call id request done.1]).length + Fsm.total credit ids +
          { loop.sched with running := loop.sched.running.set index ⟨id, resume done.1⟩ }.view.remaining +
          2 * loop.sched.pending.length + 1 + round.left * (5 * ids.length + 1) + 4 ≤
        15 * ids.length + 7 := by
    obtain ⟨credit, within, paid⟩ := inRound.budget
    obtain ⟨positive, rest⟩ := Fsm.Io.Within.resume (within _ member) done.1
    have sum := Fsm.total_update distinct credit id (credit id - 1)
    simp only [if_pos (known _ member)] at sum positive
    refine ⟨Function.update credit id (credit id - 1), fun thread launched => ?_, ?_⟩
    · rcases moved _ launched with rfl | ⟨before, other⟩
      · simpa using rest
      · simpa [Function.update_noteq other] using within thread before
    · rw [Fsm.Sched.view_set waiting]
      simp only [List.length_append, List.length_singleton] at paid ⊢
      omega
  obtain ⟨credit, within, paid⟩ := budget
  -- what the code of the goroutine says of its call
  have kind : (request = .module id op.moduleCall ∧ round.isOperation = true ∧
        callCount id op.moduleCall log = round.before ∧
        (round = .second → Holds op.target (cfg.modules id)) ∧ ∀ answer,
          (resume answer).Only (QuietOn id) ∧
            (answer.rebootRequired = false → (resume answer).Returns fun result => result.1 = false)) ∨
      (QuietOn id request ∧ (∀ answer, (resume answer).Only (QuietOn id)) ∧
        (round.isOperation = true →
          (Fsm.Io.call request resume).Returns (fun result => result.1 = false) ∨
            round = .first ∧ callCount id op.moduleCall log = 1 ∧ Holds op.target (cfg.modules id))) := by
    cases operating : round.isOperation
    · have only := inRound.rebooting (by cases round <;> simp_all [Round.isOperation]) _ member
      exact .inr ⟨only.1, only.2, nofun⟩
    · rcases inRound.running operating _ member with ⟨⟨_, shape, rest⟩, count, holds⟩ | ⟨only, may⟩
      · obtain ⟨same, rfl⟩ := Fsm.Io.call.inj shape
        exact .inl ⟨same, rfl, count, holds, rest⟩
      · exact .inr ⟨only.1, only.2, fun _ => may⟩
  rcases kind with ⟨rfl, operating, count, holds, shape⟩ | ⟨quiet, rest, may⟩
  · -- the goroutine's call of `op` on its module
    have answer : done.1.rebootRequired = (op.call (cfg.modules id) env).2.1 := by
      rw [performed]
      exact congrArg (fun called => called.1.rebootRequired) (call_moduleCall unmarshalType op env)
    have module : done.2.2 id = (op.call (cfg.modules id) env).1 := by
      rw [performed]
      simp [Fsm.perform, call_moduleCall]
    have frame : ∀ target, target ≠ id → done.2.2 target = cfg.modules target ∧
        callCount target op.moduleCall (log ++ [.call id (.module id op.moduleCall) done.1]) =
          callCount target op.moduleCall log := by
      intro target other
      refine ⟨?_, by simp [Label.calls, Ne.symm other]⟩
      rw [performed, Fsm.perform_other]
      exact fun made equal => other (Fsm.ExtCall.module.inj equal).1.symm
    have counted : callCount id op.moduleCall (log ++ [.call id (.module id op.moduleCall) done.1]) =
        callCount id op.moduleCall log + 1 := by simp [Label.calls]
    have notReboot : round ≠ .reboot := by
      rintro rfl
      cases operating
    refine ⟨inRound.pass, by simp [inRound.opPasses], by simp [inRound.rebootPasses],
      fun target => ?_, fun target held => ?_, inRound.second, fun _ item queued => ?_,
      fun _ thread launched => ?_, fun rebooting => absurd rebooting notReboot, credit, within,
      paid⟩
    · by_cases same : target = id
      · rw [same, counted, count]
      · rw [(frame target same).2]
        exact inRound.calls target
    · have other : target ≠ id := fun same => ok.held_apart
        (by rw [inRound.operation operating]; rfl) member (same ▸ held)
      rw [(frame target other).1, (frame target other).2]
      exact inRound.held target held
    · have other := ok.pending_apart queued member
      rw [(frame _ other).1, (frame _ other).2]
      exact inRound.pending operating item queued
    · rcases moved thread launched with rfl | ⟨before, other⟩
      · refine .inr ⟨(shape done.1).1, ?_⟩
        dsimp only
        cases round with
        | reboot => cases operating
        | first =>
            cases asked : (op.call (cfg.modules id) env).2.1
            · exact .inl ((shape done.1).2 (by rw [answer, asked]))
            · exact .inr ⟨rfl, by rw [counted, count]; rfl,
                by rw [module]; exact call_holds_target asked⟩
        | second => exact .inl ((shape done.1).2 (by rw [answer, call_at_target (holds rfl) env]))
      · rw [(frame _ other).1, (frame _ other).2]
        exact inRound.running operating thread before
  · -- a quiet call, or one of no module
    have frame : ∀ target, (∀ state, Holds state (cfg.modules target) →
          Holds state (done.2.2 target)) ∧
        callCount target op.moduleCall (log ++ [.call id request done.1]) =
          callCount target op.moduleCall log := fun target => by
      obtain ⟨holds, calls⟩ := quiet_frame op quiet env reply target
      exact ⟨holds, by simp [calls]⟩
    refine ⟨inRound.pass, by simp [inRound.opPasses], by simp [inRound.rebootPasses],
      fun target => (frame target).2 ▸ inRound.calls target, fun target held => ?_,
      inRound.second, fun operating item queued => ?_, fun operating thread launched => ?_,
      fun rebooting thread launched => ?_, credit, within, paid⟩
    · obtain ⟨count, holds⟩ := inRound.held target held
      exact ⟨(frame target).2 ▸ count, (frame target).1 _ holds⟩
    · obtain ⟨count, holds⟩ := inRound.pending operating item queued
      exact ⟨(frame _).2 ▸ count, fun second => (frame _).1 _ (holds second)⟩
    · rcases List.mem_or_eq_of_mem_set launched with before | rfl
      · rw [(frame thread.id).2]
        rcases inRound.running operating thread before with ⟨shape, count, holds⟩ | ⟨only, may⟩
        · exact .inl ⟨shape, count, fun second => (frame _).1 _ (holds second)⟩
        · exact .inr ⟨only, may.imp_right fun ⟨first, count, holds⟩ =>
            ⟨first, count, (frame _).1 _ holds⟩⟩
      · refine .inr ⟨rest done.1, ?_⟩
        rcases may operating with returns | ⟨first, count, holds⟩
        · exact .inl (returns done.1)
        · exact .inr ⟨first, (frame id).2 ▸ count, (frame id).1 _ holds⟩
    · rcases List.mem_or_eq_of_mem_set launched with before | rfl
      · exact inRound.rebooting rebooting thread before
      · exact rest done.1

end Call

section Passed

variable {setup : Setup} {handler : Handler} {event : Fsm.Event}

private theorem InRound.passCounts (inRound : InRound op ids modules log loop round) :
    passCount true (log ++ [.passed loop.pass.isOperation]) ≤ 2 ∧
      passCount false (log ++ [.passed loop.pass.isOperation]) ≤ 1 := by
  have opPasses := inRound.opPasses
  have rebootPasses := inRound.rebootPasses
  rw [inRound.pass]
  cases round <;> simp_all [Round.isOperation, Round.opPasses, Round.rebootPasses]

theorem InRound.passed (inRound : InRound op ids modules log loop round)
    (ok : PassOk setup handler event log loop) (same : handler.state.componentStatuses.ids = ids)
    {result : Option String} {next : LoopState}
    (stage : (Fsm.passReturned setup event handler.runtimeVendor handler.state.componentStatuses
      loop result).2 = .loop next) :
    ∃ round', InRound op ids modules (log ++ [.passed loop.pass.isOperation]) next round' := by
  have fewer := ok.statuses_le
  rw [same] at fewer
  obtain ⟨credit, -, paid⟩ := inRound.budget
  have counted : ∀ id operation, callCount id op.moduleCall (log ++ [.passed operation]) =
      callCount id op.moduleCall log := fun _ _ => by simp [Label.calls]
  rcases (Fsm.passReturned_spec setup event handler.runtimeVendor handler.state.componentStatuses
      loop result).2 next stage with
    ⟨operating, operations, rfl, collected⟩ | ⟨rebooting, operations, rfl, collected⟩
  · obtain rfl : round = .first := by
      cases round with
      | first => rfl
      | reboot => exact absurd (inRound.pass.symm.trans operating) (by decide)
      | second =>
          obtain ⟨err, returns⟩ := Fsm.passReturned_of_empty setup event handler.runtimeVendor
            handler.state.componentStatuses result (inRound.operation rfl) (inRound.second rfl)
          rw [returns] at stage
          cases stage
    have cost := Fsm.Sched.start_cost operations
    have bound := collected.length_le
    refine ⟨.reboot, rfl, by simp [operating, inRound.opPasses, Round.opPasses],
      by simp [operating, inRound.rebootPasses, Round.rebootPasses],
      fun id => (counted id _).symm ▸ inRound.calls id,
      fun id held => (counted id _).symm ▸ inRound.held id held, nofun, nofun,
      fun _ _ launched => by simp [Fsm.Sched.start] at launched,
      fun _ _ launched => by simp [Fsm.Sched.start] at launched, credit, nofun, ?_⟩
    simp only [List.length_append, List.length_singleton, Round.left] at paid ⊢
    omega
  · obtain rfl : round = .reboot := by
      cases round with
      | reboot => rfl
      | _ => exact absurd (inRound.pass.symm.trans rebooting) (by decide)
    have cost := Fsm.Sched.start_cost operations
    have bound := collected.length_le
    refine ⟨.second, rfl, by simp [rebooting, inRound.opPasses, Round.opPasses],
      by simp [rebooting, inRound.rebootPasses, Round.rebootPasses],
      fun id => (counted id _).symm ▸ (inRound.calls id).trans (by decide), nofun, fun _ => rfl,
      fun _ item queued => ?_, fun _ _ launched => by simp [Fsm.Sched.start] at launched, nofun,
      credit, nofun, ?_⟩
    · have listed := collected.mem_ids ((Fsm.Sched.start_pending operations).subset queued)
      obtain ⟨count, holds⟩ := inRound.held _ listed
      exact ⟨(counted _ _).trans count, fun _ => holds⟩
    · simp only [List.length_append, List.length_singleton, Round.left] at paid ⊢
      omega

theorem InRound.start {operations : List (Nat × Thread)}
    (count : operations.length ≤ ids.length) :
    InRound op ids modules [] ⟨none, .operation, Fsm.Sched.start operations, []⟩ .first := by
  have cost := Fsm.Sched.start_cost operations
  refine ⟨rfl, rfl, rfl, fun _ => Nat.zero_le _, nofun, nofun, fun _ _ _ => ⟨rfl, nofun⟩,
    fun _ _ launched => by simp [Fsm.Sched.start] at launched, nofun, fun _ => 0, nofun, ?_⟩
  simp only [List.length_nil, Fsm.total_zero, Round.left]
  omega

end Passed

end Round

/-! ### Every step of the transition -/

section Tally

variable {unmarshalType : String → Except String String} {n : Nat}

/-- The transition whose labels since its event are `log`, running `op` on `n` overlay
modules: what it has called and passed so far, the labels it and the client's reads of the
status channel may still show, and the pass it is in. -/
structure Tally (op : Op) (n : Nat) (cfg : Config (overlayModule unmarshalType))
    (log : List Label) : Prop where
  calls : ∀ id, callCount id op.moduleCall log ≤ 2
  opPasses : passCount true log ≤ 2
  rebootPasses : passCount false log ≤ 1
  length : log.length + ((cfg.handler.flight.map fun flight => flight.stage.rest).getD 0) +
    cfg.handler.queued ≤ 15 * n + 9
  room : ∀ flight, cfg.handler.flight = some flight → cfg.handler.queued ≤ Fsm.statusChannelSize
  event : ∀ flight, cfg.handler.flight = some flight → flight.event.op = some op
  round : ∀ flight loop, cfg.handler.flight = some flight → flight.stage = .loop loop →
    cfg.handler.state.componentStatuses.ids.length = n ∧
      ∃ round, InRound op cfg.handler.state.componentStatuses.ids cfg.modules log loop round

variable {op : Op} {log : List Label} {round : Round} {cfg next : Config (overlayModule unmarshalType)}
  {event : Fsm.Event} {current : Fsm.UpdateState}

private theorem Tally.of_round {loop : LoopState}
    (inFlight : cfg.handler.flight = some ⟨event, current, .loop loop⟩) (operation : event.op = some op)
    (count : cfg.handler.state.componentStatuses.ids.length = n)
    (inRound : InRound op cfg.handler.state.componentStatuses.ids cfg.modules log loop round)
    (room : cfg.handler.queued ≤ Fsm.statusChannelSize) :
    Tally op n cfg log := by
  have length := inRound.length
  rw [count] at length
  refine ⟨fun id => (inRound.calls id).trans (by cases round <;> decide),
    by rw [inRound.opPasses]; cases round <;> decide,
    by rw [inRound.rebootPasses]; cases round <;> decide,
    by simp only [inFlight, Option.map_some', Option.getD_some, Fsm.Stage.rest]
       unfold Fsm.statusChannelSize at room
       omega,
    fun _ _ => room, fun flight same => ?_, fun flight loop' same atLoop => ?_⟩
  all_goals rw [inFlight] at same; cases same
  · exact operation
  · cases atLoop
    exact ⟨count, round, inRound⟩

private theorem Tally.of_rest {stage : Fsm.Stage}
    (inFlight : cfg.handler.flight = some ⟨event, current, stage⟩)
    (resting : ∀ loop, stage ≠ .loop loop) (operation : event.op = some op)
    (calls : ∀ id, callCount id op.moduleCall log ≤ 2) (opPasses : passCount true log ≤ 2)
    (rebootPasses : passCount false log ≤ 1)
    (length : log.length + stage.rest + cfg.handler.queued ≤ 15 * n + 9)
    (room : cfg.handler.queued ≤ Fsm.statusChannelSize) :
    Tally op n cfg log := by
  refine ⟨calls, opPasses, rebootPasses, by simpa [inFlight] using length, fun _ _ => room,
    fun flight same => ?_, fun flight loop same atLoop => ?_⟩
  all_goals rw [inFlight] at same; cases same
  · exact operation
  · exact absurd atLoop (resting loop)

theorem Tally.of_settled (settled : cfg.handler.flight = none)
    (calls : ∀ id, callCount id op.moduleCall log ≤ 2) (opPasses : passCount true log ≤ 2)
    (rebootPasses : passCount false log ≤ 1) (length : log.length + cfg.handler.queued ≤ 15 * n + 9) :
    Tally op n cfg log :=
  ⟨calls, opPasses, rebootPasses, by simpa [settled] using length,
    fun _ same => (by rw [settled] at same; cases same),
    fun _ same => (by rw [settled] at same; cases same),
    fun _ _ same => (by rw [settled] at same; cases same)⟩

theorem Tally.rest (tally : Tally op n cfg log) {stage : Fsm.Stage}
    (inFlight : cfg.handler.flight = some ⟨event, current, stage⟩) (label : Label)
    (noCall : ∀ id, label.calls id op.moduleCall = false)
    (noPass : ∀ operation, label ≠ .passed operation) :
    event.op = some op ∧ (∀ id, callCount id op.moduleCall (log ++ [label]) ≤ 2) ∧
      passCount true (log ++ [label]) ≤ 2 ∧ passCount false (log ++ [label]) ≤ 1 ∧
      (log ++ [label]).length + stage.rest + cfg.handler.queued ≤ 15 * n + 10 ∧
      cfg.handler.queued ≤ Fsm.statusChannelSize := by
  have length := tally.length
  simp only [inFlight, Option.map_some', Option.getD_some] at length
  refine ⟨tally.event _ inFlight, fun id => by simpa [noCall] using tally.calls id,
    by simpa [noPass] using tally.opPasses, by simpa [noPass] using tally.rebootPasses, ?_,
    tally.room _ inFlight⟩
  simp only [List.length_append, List.length_singleton]
  omega

private theorem step_tally {setup : Setup} {choice : Fsm.Choice (overlayModule unmarshalType)}
    {label : Label} {trace : List Label} (tally : Tally op n cfg (Fsm.since trace))
    (flying : FlightOk setup cfg trace) (stepped : Fsm.step setup cfg choice = some (label, next))
    (inner : label.isBoundary = false) : Tally op n next (Fsm.since trace ++ [label]) := by
  cases choice with
  | send event order =>
      obtain ⟨-, -, rfl, -⟩ := Fsm.sendEvent_some stepped
      cases inner
  | restart restartEnv versionEnv =>
      cases stepped
      cases inner
  | advance =>
      have queued : next.handler.queued = cfg.handler.queued := Fsm.step_queued stepped
      obtain ⟨-, modules, ⟨event, current, stage⟩, inFlight, launch | barrier | returned | ended⟩ :=
        Fsm.advance_some stepped
      · obtain ⟨loop, priority, thread, rest, rfl, pending, atPriority, rfl, same⟩ := launch
        obtain ⟨count, round, inRound⟩ := tally.round _ loop inFlight rfl
        have operation := tally.event _ inFlight
        exact Tally.of_round (Fsm.Handler.flight_of_withStage inFlight same) operation
          (by rw [same]; exact count) (by
            rw [same, modules, Fsm.Handler.withStage_state]
            exact inRound.launch cfg.handler.state.componentStatuses.keyed
              (flying _ loop inFlight rfl) operation pending atPriority)
          (queued ▸ tally.room _ inFlight)
      · obtain ⟨loop, priority, thread, rest, rfl, pending, differs, idle, clean, rfl, same⟩ := barrier
        obtain ⟨count, round, inRound⟩ := tally.round _ loop inFlight rfl
        exact Tally.of_round (Fsm.Handler.flight_of_withStage inFlight same)
          (tally.event _ inFlight) (by rw [same]; exact count) (by
            rw [same, modules, Fsm.Handler.withStage_state]
            exact inRound.regroup pending differs idle clean)
          (queued ▸ tally.room _ inFlight)
      · obtain ⟨loop, result, rfl, -, -, rfl, same⟩ := returned
        obtain ⟨count, round, inRound⟩ := tally.round _ loop inFlight rfl
        have nextFlight := Fsm.Handler.flight_of_withStatuses inFlight same
        have ids : next.handler.state.componentStatuses.ids =
            cfg.handler.state.componentStatuses.ids := by
          rw [same]
          exact (Fsm.passReturned_spec ..).1.ids
        have fresh := Fsm.passReturned_fresh setup event cfg.handler.runtimeVendor
          cfg.handler.state.componentStatuses loop result
        cases stage : (Fsm.passReturned setup event cfg.handler.runtimeVendor
          cfg.handler.state.componentStatuses loop result).2 with
        | loop next' =>
            obtain ⟨round', inRound'⟩ := inRound.passed (flying _ loop inFlight rfl) rfl stage
            rw [stage] at nextFlight
            exact Tally.of_round nextFlight (tally.event _ inFlight) (by rw [ids]; exact count)
              (by rw [ids, modules]; exact inRound') (queued ▸ tally.room _ inFlight)
        | returned err =>
            rw [stage] at nextFlight
            obtain ⟨opPasses, rebootPasses⟩ := inRound.passCounts
            have length := inRound.length
            have room : cfg.handler.queued ≤ 1 := tally.room _ inFlight
            refine Tally.of_rest nextFlight nofun (tally.event _ inFlight)
              (fun id => by simpa [Label.calls] using tally.calls id) opPasses rebootPasses ?_
              (queued ▸ tally.room _ inFlight)
            simp only [List.length_append, List.length_singleton, Fsm.Stage.rest, queued]
            omega
        | _ =>
            rw [stage] at fresh
            exact fresh.elim
      · obtain ⟨err, rfl, rfl, same⟩ := ended
        obtain ⟨operation, calls, opPasses, rebootPasses, length, room⟩ :=
          tally.rest inFlight .control (fun _ => rfl) nofun
        exact Tally.of_rest (show next.handler.flight = some ⟨event, _, .settling⟩ by rw [same])
          nofun operation calls opPasses rebootPasses
          (by simp only [Fsm.Stage.rest, queued] at length ⊢; omega) (queued ▸ room)
  | goroutine index env reply =>
      have queued : next.handler.queued = cfg.handler.queued := Fsm.step_queued stepped
      obtain ⟨event, current, loop, id, request, resume, inFlight, waiting, rfl, -, modules, same⟩ :=
        Fsm.goroutineCall_some stepped
      obtain ⟨count, round, inRound⟩ := tally.round _ loop inFlight rfl
      have ok := flying _ loop inFlight rfl
      exact Tally.of_round (Fsm.Handler.flight_of_withStage inFlight same) (tally.event _ inFlight)
        (by rw [same]; exact count) (by
          rw [same, modules, Fsm.Handler.withStage_state]
          exact inRound.call cfg.handler.state.componentStatuses.keyed ok
            (fun _ launched => ok.running_known launched) waiting env reply)
        (queued ▸ tally.room _ inFlight)
  | finish index =>
      have queued : next.handler.queued = cfg.handler.queued := Fsm.step_queued stepped
      obtain ⟨event, current, loop, id, rebootRequired, err, inFlight, returned, rfl, -, modules,
        same⟩ := Fsm.goroutineFinish_some stepped
      obtain ⟨count, round, inRound⟩ := tally.round _ loop inFlight rfl
      have ids : next.handler.state.componentStatuses.ids =
          cfg.handler.state.componentStatuses.ids := by
        rw [same]
        exact (Fsm.finishThread_like ..).ids
      exact Tally.of_round (Fsm.Handler.flight_of_withStatuses inFlight same)
        (tally.event _ inFlight) (by rw [ids]; exact count) (by
          rw [ids, modules, Fsm.finishThread_loop]
          exact inRound.finish returned)
        (queued ▸ tally.room _ inFlight)
  | settle env =>
      have queued : next.handler.queued = cfg.handler.queued := Fsm.step_queued stepped
      obtain ⟨event, current, inFlight, shown, -, nextFlight, -⟩ := Fsm.settle_some stepped
      obtain ⟨operation, calls, opPasses, rebootPasses, length, room⟩ :=
        tally.rest inFlight label (fun _ => by rw [shown]; rfl) (by rw [shown]; nofun)
      refine Tally.of_rest nextFlight (fun loop => by split <;> nofun) operation calls opPasses
        rebootPasses ?_ (queued ▸ room)
      rw [queued]
      split <;> simp only [Fsm.Stage.rest] at length ⊢ <;> omega
  | clean err kept =>
      have queued : next.handler.queued = cfg.handler.queued := Fsm.step_queued stepped
      obtain ⟨event, current, inFlight, shown, -, -, same⟩ := Fsm.clean_some stepped
      obtain ⟨operation, calls, opPasses, rebootPasses, length, room⟩ :=
        tally.rest inFlight label (fun _ => by rw [shown]; rfl) (by rw [shown]; nofun)
      exact Tally.of_rest (Fsm.Handler.flight_of_withStage inFlight same) nofun operation calls
        opPasses rebootPasses (by simp only [Fsm.Stage.rest, queued] at length ⊢; omega)
        (queued ▸ room)
  | save err =>
      have queued : next.handler.queued = cfg.handler.queued + 1 := Fsm.step_queued stepped
      obtain ⟨event, current, inFlight, shown, -, settled, -⟩ := Fsm.save_some stepped
      obtain ⟨-, calls, opPasses, rebootPasses, length, -⟩ :=
        tally.rest inFlight label (fun _ => by rw [shown]; rfl) (by rw [shown]; nofun)
      exact Tally.of_settled settled calls opPasses rebootPasses
        (by simp only [Fsm.Stage.rest, queued] at length ⊢; omega)
  | receive =>
      have queued : next.handler.queued + 1 = cfg.handler.queued := Fsm.step_queued stepped
      obtain ⟨rfl, settled, -, -, -, nextSettled, -⟩ := Fsm.receive_some stepped
      have length := tally.length
      simp only [settled, Option.map_none', Option.getD_none] at length
      exact Tally.of_settled nextSettled (fun id => by simpa [Label.calls] using tally.calls id)
        (by simpa using tally.opPasses) (by simpa using tally.rebootPasses)
        (by simp only [List.length_append, List.length_singleton]; omega)

private theorem send_tally {setup : Setup} {event sent : Fsm.Event} {order : List String}
    {source : Fsm.HandlerState}
    (stepped : Fsm.step setup cfg (.send sent order) = some (.accept event source, next))
    (operation : event.op = some op) : Tally op source.componentStatuses.ids.length next [] := by
  have room : next.handler.queued ≤ Fsm.statusChannelSize :=
    (Fsm.step_queued stepped : next.handler.queued = cfg.handler.queued) ▸ Fsm.sendEvent_room stepped
  obtain ⟨-, -, accepted, -, modules, began⟩ := Fsm.sendEvent_some stepped
  obtain ⟨rfl, rfl⟩ := Label.accept.inj accepted
  have statuses : event.statuses cfg.handler.state.componentStatuses =
      cfg.handler.state.componentStatuses := by
    cases event <;> first | rfl | cases operation
  obtain ⟨-, ⟨rfl, -⟩ | ⟨-, perm, state, nextFlight⟩⟩ := Fsm.startTransition_some began
  · cases operation
  rw [statuses] at perm state nextFlight
  have ids : next.handler.state.componentStatuses.ids = cfg.handler.state.componentStatuses.ids := by
    rw [state]
    exact (Fsm.componentOperation_spec ..).1.ids
  have fresh := Fsm.componentOperation_fresh setup event cfg.handler.runtimeVendor
    cfg.handler.state.componentStatuses order
  cases stage : (Fsm.componentOperation setup event cfg.handler.runtimeVendor
    cfg.handler.state.componentStatuses order).2 with
  | loop loop =>
      obtain ⟨operations, rfl, collected⟩ := (Fsm.componentOperation_spec ..).2 _ stage
      rw [stage] at nextFlight
      exact Tally.of_round nextFlight operation (by rw [ids]) (by
        rw [ids, modules]
        exact InRound.start (collected.length_le.trans (List.isPerm_iff.mp perm).length_eq.le))
        room
  | returned err =>
      rw [stage] at nextFlight
      refine Tally.of_rest nextFlight nofun operation (fun _ => by simp) (by simp) (by simp) ?_ room
      unfold Fsm.statusChannelSize at room
      simp only [List.length_nil, Fsm.Stage.rest]
      omega
  | _ =>
      rw [stage] at fresh
      exact fresh.elim

private theorem reach_tally {setup : Setup} {start : Config (overlayModule unmarshalType)}
    {trace : List Label} (initial : start.handler.flight = none)
    (reach : Reach setup start cfg trace) {pre : List Label} {event : Fsm.Event}
    {source : Fsm.HandlerState} (opened : trace = pre ++ .accept event source :: log)
    (quiet : Fsm.Quiet log) (operation : event.op = some op) :
    Tally op source.componentStatuses.ids.length cfg log := by
  induction reach generalizing log with
  | start => simp at opened
  | step choice prior stepped ih =>
      rcases Fsm.split_snoc opened with ⟨rfl, rfl, -⟩ | ⟨log, rfl, upTo⟩
      · rcases Fsm.step_boundary stepped rfl with ⟨_, _, rfl⟩ | ⟨_, _, rfl⟩
        · exact send_tally stepped operation
        · cases stepped
      · have before : Fsm.Quiet log := fun label member => quiet label (List.mem_append_left _ member)
        have tally := ih upTo before
        rw [← Fsm.since_split _ pre _ log upTo rfl before] at tally ⊢
        exact step_tally tally (Fsm.reach_flightOk initial prior) stepped
          (quiet _ (List.mem_append_right _ (List.mem_singleton_self _)))

end Tally


/-! ### Every run -/

section Bounded

variable {unmarshalType : String → Except String String}

/-- Over every run of the FSM handler whose modules are overlay modules, from a start with no
transition in flight, with any events, file system, storage and boot results and restarts at
any point: from its event on, each update, apply or revert transition calls each module's
`Update` (`Apply`, `Revert`) at most twice, returns from at most two `doOperation` passes and
one `doReboot` pass, and shows at most `15 * n + 9` labels for the `n` components of its
status map, the client's reads of the statuses it sends included; while it is in flight, it can always go on without a crash. An
operation that asked for a reboot does not ask again on its next call on the module, in the
same process or after restarts, with no other operation on the module in between. -/
theorem overlay_reboots_bounded {setup : Setup} {start cfg : Config (overlayModule unmarshalType)}
    {trace : List Label} (initial : start.handler.flight = none)
    (reach : Reach setup start cfg trace) :
    (∀ pre event source log (op : Op), trace = pre ++ .accept event source :: log → Fsm.Quiet log →
      event.op = some op →
        (∀ target, callCount target op.moduleCall log ≤ 2) ∧ passCount true log ≤ 2 ∧
          passCount false log ≤ 1 ∧ log.length ≤ 15 * source.componentStatuses.ids.length + 9) ∧
    (∀ flight, cfg.handler.flight = some flight →
      ∃ choice : Fsm.Choice (overlayModule unmarshalType), choice.isRestart = false ∧
        (Fsm.step setup cfg choice).isSome) ∧
    (∀ before id target (op : Op) reply after,
      trace = before ++ .call id (.module target op.moduleCall) reply :: after →
      reply.rebootRequired = true →
      (∀ id call reply, Label.call id (.module target call) reply ∈ after → QuietCall call) →
      ∀ choice next other reply', Fsm.step setup cfg choice =
        some (.call other (.module target op.moduleCall) reply', next) →
          reply'.rebootRequired = false) := by
  refine ⟨fun pre event source log op opened quiet operation => ?_,
    fun _ inFlight => Fsm.flight_enabled inFlight quietEnv fun _ => quietEnv,
    fun before id target op reply after opened asked quiet choice next other reply' stepped =>
      handler_reboot_requested_once unmarshalType (opened ▸ reach) asked quiet stepped⟩
  have tally := reach_tally initial reach opened quiet operation
  exact ⟨tally.calls, tally.opPasses, tally.rebootPasses, by have := tally.length; omega⟩

end Bounded

def rebootedUpdate : List (Fsm.Choice (overlayModule Except.ok)) :=
  [.send .update ["c"], .advance, .goroutine 0 quietEnv {}, .finish 0, .advance, .advance,
    .goroutine 0 quietEnv {}, .finish 0, .advance, .advance, .goroutine 0 quietEnv {},
    .goroutine 0 quietEnv {}, .finish 0, .advance, .advance, .settle fun _ => quietEnv, .save none]

def rebootedLog : List Label :=
  ((Fsm.run Fsm.oneSetup overlayStart rebootedUpdate).getD (overlayStart, [])).2.tail

/-- The update stays within its bounds. -/
theorem rebooted_update_bounded :
    (∀ target, callCount target Op.update.moduleCall rebootedLog ≤ 2) ∧
      passCount true rebootedLog ≤ 2 ∧ passCount false rebootedLog ≤ 1 ∧
      rebootedLog.length ≤ 15 * preparedState.componentStatuses.ids.length + 9 := by
  have ran : ((Fsm.run Fsm.oneSetup overlayStart rebootedUpdate).getD (overlayStart, [])).2 =
      [] ++ .accept .update preparedState :: rebootedLog := by
    decide
  exact (overlay_reboots_bounded rfl (Fsm.Reach.of_run_getD rebootedUpdate (overlayStart, [])
    (by decide))).1 _ _ _ _ .update ran (by unfold Fsm.Quiet; decide) rfl

-- In the update, the bounds are reached: `Update` of `c` is called twice, and two `doOperation`
-- passes and one `doReboot` pass return.
example : callCount "c" Op.update.moduleCall rebootedLog = 2 ∧ passCount true rebootedLog = 2 ∧
    passCount false rebootedLog = 1 := by
  decide

end UpdateManager.Overlay
