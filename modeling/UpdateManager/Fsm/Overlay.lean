import UpdateManager.Overlay
import UpdateManager.Fsm.History

/-!
# The FSM handler with overlay modules

A step changes a module's state only by a call of that module, by the `GetVendorVersion` of
`onStateChanged`, or by a restart (`step_module`). So the law of the overlay module holds in
every run of the handler: an operation that asked for a reboot does not ask again on its next
call (`handler_reboot_requested_once`).
-/

namespace UpdateManager.Fsm

variable {M : ModuleModel} {setup : Setup} {cfg next : Config M} {choice : Choice M}
  {label : Label} {target : String}

theorem perform_other {request : ExtCall} (other : ∀ call, request ≠ .module target call)
    (env : M.Env) (reply : Reply) :
    (perform setup cfg request env reply).2.2 target = cfg.modules target := by
  cases request with
  | module id call =>
      have elsewhere : target ≠ id := by
        rintro rfl
        exact other call rfl
      exact Function.update_noteq elsewhere _ _
  | _ =>
      simp only [perform]
      repeat' split
      all_goals rfl

private theorem step_module_call {id : String} {call : ModuleCall} {reply : Reply}
    (stepped : step setup cfg choice = some (.call id (.module target call) reply, next)) :
    ∃ env, reply = (M.call (cfg.modules target) call env).1 ∧
      next.modules target = (M.call (cfg.modules target) call env).2 := by
  cases choice with
  | goroutine index env given =>
      obtain ⟨_, _, _, _, _, _, -, -, shown, -, modules, -⟩ := goroutineCall_some stepped
      cases shown
      exact ⟨env, rfl, by rw [modules]; exact Function.update_same _ _ _⟩
  | send event order => cases (sendEvent_some stepped).2.2.1
  | advance => rcases advance_label stepped with shown | ⟨_, shown⟩ | ⟨_, shown⟩ <;> cases shown
  | finish index =>
      obtain ⟨_, _, _, _, _, _, -, -, shown, -⟩ := goroutineFinish_some stepped
      cases shown
  | settle env =>
      obtain ⟨_, _, -, shown, -⟩ := settle_some stepped
      cases shown
  | clean err kept =>
      obtain ⟨_, _, -, shown, -⟩ := clean_some stepped
      cases shown
  | save err =>
      obtain ⟨_, _, -, shown, -⟩ := save_some stepped
      cases shown
  | receive => cases (receive_some stepped).1
  | restart restartEnv versionEnv => cases stepped

private theorem settle_modules {env : String → M.Env} (settled : settle setup cfg env = some (label, next)) :
    next.modules target = cfg.modules target ∨
      next.modules target = (M.call (cfg.modules target) .getVendorVersion (env target)).2 := by
  unfold settle at settled
  split at settled
  · split at settled
    · cases settled
      dsimp only
      split
      · exact .inr rfl
      · exact .inl rfl
    · cases settled
      exact .inl rfl
  · cases settled

private theorem step_module (stepped : step setup cfg choice = some (label, next))
    (other : ∀ id call reply, label ≠ .call id (.module target call) reply) :
    next.modules target = cfg.modules target ∨
      (∃ env, next.modules target = (M.call (cfg.modules target) .getVendorVersion env).2) ∨
      ∃ env, next.modules target = M.restart (cfg.modules target) env ∨
        ∃ versionEnv, next.modules target =
          (M.call (M.restart (cfg.modules target) env) .getVendorVersion versionEnv).2 := by
  cases choice with
  | send event order =>
      obtain ⟨-, -, -, -, same, -⟩ := sendEvent_some stepped
      exact .inl (by rw [same])
  | advance => exact .inl (by rw [(advance_some stepped).2.1])
  | goroutine index env reply =>
      obtain ⟨-, -, -, id, request, -, -, -, rfl, -, modules, -⟩ := goroutineCall_some stepped
      rw [modules]
      exact .inl (perform_other (fun call same => other id call _ (by rw [same])) env reply)
  | finish index =>
      obtain ⟨-, -, -, -, -, -, -, -, -, -, same, -⟩ := goroutineFinish_some stepped
      exact .inl (by rw [same])
  | settle env => exact (settle_modules stepped).imp_right fun asked => .inl ⟨_, asked⟩
  | clean err kept =>
      obtain ⟨-, -, -, -, same, -⟩ := clean_some stepped
      exact .inl (by rw [same])
  | save err =>
      obtain ⟨-, -, -, -, same, -⟩ := save_some stepped
      exact .inl (by rw [same])
  | receive => exact .inl (by rw [(receive_some stepped).2.2.2.1])
  | restart restartEnv versionEnv =>
      cases stepped
      refine .inr (.inr ⟨restartEnv target, ?_⟩)
      dsimp only [restart]
      split
      · exact .inr ⟨_, rfl⟩
      · exact .inl rfl

end UpdateManager.Fsm

namespace UpdateManager.Overlay

open Fsm (Reach Setup Label)

variable (unmarshalType : String → Except String String)

section Runs

variable {state : UpdateState} {setup : Setup} {cfg next : Fsm.Config (overlayModule unmarshalType)}
  {choice : Fsm.Choice (overlayModule unmarshalType)} {label : Label} {target : String}

private theorem step_holds (holds : Holds state (cfg.modules target))
    (stepped : Fsm.step setup cfg choice = some (label, next))
    (quiet : ∀ id call reply, label = .call id (.module target call) reply → QuietCall call) :
    Holds state (next.modules target) := by
  by_cases called : ∃ id call reply, label = .call id (.module target call) reply
  · obtain ⟨id, call, reply, rfl⟩ := called
    obtain ⟨env, -, changed⟩ := Fsm.step_module_call stepped
    exact changed ▸ quietCall_holds unmarshalType holds (quiet _ _ _ rfl) env
  · push_neg at called
    have versionQuiet : QuietCall .getVendorVersion := trivial
    rcases Fsm.step_module stepped called with
      same | ⟨env, asked⟩ | ⟨env, rebuilt | ⟨versionEnv, asked⟩⟩
    · exact same ▸ holds
    · exact asked ▸ quietCall_holds unmarshalType holds versionQuiet env
    · exact rebuilt ▸ restart_holds unmarshalType holds env
    · exact asked ▸ quietCall_holds unmarshalType (restart_holds unmarshalType holds env)
        versionQuiet versionEnv

private theorem reach_holds {start : Fsm.Config (overlayModule unmarshalType)} {trace : List Label}
    (reach : Reach setup start cfg trace) (holds : Holds state (start.modules target))
    (quiet : ∀ id call reply, Label.call id (.module target call) reply ∈ trace → QuietCall call) :
    Holds state (cfg.modules target) := by
  induction reach with
  | start => exact holds
  | step choice _ stepped ih =>
      exact step_holds unmarshalType
        (ih fun id call reply member => quiet id call reply (List.mem_append_left _ member))
        stepped fun id call reply same =>
          quiet id call reply (List.mem_append_right _ (by simp [same]))

end Runs

theorem handler_reboot_requested_once {setup : Setup}
    {start cfg next : Fsm.Config (overlayModule unmarshalType)}
    {choice : Fsm.Choice (overlayModule unmarshalType)} {before after : List Label}
    {id other target : String} {op : Op} {reply reply' : Fsm.Reply}
    (reach : Reach setup start cfg (before ++ .call id (.module target op.moduleCall) reply :: after))
    (asked : reply.rebootRequired = true)
    (quiet : ∀ id call reply, Label.call id (.module target call) reply ∈ after → QuietCall call)
    (stepped : Fsm.step setup cfg choice = some (.call other (.module target op.moduleCall) reply', next)) :
    reply'.rebootRequired = false := by
  obtain ⟨mid, _, reached, -, called, rest⟩ := reach.split rfl
  obtain ⟨env, rfl, changed⟩ := Fsm.step_module_call called
  obtain ⟨env', rfl, -⟩ := Fsm.step_module_call stepped
  rw [call_moduleCall] at asked changed ⊢
  exact call_at_target (reach_holds unmarshalType rest (changed ▸ call_holds_target asked) quiet) env'

def preparedModule : OverlayModule :=
  { state := { updateState := .prepared, rebootRequest := false, updateType := "full" },
    bootWithUpdate := false, bootFailed := false, vendorVersion := "1.0",
    stored := some { updateState := .prepared, rebootRequest := false, updateType := "full" },
    flags := ⟨false, false⟩ }

def quietEnv : Env :=
  { versionFile := .ok "1.0", saveErr := none, clearErr := none, renameErr := none,
    writeErr := none, removeErr := none, rebootErr := none, boot := ⟨true, false⟩ }

def preparedState : Fsm.HandlerState :=
  { updateState := .prepared, error := "", componentStatuses := Fsm.statusesOf [Fsm.oneRequest 2] }

def overlayStart : Fsm.Config (overlayModule Except.ok) :=
  Fsm.boot Fsm.oneSetup ⟨some preparedState, fun _ => none, fun _ => none, []⟩
    (fun _ => preparedModule) (fun _ => quietEnv) (fun _ => quietEnv)

def updateAcrossRestart : List (Fsm.Choice (overlayModule Except.ok)) :=
  [.send .update ["c"], .advance, .goroutine 0 quietEnv {}, .finish 0, .advance, .advance,
    .goroutine 0 quietEnv {}, .restart (fun _ => quietEnv) (fun _ => quietEnv),
    .send .update ["c"], .advance]

-- In the run, `Update` of `c` asks for a reboot; the handler reboots `c`, the device restarts, and
-- in the next update transition `Update` of `c` does not ask again.
example :
    ∃ cfg next reply, Reach Fsm.oneSetup overlayStart cfg
        ([.accept .update preparedState, .launch "c"] ++
          .call "c" (.module "c" Op.update.moduleCall) { rebootRequired := true } ::
          [.finish "c" (true, none), .passed true, .launch "c", .call "c" (.module "c" .reboot) {},
            .restart preparedState, .accept .update preparedState, .launch "c"]) ∧
      Fsm.step Fsm.oneSetup cfg (.goroutine 0 quietEnv {}) =
        some (.call "c" (.module "c" Op.update.moduleCall) reply, next) ∧
      reply.rebootRequired = false := by
  have ran : ((Fsm.run Fsm.oneSetup overlayStart updateAcrossRestart).getD (overlayStart, [])).2 =
      [.accept .update preparedState, .launch "c"] ++
        .call "c" (.module "c" Op.update.moduleCall) { rebootRequired := true } ::
        [.finish "c" (true, none), .passed true, .launch "c", .call "c" (.module "c" .reboot) {},
          .restart preparedState, .accept .update preparedState, .launch "c"] := by
    decide
  have reach := ran ▸ Fsm.Reach.of_run_getD updateAcrossRestart (overlayStart, []) (by decide)
  have stepped := Fsm.step_getD overlayStart (show (Fsm.step Fsm.oneSetup
    ((Fsm.run Fsm.oneSetup overlayStart updateAcrossRestart).getD (overlayStart, [])).1
    (.goroutine 0 quietEnv {})).map Prod.fst = some (.call "c" (.module "c" Op.update.moduleCall) {})
    by decide)
  exact ⟨_, _, _, reach, stepped, handler_reboot_requested_once Except.ok reach rfl
    (by simp +contextual [QuietCall]) stepped⟩

/-! ### A `Prepare` that fails after it moved to `preparedState` -/

private theorem update_after_failed_prepare {module : OverlayModule} {env env' : Env}
    {annotations updateType : String}
    (allowed : module.state.updateState = .idle ∨ module.state.updateState = .prepared)
    (typed : unmarshalType annotations = .ok updateType)
    (failed : env.clearErr ≠ none ∨ env.renameErr ≠ none)
    (written : env'.writeErr = none) (saved : env'.saveErr = none) :
    (module.prepare env unmarshalType annotations).2 ≠ none ∧
      (module.prepare env unmarshalType annotations).1.state.updateState = .prepared ∧
      (module.prepare env unmarshalType annotations).1.stored = module.stored ∧
      ((module.prepare env unmarshalType annotations).1.update env').2 = (true, none) ∧
      ((module.prepare env unmarshalType annotations).1.update env').1.stored.map
        ModuleState.updateState = some .updated := by
  have guard : ¬(module.state.updateState ≠ .idle ∧ module.state.updateState ≠ .prepared) := by
    rcases allowed with state | state <;> simp [state]
  have moved : ∃ flags message, module.prepare env unmarshalType annotations =
      ({ module with
          state := { module.state with updateType := updateType, updateState := .prepared }
          flags := flags }, some message) := by
    cases cleared : env.clearErr with
    | some message =>
        exact ⟨module.flags, message, by simp [OverlayModule.prepare, guard, typed, cleared,
          OverlayModule.clearUpdateDir]⟩
    | none =>
        obtain ⟨message, renamed⟩ := Option.ne_none_iff_exists'.mp (failed.resolve_left (by simp [cleared]))
        exact ⟨⟨false, false⟩, message, by simp [OverlayModule.prepare, guard, typed, cleared, renamed,
          OverlayModule.clearUpdateDir]⟩
  obtain ⟨flags, message, result⟩ := moved
  simp [result, OverlayModule.update, OverlayModule.moveRequestingReboot, written,
    OverlayModule.saveState, saved]

/-! ### What a reboot rebuilds -/

def Happening.meet : Happening → OverlayModule → OverlayModule × Option String
  | .call request env, module =>
      (((overlayModule unmarshalType).call module request env).2,
        ((overlayModule unmarshalType).call module request env).1.err)
  | .reboot env, module => (module.new env.boot).init env

/-- The module after the happenings, with the error each returned. -/
def live (module : OverlayModule) : List Happening → OverlayModule × List (Option String)
  | [] => (module, [])
  | happening :: rest =>
      let met := happening.meet unmarshalType module
      ((live met.1 rest).1, met.2 :: (live met.1 rest).2)

private theorem meet_persisted {module : OverlayModule} (persisted : Persisted module)
    {happening : Happening} (ok : (happening.meet unmarshalType module).2 = none) :
    Persisted (happening.meet unmarshalType module).1 := by
  cases happening with
  | call request env => exact call_persisted unmarshalType persisted ok
  | reboot env => exact restart_persisted unmarshalType ok

/-- Over any history of an overlay module, calls of the handler and reboots of the device, in
which every call and every `Init` returned nil, the storage entry keeps the module state, so a
reboot rebuilds the module in the state the last call left it in. -/
theorem live_persisted {module : OverlayModule} (persisted : Persisted module)
    (happenings : List Happening)
    (ok : ∀ err ∈ (live unmarshalType module happenings).2, err = none) :
    Persisted (live unmarshalType module happenings).1 ∧
      ∀ flags, ((live unmarshalType module happenings).1.new flags).state =
        (live unmarshalType module happenings).1.state := by
  induction happenings generalizing module with
  | nil => exact ⟨persisted, persisted.new_state⟩
  | cons happening rest ih =>
      exact ih (meet_persisted unmarshalType persisted (ok _ (List.mem_cons_self _ _)))
        fun err member => ok err (List.mem_cons_of_mem _ member)

def updateApplyHistory : List Happening :=
  [.call .update quietEnv, .reboot quietEnv, .call .apply quietEnv, .reboot quietEnv]

/-- A prepared module updated, rebooted, applied and rebooted stays persisted. -/
theorem update_apply_persisted :
    (∀ err ∈ (live Except.ok preparedModule updateApplyHistory).2, err = none) ∧
      Persisted (live Except.ok preparedModule updateApplyHistory).1 ∧
      ∀ flags, ((live Except.ok preparedModule updateApplyHistory).1.new flags).state =
        (live Except.ok preparedModule updateApplyHistory).1.state :=
  have ok : ∀ err ∈ (live Except.ok preparedModule updateApplyHistory).2, err = none := by decide
  ⟨ok, live_persisted Except.ok (show Persisted preparedModule from rfl) _ ok⟩

end UpdateManager.Overlay
