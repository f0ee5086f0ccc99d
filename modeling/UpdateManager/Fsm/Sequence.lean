import UpdateManager.Fsm.Prepare

/-!
# The order of the transitions

Only the goroutine of a component, in the operation pass of an update, calls `Update`, and a
prepare that settled in `Prepared` succeeded. So `Update` is called on a component only after
the last prepare settled in `Prepared` and was stored, and `module.Prepare` of the component
returned nil there (`update_only_after_prepare`).
-/

namespace UpdateManager.Fsm

variable {M : ModuleModel}

/-! ### What a goroutine may ask of a module -/

def PrepareRequest (id : String) : ExtCall → Prop
  | .module target .getVendorVersion => target = id
  | .module target (.prepare ..) => target = id
  | .module .. => False
  | .setAosVersion .. => False
  | _ => True

section Closures

variable {downloadDir id : String} {info : ComponentUpdateInfo}

private theorem prepareImage_requests : (prepareImage downloadDir id info).Only (PrepareRequest id) := by
  refine ⟨trivial, fun file => ?_⟩
  dsimp only
  split
  · trivial
  · refine ⟨trivial, fun checked => ?_⟩
    dsimp only
    split
    · trivial
    · exact ⟨rfl, fun _ => trivial⟩

private theorem checkAosVersion_requests : (checkAosVersion downloadDir id info).Only (PrepareRequest id) := by
  unfold checkAosVersion
  split
  · exact prepareImage_requests
  · refine ⟨trivial, fun stored => ?_⟩
    dsimp only
    split
    · exact prepareImage_requests
    · split
      · trivial
      · split
        · trivial
        · exact prepareImage_requests

private theorem prepareOperation_requests (infos : List ComponentUpdateInfo) (currentVendor : String → String) :
    (prepareOperation infos currentVendor downloadDir id).Only (PrepareRequest id) := by
  unfold prepareOperation
  split
  · trivial
  · refine Io.Only.map ⟨trivial, fun stored => ?_⟩
    dsimp only
    split
    · trivial
    · refine ⟨rfl, fun current => ?_⟩
      dsimp only
      split
      · trivial
      · exact checkAosVersion_requests

private theorem updateOperation_requests (requested : String) :
    (updateOperation requested id).Only fun request => ∃ call, request = .module id call := by
  refine ⟨⟨_, rfl⟩, fun updated => ?_⟩
  dsimp only
  split
  · trivial
  · split
    · trivial
    · refine ⟨⟨_, rfl⟩, fun current => ?_⟩
      dsimp only
      split
      · trivial
      · split <;> trivial

end Closures

def UpdatePermitted (event : Event) (pass : Pass) (id : String) (request : ExtCall) : Prop :=
  ∀ target, request = .module target .update → event = .update ∧ pass = .operation ∧ target = id

private theorem passClosure_updatePermitted (setup : Setup) (handler : Handler) (event : Event)
    (pass : Pass) (id : String) :
    (passClosure setup handler event pass id).Only (UpdatePermitted event pass id) := by
  cases pass with
  | reboot blamed => exact ⟨nofun, fun _ => trivial⟩
  | operation =>
      cases event with
      | prepare infos =>
          refine (prepareOperation_requests infos _).mono fun request allowed target same => ?_
          subst same
          exact allowed.elim
      | update =>
          refine (updateOperation_requests _).mono fun request ⟨call, same⟩ target called => ?_
          rw [same, ExtCall.module.injEq] at called
          exact ⟨rfl, rfl, called.1.symm⟩
      | apply =>
          refine ⟨nofun, fun applied => ?_⟩
          dsimp only
          split
          · trivial
          · split
            · trivial
            · exact ⟨nofun, fun _ => trivial⟩
      | revert => exact ⟨nofun, fun _ => trivial⟩

section Steps

variable {setup : Setup} {cfg next : Config M} {choice : Choice M} {trace : List Label}

theorem FlightOk.updates (flying : FlightOk setup cfg trace) {event : Event}
    {current : UpdateState} {loop : LoopState} {index : Nat} {id : String} {request : ExtCall}
    {resume : Reply → Io (Bool × Option String)}
    (inFlight : cfg.handler.flight = some ⟨event, current, .loop loop⟩)
    (waiting : loop.sched.running[index]? = some ⟨id, .call request resume⟩) :
    UpdatePermitted event loop.pass id request := by
  obtain ⟨_, _, -, runs⟩ := (flying _ loop inFlight rfl).running _ (List.getElem?_mem waiting)
  exact (runs.only (passClosure_updatePermitted ..)).request

private theorem step_settle {state : UpdateState}
    (stepped : step setup cfg choice = some (.settle state, next)) :
    ∃ env, settle setup cfg env = some (.settle state, next) := by
  cases choice with
  | settle env => exact ⟨env, stepped⟩
  | send event order => cases (sendEvent_some stepped).2.2.1
  | advance =>
      rcases advance_label stepped with shown | ⟨_, shown⟩ | ⟨_, shown⟩ <;> cases shown
  | goroutine index env reply =>
      obtain ⟨_, _, _, _, _, _, -, -, shown, -⟩ := goroutineCall_some stepped
      cases shown
  | finish index =>
      obtain ⟨_, _, _, _, _, _, -, -, shown, -⟩ := goroutineFinish_some stepped
      cases shown
  | clean err kept =>
      obtain ⟨_, _, -, shown, -⟩ := clean_some stepped
      cases shown
  | save err =>
      obtain ⟨_, _, -, shown, -⟩ := save_some stepped
      cases shown
  | receive => cases (receive_some stepped).1
  | restart restartEnv versionEnv => cases stepped

end Steps

/-! ### Every run from a first start -/

section Run

variable {setup : Setup} {storage : Storage} {modules : String → M.State}
  {restartEnv versionEnv : String → M.Env} {cfg next : Config M} {choice : Choice M}
  {trace : List Label}

private theorem settle_prepared_all {start : Config M} (initial : start.handler.flight = none)
    (reach : Reach setup start cfg trace) {pre log after : List Label}
    {infos : List ComponentUpdateInfo} {source : HandlerState}
    (split : trace = pre ++ .accept (.prepare infos) source :: (log ++ .settle .prepared :: after))
    (quiet : Quiet log) :
    ∃ vendor, PrepareAll setup infos vendor (statusesOf infos).ids log := by
  obtain ⟨settling, _, _, upTo, shown⟩ :=
    reach.prefix (show trace = (pre ++ .accept (.prepare infos) source :: log) ++
      .settle .prepared :: after by simp [split])
  obtain ⟨env, settled⟩ := step_settle shown
  obtain ⟨event, _, inFlight, same, -⟩ := settle_some settled
  cases same
  have since' : since (pre ++ .accept (.prepare infos) source :: log) = log :=
    since_split _ pre _ log rfl rfl quiet
  obtain ⟨⟨pre', source', opened⟩, -⟩ := reach_started initial upTo _ inFlight
  rw [since'] at opened
  obtain ⟨-, same⟩ := List.append_inj' opened rfl
  simp only [List.cons.injEq, Label.accept.injEq, and_true] at same
  obtain ⟨rfl, -⟩ := same
  have stage := reach_prepareLedger initial upTo infos .prepared .settling inFlight
  rw [PrepareStage, since'] at stage
  exact ⟨_, stage.1.mp rfl⟩

/-- `Update` is called on a component only by the goroutine of that component in an update
transition. The transition was accepted after the last prepare transition settled in
`Prepared` and was stored, with no prepare accepted and no state stored in between; in that
prepare transition the last request for the component passed the five checks of
`prepareComponent`, and `module.Prepare` of the downloaded image returned nil. -/
theorem update_only_after_prepare (fresh : storage.updateState = none)
    (reach : Reach setup (boot setup storage modules restartEnv versionEnv) cfg trace)
    {id target : String} {reply : Reply}
    (stepped : step setup cfg choice = some (.call id (.module target .update) reply, next)) :
    target = id ∧ ∃ before source, trace = before ++ .accept .update source :: since trace ∧
      ∃ pre infos source' log saved rest vendor info,
        before = pre ++ .accept (.prepare infos) source' ::
          (log ++ .settle .prepared :: .save saved none :: rest) ∧
        Quiet log ∧ Calm rest ∧ infoOf infos id = some info ∧
        PrepareSucceeded setup.downloadDir vendor id info (callsOf id log) := by
  obtain ⟨event, current, loop, index, resume, -, -, inFlight, waiting, -⟩ := step_call stepped
  have flying := reach_flightOk (restart_flight ..) reach
  obtain ⟨rfl, -, rfl⟩ := flying.updates inFlight waiting target rfl
  obtain ⟨-, kept, before, source, opened, past⟩ := (reach_history fresh reach).source _ inFlight
  obtain ⟨pre, infos, source', log, saved, rest, split, quiet, calm, like⟩ := past
  have known := (flying _ loop inFlight rfl).known target
    (List.mem_append_left _ (flying.permitted inFlight waiting).1)
  rw [kept.ids, like.ids] at known
  have cut : trace = pre ++ .accept (.prepare infos) source' ::
      (log ++ .settle .prepared :: (.save saved none :: rest ++ .accept .update source :: since trace)) := by
    conv_lhs => rw [opened, split]
    simp
  obtain ⟨vendor, -, -, succeeded⟩ := settle_prepared_all (restart_flight ..) reach cut quiet
  obtain ⟨info, found, checked⟩ := prepareOperation_none_iff.mp (succeeded target known)
  exact ⟨rfl, before, source, opened, pre, infos, source', log, saved, rest, _, info, split, quiet,
    calm, found, checked⟩

def prepareThenUpdate : List (Choice anyModule) :=
  onePrepare ++ [.settle (fun _ => {}), .save none, .send .update ["c"], .advance]

/-- The update of the run calls `Update` on `c` after the prepare in which `Prepare` of `c`
returned nil. -/
theorem one_update_follows_prepare :
    "c" = "c" ∧ ∃ before source, (oneRun prepareThenUpdate).2 =
        before ++ .accept .update source :: since (oneRun prepareThenUpdate).2 ∧
      ∃ pre infos source' log saved rest vendor info,
        before = pre ++ .accept (.prepare infos) source' ::
          (log ++ .settle .prepared :: .save saved none :: rest) ∧
        Quiet log ∧ Calm rest ∧ infoOf infos "c" = some info ∧
        PrepareSucceeded oneSetup.downloadDir vendor "c" info (callsOf "c" log) :=
  update_only_after_prepare rfl (Reach.of_run_getD _ _ (by decide))
    (step_getD oneStart (show (step oneSetup (oneRun prepareThenUpdate).1
      (.goroutine 0 {} {})).map Prod.fst = some (.call "c" (.module "c" .update) {}) by decide))

end Run

end UpdateManager.Fsm
