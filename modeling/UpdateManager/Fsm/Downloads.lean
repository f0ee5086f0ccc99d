import UpdateManager.Fsm.History

set_option autoImplicit false

/-!
# The download directory

`onStateChanged` empties the download directory on entering `stateIdle` and goes on when
`os.RemoveAll` fails; a prepare adds a file per image. A handler settled in `stateIdle` finds
the directory empty unless the last emptying failed or a prepare was cut by a restart
(`idle_download_dir_empty`, `idle_after_crash_keeps_download`).
-/

namespace UpdateManager.Fsm

variable {M : ModuleModel}

namespace Label

def isClean : Label → Bool
  | .clean _ => true
  | _ => false

/-- An emptying of the download directory whose `RemoveAll` failed. -/
def isFailedClean : Label → Bool
  | .clean (some _) => true
  | _ => false

def isRestart : Label → Bool
  | .restart _ => true
  | _ => false

end Label

/-- The labels from the last emptying of the download directory on, or the whole trace when
it was never emptied. -/
def sinceClean (trace : List Label) : List Label :=
  trace.foldl (fun log label => if label.isClean then [label] else log ++ [label]) []

/-- Whether a prepare request accepted in `log` is followed by a restart. -/
def restartedAfterPrepare : List Label → Bool
  | [] => false
  | label :: rest => label.isPrepare && rest.any Label.isRestart || restartedAfterPrepare rest

private theorem sinceClean_snoc (trace : List Label) (label : Label) :
    sinceClean (trace ++ [label]) =
      if label.isClean then [label] else sinceClean trace ++ [label] := by
  simp [sinceClean, List.foldl_append]

private theorem no_restart_after_prepare {pre post : List Label} {label : Label}
    (intact : restartedAfterPrepare (pre ++ label :: post) = false)
    (prepare : label.isPrepare = true) : ∀ state, Label.restart state ∉ post := by
  induction pre with
  | nil =>
      simp only [List.nil_append, restartedAfterPrepare, prepare, Bool.true_and, Bool.or_eq_false_iff,
        List.any_eq_false] at intact
      exact fun state member => intact.1 _ member rfl
  | cons head pre ih =>
      simp only [List.cons_append, restartedAfterPrepare, Bool.or_eq_false_iff] at intact
      exact ih intact.2

/-! ### Where the files come from -/

def ExtCall.keepsDownloads : ExtCall → Bool
  | .downloadImage .. => false
  | _ => true

private theorem perform_downloads {setup : Setup} {cfg : Config M} {request : ExtCall}
    (keeps : request.keepsDownloads = true) (env : M.Env) (reply : Reply) :
    (perform setup cfg request env reply).2.1.downloads = cfg.storage.downloads := by
  cases request with
  | downloadImage => cases keeps
  | _ =>
      simp only [perform]
      repeat' split
      all_goals rfl

private theorem passClosure_keepsDownloads (setup : Setup) (handler : Handler) {event : Event}
    (other : ∀ infos, event ≠ .prepare infos) (pass : Pass) (id : String) :
    (passClosure setup handler event pass id).Only (ExtCall.keepsDownloads · = true) := by
  cases pass with
  | reboot blamed => exact ⟨rfl, fun _ => trivial⟩
  | operation =>
      cases event with
      | prepare infos => exact absurd rfl (other infos)
      | update =>
          refine ⟨rfl, fun updated => ?_⟩
          dsimp only
          split
          · trivial
          · split
            · trivial
            · exact ⟨rfl, fun current => by dsimp only; split <;> (try split) <;> trivial⟩
      | apply =>
          refine ⟨rfl, fun applied => ?_⟩
          dsimp only
          split
          · trivial
          · split
            · trivial
            · exact ⟨rfl, fun _ => trivial⟩
      | revert => exact ⟨rfl, fun _ => trivial⟩

section Steps

variable {setup : Setup} {cfg next : Config M} {choice : Choice M} {label : Label}
  {trace : List Label}

private theorem step_downloads (flying : FlightOk setup cfg trace)
    (stepped : step setup cfg choice = some (label, next)) :
    next.storage.downloads = cfg.storage.downloads ∨
      (∃ infos current stage, cfg.handler.flight = some ⟨.prepare infos, current, stage⟩) ∨
      ∃ err kept, choice = .clean err kept := by
  cases choice with
  | send event order => exact .inl (by rw [(sendEvent_some stepped).2.2.2.1])
  | advance => exact .inl (by rw [(advance_some stepped).1])
  | goroutine index env reply =>
      obtain ⟨event, current, loop, _, request, _, inFlight, waiting, -, storage, -⟩ :=
        goroutineCall_some stepped
      by_cases prepare : ∃ infos, event = .prepare infos
      · obtain ⟨infos, rfl⟩ := prepare
        exact .inr (.inl ⟨infos, current, _, inFlight⟩)
      · push_neg at prepare
        obtain ⟨_, _, -, runs⟩ := (flying _ loop inFlight rfl).running _ (List.getElem?_mem waiting)
        rw [storage]
        exact .inl (perform_downloads
          (runs.only (passClosure_keepsDownloads setup _ prepare _ _)).request _ _)
  | finish index =>
      obtain ⟨_, _, _, _, _, _, -, -, -, storage, -⟩ := goroutineFinish_some stepped
      exact .inl (by rw [storage])
  | settle env =>
      obtain ⟨_, _, -, -, storage, -⟩ := settle_some stepped
      exact .inl (by rw [storage])
  | clean err kept => exact .inr (.inr ⟨err, kept, rfl⟩)
  | save err =>
      obtain ⟨_, _, -, -, -, -, -, ⟨-, stored, -⟩ | ⟨_, -, stored, -⟩⟩ := save_some stepped <;>
        exact .inl (by rw [stored])
  | receive => exact .inl (by rw [(receive_some stepped).2.2.1])
  | restart restartEnv versionEnv =>
      cases stepped
      exact .inl rfl

private theorem step_isClean (stepped : step setup cfg choice = some (label, next))
    (cleaned : label.isClean = true) : ∃ err kept, choice = .clean err kept := by
  cases choice with
  | clean err kept => exact ⟨err, kept, rfl⟩
  | send event order => cases (sendEvent_some stepped).2.2.1; cases cleaned
  | advance => rcases advance_label stepped with rfl | ⟨_, rfl⟩ | ⟨_, rfl⟩ <;> cases cleaned
  | goroutine index env reply =>
      obtain ⟨_, _, _, _, _, _, -, -, rfl, -⟩ := goroutineCall_some stepped
      cases cleaned
  | finish index =>
      obtain ⟨_, _, _, _, _, _, -, -, rfl, -⟩ := goroutineFinish_some stepped
      cases cleaned
  | settle env =>
      obtain ⟨_, _, -, rfl, -⟩ := settle_some stepped
      cases cleaned
  | save err =>
      obtain ⟨_, _, -, rfl, -⟩ := save_some stepped
      cases cleaned
  | receive =>
      obtain ⟨rfl, -⟩ := receive_some stepped
      cases cleaned
  | restart restartEnv versionEnv =>
      cases stepped
      cases cleaned

end Steps

/-! ### The invariant -/

/-- Where a file of the download directory comes from: there is none, the last emptying
failed, or a prepare was accepted since. A handler not restarted since that prepare is not
settled in `stateIdle`; a prepare in flight was accepted since the last emptying; and the
`saveState` of a transition settled in `stateIdle` comes right after the emptying. -/
structure Clean (cfg : Config M) (trace : List Label) : Prop where
  files : cfg.storage.downloads = [] ∨ (sinceClean trace).any Label.isFailedClean = true ∨
    ∃ pre infos source post, sinceClean trace = pre ++ .accept (.prepare infos) source :: post
  settled : ∀ pre infos source post,
    sinceClean trace = pre ++ .accept (.prepare infos) source :: post →
    (∀ state, Label.restart state ∉ post) →
    cfg.handler.flight ≠ none ∨ cfg.handler.state.updateState ≠ .idle
  preparing : ∀ infos current stage,
    cfg.handler.flight = some ⟨.prepare infos, current, stage⟩ →
    ∃ pre source post, sinceClean trace = pre ++ .accept (.prepare infos) source :: post
  saving : ∀ event, cfg.handler.flight = some ⟨event, .idle, .saving⟩ →
    ∃ err, sinceClean trace = [.clean err]

section Clean

variable {setup : Setup} {cfg next : Config M} {choice : Choice M} {label : Label}
  {trace : List Label}

theorem Clean.clean {err : Option String} {kept : String → Bool} (settles : Settles cfg trace)
    (stepped : step setup cfg (.clean err kept) = some (label, next)) :
    Clean next (trace ++ [label]) := by
  obtain ⟨event, current, inFlight, rfl, -, storage, same⟩ := clean_some stepped
  have nextFlight := Handler.flight_of_withStage inFlight same
  have idle : current = .idle := (settles _ inFlight).2.1 rfl
  have since : sinceClean (trace ++ [.clean err]) = [.clean err] := by
    rw [sinceClean_snoc]; rfl
  refine ⟨?_, fun pre _ _ _ split _ => ?_, fun infos _ _ preparing => ?_,
    fun _ _ => ⟨err, since⟩⟩ <;> rw [since] at *
  · cases err with
    | none => exact .inl (by rw [storage]; rfl)
    | some message => exact .inr (.inl rfl)
  · rcases pre with _ | ⟨_, _ | ⟨_, _⟩⟩ <;> simp at split
  · rw [nextFlight] at preparing
    cases preparing
    exact absurd idle (settles.not_idle inFlight rfl)

private theorem step_clean (named : setup.downloadDir ≠ "") (clean : Clean cfg trace)
    (coherent : Coherent cfg) (settles : Settles cfg trace) (flying : FlightOk setup cfg trace)
    (stepped : step setup cfg choice = some (label, next)) :
    Clean next (trace ++ [label]) := by
  by_cases cleaned : ∃ err kept, choice = .clean err kept
  · obtain ⟨err, kept, rfl⟩ := cleaned
    exact Clean.clean settles stepped
  have kept : label.isClean = false :=
    Bool.eq_false_iff.mpr fun shown => cleaned (step_isClean stepped shown)
  have since : sinceClean (trace ++ [label]) = sinceClean trace ++ [label] := by
    rw [sinceClean_snoc, if_neg (by simp [kept])]
  refine ⟨?_, fun pre infos source post split quiet => ?_, fun infos current stage nextFlight => ?_,
    fun event nextFlight => ?_⟩ <;> rw [since] at *
  · have grown : ∀ pre infos source post,
        sinceClean trace = pre ++ .accept (.prepare infos) source :: post →
        ∃ pre infos source post,
          sinceClean trace ++ [label] = pre ++ .accept (.prepare infos) source :: post :=
      fun pre infos source post split => ⟨pre, infos, source, post ++ [label], by simp [split]⟩
    rcases step_downloads flying stepped with same | ⟨infos, current, stage, inFlight⟩ | never
    · rcases clean.files with empty | failed | ⟨pre, infos, source, post, split⟩
      · exact .inl (same.trans empty)
      · exact .inr (.inl (by simp [failed]))
      · exact .inr (.inr (grown pre infos source post split))
    · obtain ⟨pre, source, post, split⟩ := clean.preparing infos current stage inFlight
      exact .inr (.inr (grown pre infos source post split))
    · exact absurd never cleaned
  · rcases split_snoc split with ⟨rfl, rfl, -⟩ | ⟨post', rfl, split'⟩
    · rcases step_boundary stepped rfl with ⟨event, order, rfl⟩ | ⟨_, _, rfl⟩
      · obtain ⟨-, -, -, -, -, began⟩ := sendEvent_some stepped
        obtain ⟨-, ⟨-, -, started⟩ | ⟨-, -, -, started⟩⟩ := startTransition_some began <;>
          exact .inl (by simp [started])
      · cases stepped
    · have before := clean.settled pre infos source post' split'
        fun state member => quiet state (List.mem_append_left _ member)
      by_cases settled : next.handler.flight = none
      · rcases step_settled stepped settled with ⟨err, rfl⟩ | rfl | ⟨_, _, rfl⟩
        · obtain ⟨event, current, inFlight, -, -, -, -, stored | failed⟩ := save_some stepped
          · by_cases idle : current = .idle
            · obtain ⟨_, saved⟩ := clean.saving event (idle ▸ inFlight)
              rw [saved] at split'
              rcases pre with _ | ⟨_, _ | ⟨_, _⟩⟩ <;> simp at split'
            · obtain ⟨-, -, state⟩ := stored
              exact .inr (by rw [state, coherent.saving event current inFlight]; exact idle)
          · obtain ⟨_, -, -, state⟩ := failed
            exact .inr (by rw [state]; exact nofun)
        · obtain ⟨-, idle, -, -, state, -⟩ := receive_some stepped
          exact .inr (by rw [state]; exact before.resolve_left (not_not.mpr idle))
        · cases stepped
          exact absurd (List.mem_append_right _ (List.mem_singleton_self _)) (quiet _)
      · exact .inl settled
  · cases inner : label.isBoundary
    · obtain ⟨flight, inFlight, sameEvent, -⟩ := step_inner stepped inner nextFlight
      obtain ⟨infos', current', stage'⟩ := flight
      cases sameEvent
      obtain ⟨pre, source, post, split⟩ := clean.preparing infos current' stage' inFlight
      exact ⟨pre, source, post ++ [label], by simp [split]⟩
    · rcases step_boundary stepped inner with ⟨event, order, rfl⟩ | ⟨_, _, rfl⟩
      · obtain ⟨-, -, rfl, -, -, began⟩ := sendEvent_some stepped
        obtain ⟨-, ⟨-, -, started⟩ | ⟨-, -, -, started⟩⟩ := startTransition_some began <;>
          rw [started] at nextFlight <;> cases nextFlight <;>
          exact ⟨sinceClean trace, cfg.handler.state, [], rfl⟩
      · cases stepped
        cases nextFlight
  · cases inner : label.isBoundary
    · obtain ⟨_, -, -, -, -, ⟨-, after, -⟩ | ⟨-, -, -, ⟨env, rfl⟩ | never⟩⟩ :=
        step_inner stepped inner nextFlight
      · simp [Stage.isSettled] at after
      · obtain ⟨_, _, -, -, -, settledFlight, -⟩ := settle_some stepped
        rw [settledFlight, Option.some.injEq, Flight.mk.injEq] at nextFlight
        obtain ⟨-, rfl, stage⟩ := nextFlight
        simp [named] at stage
      · exact absurd never cleaned
    · rcases step_boundary stepped inner with ⟨event, order, rfl⟩ | ⟨_, _, rfl⟩
      · obtain ⟨-, -, -, -, -, began⟩ := sendEvent_some stepped
        obtain ⟨-, ⟨-, -, started⟩ | ⟨-, -, -, started⟩⟩ := startTransition_some began <;>
          rw [started, Option.some.injEq, Flight.mk.injEq] at nextFlight
        · cases nextFlight.2.2
        · exact absurd nextFlight.2.2 (componentOperation_fresh ..).ne_saving
      · cases stepped
        cases nextFlight

end Clean

section Runs

variable {setup : Setup} {storage : Storage} {modules : String → M.State}
  {restartEnv versionEnv : String → M.Env} {cfg : Config M} {trace : List Label}

private theorem reach_clean (named : setup.downloadDir ≠ "") (empty : storage.downloads = [])
    (reach : Reach setup (boot setup storage modules restartEnv versionEnv) cfg trace) :
    Clean cfg trace := by
  induction reach with
  | start =>
      refine ⟨.inl empty, fun pre _ _ _ split _ => ?_, fun _ _ _ inFlight => ?_,
        fun _ inFlight => ?_⟩
      · simp [sinceClean] at split
      all_goals simp [boot] at inFlight
  | step _ reach stepped ih =>
      exact step_clean named ih (reach_coherent (boot_coherent ..) reach)
        (reach_settles (restart_flight ..) reach) (reach_flightOk (restart_flight ..) reach) stepped

/-- With a download directory configured and empty at the first start, a handler settled in
`stateIdle` finds the directory empty, unless `RemoveAll` failed at the last emptying, or a
prepare was accepted since and the process restarted after it. -/
theorem idle_download_dir_empty (named : setup.downloadDir ≠ "") (empty : storage.downloads = [])
    (reach : Reach setup (boot setup storage modules restartEnv versionEnv) cfg trace)
    (settled : cfg.handler.flight = none) (idle : cfg.handler.state.updateState = .idle)
    (removed : (sinceClean trace).any Label.isFailedClean = false)
    (intact : restartedAfterPrepare (sinceClean trace) = false) :
    cfg.storage.downloads = [] := by
  have clean := reach_clean named empty reach
  rcases clean.files with files | failed | ⟨pre, infos, source, post, split⟩
  · exact files
  · exact absurd failed (by simp [removed])
  · rcases clean.settled pre infos source post split
      (no_restart_after_prepare (split ▸ intact)
        (show Label.isPrepare (.accept (.prepare infos) source) = true from rfl)) with busy | busy
    · exact absurd settled busy
    · exact absurd idle busy

def appliedRun : List (Choice anyModule) :=
  applyRun 2 ++ [.goroutine 0 {} {}, .goroutine 0 {} {}, .finish 0, .advance, .advance,
    .settle (fun _ => {}), .clean none (fun _ => false), .save none]

theorem applied_download_dir_empty : (oneRun appliedRun).1.storage.downloads = [] :=
  idle_download_dir_empty (by decide) rfl (Reach.of_run_getD _ _ (by decide))
    (Option.isNone_iff_eq_none.mp (by decide)) (by decide) (by decide) (by decide)

def crashedPrepare : List (Choice anyModule) :=
  [.send (.prepare [oneRequest 2]) ["c"], .advance, .goroutine 0 {} {},
    .goroutine 0 { value := "1.0" } {}, .goroutine 0 {} {},
    .goroutine 0 {} { value := "/var/aos/download/c.img" }, .restart (fun _ => {}) (fun _ => {})]

/-- After the crash `New` rebuilds the stored `stateIdle`, with the downloaded image still in
the download directory. -/
theorem idle_after_crash_keeps_download :
    ∃ cfg, Reach oneSetup oneStart cfg (oneRun crashedPrepare).2 ∧ cfg.handler.flight = none ∧
      cfg.handler.state.updateState = .idle ∧
      cfg.storage.downloads = ["/var/aos/download/c.img"] :=
  ⟨_, Reach.of_run_getD _ _ (by decide), Option.isNone_iff_eq_none.mp (by decide), by decide,
    by decide⟩

end Runs

end UpdateManager.Fsm
