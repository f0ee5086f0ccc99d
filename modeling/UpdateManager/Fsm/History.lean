import UpdateManager.Fsm.Phases

set_option autoImplicit false

/-!
# What a stored state vouches for

Over a run from a first start, a stored `Prepared` or `Updated` state vouches for the
transitions that led to it (`History`). Read off it: `Apply` runs only in an apply accepted in
a stored `Updated` state (`apply_only_after_update`), and `SetAosVersion` lowers a stored
version only after a failed `GetAosVersion` (`aos_version_not_lowered`).
-/

namespace UpdateManager.Fsm

variable {M : ModuleModel}

/-! ### Statuses under their keys -/

namespace StatusMap

variable {statuses other : StatusMap}

private theorem eq_of_id {first second : ComponentStatusInfo} (first_mem : first ∈ statuses.entries)
    (second_mem : second ∈ statuses.entries) (same : first.id = second.id) : first = second :=
  List.inj_on_of_nodup_map statuses.keyed first_mem second_mem same

theorem Like.found {id : String} {status : ComponentStatusInfo} (like : statuses.Like other)
    (found : statuses.find? id = some status) :
    ∃ twin, other.find? id = some twin ∧ twin.key = status.key := by
  have keys := like.find? id
  rw [found, Option.map_some'] at keys
  exact Option.map_eq_some'.mp keys.symm

end StatusMap

section Below

variable {storage storage' : Storage} {statuses : StatusMap}

variable {failed : String → Prop}

private theorem AosBelow.of_aosVersions (below : AosBelow storage statuses failed)
    (same : storage'.aosVersions = storage.aosVersions) : AosBelow storage' statuses failed := by
  intro status member nonzero stored found
  rw [same] at found
  exact below status member nonzero stored found

theorem AosBelow.write (below : AosBelow storage statuses failed) {status : ComponentStatusInfo}
    (member : status ∈ statuses.entries)
    (written : storage'.aosVersions =
      Function.update storage.aosVersions status.id (some status.aosVersion)) :
    AosBelow storage' statuses failed := by
  intro other inside nonzero stored found
  rw [written] at found
  by_cases same : other.id = status.id
  · rw [same, Function.update_same] at found
    cases found
    rw [StatusMap.eq_of_id inside member same]
    exact .inl le_rfl
  · rw [Function.update_noteq same] at found
    exact below other inside nonzero stored found

private theorem AosBelow.of_prepared {infos : List ComponentUpdateInfo} {log : List Label}
    (like : statuses.Like (statusesOf infos))
    (done : ∀ id ∈ statuses.ids, (Event.prepare infos).done storage statuses log id) :
    AosBelow storage statuses (AosReadFailed · log) := by
  intro status member nonzero stored found
  have keyed : status.key ∈ (statusesOf infos).entries.map ComponentStatusInfo.key := by
    rw [← like]
    exact List.mem_map_of_mem _ member
  obtain ⟨requested, inside, same⟩ := List.mem_map.mp keyed
  simp only [ComponentStatusInfo.key, Prod.mk.injEq] at same
  obtain ⟨info, found', aos⟩ := statusesOf_info infos requested inside
  rw [same.1] at found'
  have requestedAos : info.aosVersion = status.aosVersion := aos.trans same.2.2
  have below := done status.id (List.mem_map_of_mem _ member) info found'
    (requestedAos ▸ nonzero) stored found
  rw [requestedAos] at below
  exact below.imp_left le_of_lt

private theorem AosBelow.snoc {trace : List Label} (below : AosBelow storage statuses
    (AosReadFailed · (sincePrepare trace))) {label : Label} (prepare : label.isPrepare = false) :
    AosBelow storage statuses (AosReadFailed · (sincePrepare (trace ++ [label]))) :=
  below.mono fun _ failed => failed.mono fun call member => by
    rw [sincePrepare_snoc, if_neg (by simp [prepare]), callsOf_snoc]
    exact List.mem_append_left _ member

end Below

/-! ### The invariant -/

/-- What a transition in flight knows of the stored state it started from: a prepare builds
statuses like the request; an update starts from a stored `Prepared` state, accepted right
after the past it vouches for, and keeps the keys of its statuses; an apply does the same
from a stored `Updated` state, until `onStateChanged` purges the statuses. -/
def Event.Source (event : Event) (cfg : Config M) (trace : List Label) (stage : Stage) : Prop :=
  match event with
  | .prepare infos => cfg.handler.state.componentStatuses.Like (statusesOf infos)
  | .update => cfg.storage.handlerState.updateState = .prepared ∧
      cfg.handler.state.componentStatuses.Like cfg.storage.handlerState.componentStatuses ∧
      ∃ before source, trace = before ++ .accept .update source :: since trace ∧
        PreparedAfter before cfg.storage.handlerState.componentStatuses
  | .apply => cfg.storage.handlerState.updateState = .updated ∧
      (stage.isSettled = false →
        cfg.handler.state.componentStatuses.Like cfg.storage.handlerState.componentStatuses) ∧
      ∃ before, trace = before ++ .accept .apply cfg.storage.handlerState :: since trace ∧
        UpdatedAfter before cfg.storage.handlerState.componentStatuses
  | .revert => True

/-- A stored `Prepared` or `Updated` state vouches for its past and keeps the stored Aos
versions at most the requested ones, but for components whose Aos version read failed since
the last prepare; a transition in flight knows where it started. -/
structure History (cfg : Config M) (trace : List Label) : Prop where
  prepared : cfg.storage.handlerState.updateState = .prepared →
    PreparedAfter trace cfg.storage.handlerState.componentStatuses ∧
      AosBelow cfg.storage cfg.storage.handlerState.componentStatuses
        (AosReadFailed · (sincePrepare trace))
  updated : cfg.storage.handlerState.updateState = .updated →
    UpdatedAfter trace cfg.storage.handlerState.componentStatuses ∧
      AosBelow cfg.storage cfg.storage.handlerState.componentStatuses
        (AosReadFailed · (sincePrepare trace))
  source : ∀ flight, cfg.handler.flight = some flight → flight.event.Source cfg trace flight.stage

section Steps

variable {setup : Setup} {cfg next : Config M} {choice : Choice M} {label : Label}
  {trace : List Label}

theorem Event.Source.inner {event : Event} {stage stage' : Stage}
    (source : event.Source cfg trace stage) (busy : stage'.isSettled = false → stage.isSettled = false)
    (stored : next.storage.updateState = cfg.storage.updateState)
    (inner : label.isBoundary = false)
    (like : stage'.isSettled = false ∨ event.stopOnError = true →
      next.handler.state.componentStatuses.Like cfg.handler.state.componentStatuses) :
    event.Source next (trace ++ [label]) stage' := by
  have blob : next.storage.handlerState = cfg.storage.handlerState := by
    rw [Storage.handlerState, Storage.handlerState, stored]
  cases event with
  | prepare infos => exact (like (.inr rfl)).trans source
  | update =>
      obtain ⟨prepared, kept, before, origin, opened, past⟩ := source
      simp only [Event.Source, blob]
      exact ⟨prepared, (like (.inr rfl)).trans kept, before, origin, extend_opened opened inner,
        past⟩
  | apply =>
      obtain ⟨updated, kept, before, opened, past⟩ := source
      simp only [Event.Source, blob]
      exact ⟨updated, fun notSettled => (like (.inl notSettled)).trans (kept (busy notSettled)),
        before, extend_opened opened inner, past⟩
  | revert => trivial

private theorem step_source (history : History cfg trace) (coherent : Coherent cfg)
    (settles : Settles cfg trace) (stepped : step setup cfg choice = some (label, next)) :
    ∀ flight, next.handler.flight = some flight →
      flight.event.Source next (trace ++ [label]) flight.stage := by
  intro flight' nextFlight
  cases inner : label.isBoundary
  · obtain ⟨flight, inFlight, sameEvent, -, stored, ⟨busy, -, like⟩ | ⟨now, -, statuses, -⟩⟩ :=
      step_inner stepped inner nextFlight <;> rw [sameEvent]
    · exact (history.source flight inFlight).inner (fun _ => busy) stored inner fun _ => like
    · refine (history.source flight inFlight).inner (fun busy => by simp [now] at busy) stored inner
        fun settled => ?_
      rcases settled with busy | stop
      · simp [now] at busy
      · rw [statuses (settles.not_idle inFlight stop)]
        exact .refl _
  · rcases step_boundary stepped inner with ⟨event, order, rfl⟩ | ⟨_, _, rfl⟩
    · obtain ⟨settled, admissible, rfl, storage, -, began⟩ := sendEvent_some stepped
      have stored : next.storage.handlerState = cfg.storage.handlerState := by rw [storage]
      have opened : trace ++ [.accept event cfg.handler.state] =
          trace ++ .accept event cfg.handler.state :: since (trace ++ [.accept event cfg.handler.state]) := by
        simp [since_snoc, Label.isBoundary]
      obtain ⟨-, ⟨rfl, state, started⟩ | ⟨-, -, state, started⟩⟩ := startTransition_some began <;>
        rw [started] at nextFlight <;> cases nextFlight
      · show next.handler.state.componentStatuses.Like (statusesOf [])
        rw [state]
        exact .refl _
      · have like : next.handler.state.componentStatuses.Like
            (event.statuses cfg.handler.state.componentStatuses) := by
          rw [state]
          exact (componentOperation_spec ..).1
        cases event with
        | prepare infos => exact like
        | update =>
            have memory := coherent.settled settled (by simp_all [Event.sources])
            simp only [Event.sources, List.mem_singleton] at admissible
            refine ⟨by rw [stored, ← memory, admissible], by rw [stored, ← memory]; exact like,
              trace, cfg.handler.state, opened, ?_⟩
            rw [stored]
            exact (history.prepared (by rw [← memory, admissible])).1
        | apply =>
            have memory := coherent.settled settled (by simp_all [Event.sources])
            simp only [Event.sources, List.mem_singleton] at admissible
            refine ⟨by rw [stored, ← memory, admissible], fun _ => by rw [stored, ← memory]; exact like,
              trace, by rw [stored, ← memory]; exact opened, ?_⟩
            rw [stored]
            exact (history.updated (by rw [← memory, admissible])).1
        | revert => trivial
    · cases stepped
      cases nextFlight

private theorem step_prepare_idle (coherent : Coherent cfg)
    (stepped : step setup cfg choice = some (label, next)) (prepare : label.isPrepare = true) :
    cfg.storage.handlerState.updateState = .idle := by
  unfold Label.isPrepare at prepare
  split at prepare
  · obtain ⟨settled, rfl, admissible⟩ := step_shows stepped
    simp only [Event.sources, List.mem_singleton] at admissible
    rw [← coherent.settled settled (by rw [admissible]; exact nofun), admissible]
  · cases prepare

private theorem save_vouches (history : History cfg trace) (coherent : Coherent cfg)
    (settles : Settles cfg trace) (started : Started cfg trace) (progress : Progress cfg trace)
    {event : Event} {current : UpdateState}
    (inFlight : cfg.handler.flight = some ⟨event, current, .saving⟩) :
    (cfg.handler.state.updateState = .prepared →
      PreparedAfter (trace ++ [.save cfg.handler.state none]) cfg.handler.state.componentStatuses ∧
        AosBelow cfg.storage cfg.handler.state.componentStatuses
          (AosReadFailed · (sincePrepare (trace ++ [.save cfg.handler.state none])))) ∧
    (cfg.handler.state.updateState = .updated →
      UpdatedAfter (trace ++ [.save cfg.handler.state none]) cfg.handler.state.componentStatuses ∧
        AosBelow cfg.storage cfg.handler.state.componentStatuses
          (AosReadFailed · (sincePrepare (trace ++ [.save cfg.handler.state none])))) := by
  have settled := coherent.saving event current inFlight
  by_cases idle : current = .idle
  · rw [settled, idle]
    exact ⟨nofun, nofun⟩
  obtain ⟨log, split⟩ := (settles _ inFlight).2.2 rfl idle
  obtain ⟨⟨pre, source, opened⟩, -⟩ := started _ inFlight
  have quiet : Quiet log := fun label member =>
    since_quiet trace label (by rw [split]; exact List.mem_append_left _ member)
  have stored : trace ++ [.save cfg.handler.state none] =
      pre ++ .accept event source :: (log ++ .settle current :: .save cfg.handler.state none :: []) := by
    conv_lhs => rw [opened, split]
    simp
  have calls : ∀ id, callsOf id (since trace) = callsOf id log := by
    simp [split, Label.callOf]
  refine ⟨fun prepared => ?_, fun updated => ?_⟩
  · rw [settled] at prepared
    subst prepared
    have destined := ((settles _ inFlight).1).resolve_right nofun
    cases event with
    | prepare infos =>
        have like : cfg.handler.state.componentStatuses.Like (statusesOf infos) :=
          history.source _ inFlight
        have fresh : sincePrepare trace = since trace := by
          conv_lhs => rw [opened]
          rw [← List.singleton_append, ← List.append_assoc, sincePrepare_append _
            fun label member => Label.isPrepare_of_inner (since_quiet trace label member)]
          simp [sincePrepare_snoc, Label.isPrepare]
        have below := AosBelow.of_prepared like (progress _ inFlight rfl nofun)
        rw [← fresh] at below
        exact ⟨⟨pre, infos, source, log, _, [], stored, quiet, nofun, like⟩, below.snoc rfl⟩
    | _ => cases destined
  · rw [settled] at updated
    subst updated
    have destined := ((settles _ inFlight).1).resolve_right nofun
    cases event with
    | update =>
        obtain ⟨prepared, like, before, origin, opened', past⟩ := history.source _ inFlight
        have same : before = pre := (List.append_inj' (opened'.symm.trans opened) (by simp)).1
        subst same
        refine ⟨⟨before, source, log, _, [], stored, past.like like, quiet, nofun,
          fun id member => ?_⟩, ((history.prepared prepared).2.like like).snoc rfl⟩
        have done := progress _ inFlight rfl nofun id member
        rwa [Event.done, calls] at done
    | _ => cases destined

private theorem step_history (history : History cfg trace) (coherent : Coherent cfg)
    (settles : Settles cfg trace) (started : Started cfg trace) (progress : Progress cfg trace)
    (flying : FlightOk setup cfg trace) (stepped : step setup cfg choice = some (label, next)) :
    History next (trace ++ [label]) := by
  have blob := step_updateState stepped
  cases saved : label.isSaved
  · have same : next.storage.handlerState = cfg.storage.handlerState := by
      rw [Storage.handlerState, Storage.handlerState, blob, Label.stored_of_not_saved saved]
    have calm : cfg.storage.handlerState.updateState ≠ .idle → label.isPrepare = false :=
      fun busy => Bool.eq_false_iff.mpr fun prepare => busy (step_prepare_idle coherent stepped prepare)
    have below : ∀ {failed : String → Prop},
        AosBelow cfg.storage cfg.storage.handlerState.componentStatuses failed →
          AosBelow next.storage cfg.storage.handlerState.componentStatuses failed := by
      intro failed below
      rcases step_aosVersions flying stepped with
        kept | ⟨_, _, _, status, _, inFlight, -, found, -, written⟩
      · exact below.of_aosVersions kept
      · obtain ⟨-, kept, -⟩ := history.source _ inFlight
        obtain ⟨twin, found', key⟩ := (kept rfl).found found
        simp only [ComponentStatusInfo.key, Prod.mk.injEq] at key
        exact below.write (List.mem_of_find?_eq_some found') (by rw [key.1, key.2.2]; exact written)
    refine ⟨fun prepared => ?_, fun updated => ?_, step_source history coherent settles stepped⟩ <;>
      rw [same] at *
    · obtain ⟨past, aos⟩ := history.prepared prepared
      have prepare := calm (by rw [prepared]; exact nofun)
      exact ⟨past.snoc prepare saved, (below aos).snoc prepare⟩
    · obtain ⟨past, aos⟩ := history.updated updated
      have prepare := calm (by rw [updated]; exact nofun)
      exact ⟨past.snoc prepare saved, (below aos).snoc prepare⟩
  · unfold Label.isSaved at saved
    split at saved
    · obtain ⟨rfl, event, current, inFlight⟩ := step_shows stepped
      have aos : next.storage.aosVersions = cfg.storage.aosVersions := by
        rcases step_aosVersions flying stepped with kept | ⟨_, _, _, _, _, _, _, _, never, _⟩
        · exact kept
        · cases never
      have stored : next.storage.handlerState = cfg.handler.state := by
        rw [Storage.handlerState, blob]
        rfl
      obtain ⟨prepared, updated⟩ := save_vouches history coherent settles started progress inFlight
      refine ⟨fun state => ?_, fun state => ?_, step_source history coherent settles stepped⟩ <;>
        rw [stored] at *
      · exact ⟨(prepared state).1, (prepared state).2.of_aosVersions aos⟩
      · exact ⟨(updated state).1, (updated state).2.of_aosVersions aos⟩
    · cases saved

end Steps

/-! ### One component through the three phases -/

def oneSetup : Setup where
  components := fun id => if id = "c" then some ⟨0, 0⟩ else none
  downloadDir := "/var/aos/download"
  parseUrl := fun url => .ok ("http", url)

def oneRequest (aos : Nat) : ComponentUpdateInfo :=
  { id := "c", vendorVersion := "2.0", aosVersion := aos, url := "http://fileserver/c.img",
    size := 0, sha256 := "", sha512 := "", annotations := "" }

def oneStart : Config anyModule :=
  boot oneSetup ⟨none, fun id => if id = "c" then some 1 else none, fun _ => none, []⟩
    (fun _ => ()) (fun _ => {}) (fun _ => { value := "1.0" })

def prepareUpdate (aos : Nat) : List (Choice anyModule) :=
  [.send (.prepare [oneRequest aos]) ["c"], .advance, .goroutine 0 {} {},
    .goroutine 0 { value := "1.0" } {}] ++ (if aos = 0 then [] else [.goroutine 0 {} {}]) ++
  [.goroutine 0 {} { value := "/var/aos/download/c.img" }, .goroutine 0 {} {},
    .goroutine 0 {} {}, .finish 0, .advance, .advance, .settle (fun _ => {}), .save none, .receive,
    .send .update ["c"], .advance, .goroutine 0 {} {}, .goroutine 0 { value := "2.0" } {},
    .finish 0, .advance, .advance, .settle (fun _ => {}), .save none]

def updatedState (aos : Nat) : HandlerState :=
  { updateState := .updated, error := "", componentStatuses := statusesOf [oneRequest aos] }

def applyRun (aos : Nat) : List (Choice anyModule) :=
  prepareUpdate aos ++ [.send .apply ["c"], .advance]

def oneRun (choices : List (Choice anyModule)) : Config anyModule × List Label :=
  (run oneSetup oneStart choices).getD (oneStart, [])

/-! ### Every run from a first start -/

section Runs

variable {setup : Setup} {storage : Storage} {modules : String → M.State}
  {restartEnv versionEnv : String → M.Env} {cfg next : Config M} {trace : List Label}
  {choice : Choice M}

theorem reach_history (fresh : storage.updateState = none)
    (reach : Reach setup (boot setup storage modules restartEnv versionEnv) cfg trace) :
    History cfg trace := by
  have idle : (boot setup storage modules restartEnv versionEnv).handler.flight = none :=
    restart_flight ..
  induction reach with
  | start =>
      refine ⟨fun prepared => ?_, fun updated => ?_, fun flight inFlight => ?_⟩
      · simp [boot, Storage.handlerState, fresh, HandlerState.initial] at prepared
      · simp [boot, Storage.handlerState, fresh, HandlerState.initial] at updated
      · rw [idle] at inFlight
        cases inFlight
  | step _ reach stepped ih =>
      exact step_history ih (reach_coherent (boot_coherent ..) reach) (reach_settles idle reach)
        (reach_started idle reach) (reach_progress idle reach).2 (reach_flightOk idle reach) stepped

/-- `SetAosVersion` writes a version other than 0 below the one stored for the component only
when a `GetAosVersion` of the component failed since the last prepare was accepted: it runs only
in an apply transition accepted in a stored `Updated` state, whose prepare checked each
requested version other than 0 against the stored one unless the read failed, and it writes
the version its status requests. -/
theorem aos_version_not_lowered (fresh : storage.updateState = none)
    (reach : Reach setup (boot setup storage modules restartEnv versionEnv) cfg trace)
    {id target : String} {version : Nat} {reply : Reply}
    (stepped : step setup cfg choice = some (.call id (.setAosVersion target version) reply, next))
    (nonzero : version ≠ 0) :
    ∀ stored, cfg.storage.aosVersions target = some stored →
      stored ≤ version ∨ AosReadFailed target (sincePrepare trace) := by
  obtain ⟨event, current, loop, index, resume, -, -, inFlight, waiting, -⟩ := step_call stepped
  obtain ⟨-, -, writes⟩ := (reach_flightOk (restart_flight ..) reach).permitted inFlight waiting
  obtain ⟨rfl, -, found⟩ := writes target version rfl
  obtain ⟨status, lookup, same⟩ := Option.map_eq_some'.mp found
  simp only [Prod.mk.injEq] at same
  have history := reach_history fresh reach
  obtain ⟨updated, kept, -⟩ := history.source _ inFlight
  obtain ⟨twin, found', key⟩ := (kept rfl).found lookup
  simp only [ComponentStatusInfo.key, Prod.mk.injEq] at key
  intro stored present
  have below := (history.updated updated).2 twin (List.mem_of_find?_eq_some found')
    (by rw [key.2.2, same.2]; exact nonzero) stored (by rw [key.1, same.1]; exact present)
  rwa [key.2.2, same.2, key.1, same.1] at below

/-- The apply of the run writes Aos version 2 over the stored 1. -/
theorem one_aos_version_not_lowered :
    (oneRun (applyRun 2 ++ [.goroutine 0 {} {}])).1.storage.aosVersions "c" = some 1 ∧
      (1 ≤ 2 ∨ AosReadFailed "c" (sincePrepare (oneRun (applyRun 2 ++ [.goroutine 0 {} {}])).2)) :=
  ⟨by decide, aos_version_not_lowered rfl (Reach.of_run_getD _ _ (by decide))
    (step_getD oneStart (show (step oneSetup (oneRun (applyRun 2 ++ [.goroutine 0 {} {}])).1
      (.goroutine 0 {} {})).map Prod.fst = some (.call "c" (.setAosVersion "c" 2) {}) by decide))
    (by decide) 1 (by decide)⟩

/-- A request with Aos version 0 skips the check of `prepareComponent`, and the apply writes
0 over the stored 1. -/
theorem aos_version_lowered_to_zero :
    ∃ cfg next, Reach oneSetup oneStart cfg (oneRun (applyRun 0 ++ [.goroutine 0 {} {}])).2 ∧
      step oneSetup cfg (.goroutine 0 {} {}) = some (.call "c" (.setAosVersion "c" 0) {}, next) ∧
      cfg.storage.aosVersions "c" = some 1 :=
  ⟨_, _, Reach.of_run_getD _ _ (by decide), step_getD oneStart (by decide), by decide⟩

def twoStoredStart : Config anyModule :=
  boot oneSetup ⟨none, fun id => if id = "c" then some 2 else none, fun _ => none, []⟩
    (fun _ => ()) (fun _ => {}) (fun _ => { value := "1.0" })

def readFailedApply : List (Choice anyModule) :=
  [.send (.prepare [oneRequest 1]) ["c"], .advance, .goroutine 0 {} {},
    .goroutine 0 { value := "1.0" } {}, .goroutine 0 {} { err := some "read failed" },
    .goroutine 0 {} { value := "/var/aos/download/c.img" }, .goroutine 0 {} {},
    .goroutine 0 {} {}, .finish 0, .advance, .advance, .settle (fun _ => {}), .save none, .receive,
    .send .update ["c"], .advance, .goroutine 0 {} {}, .goroutine 0 { value := "2.0" } {},
    .finish 0, .advance, .advance, .settle (fun _ => {}), .save none, .send .apply ["c"], .advance,
    .goroutine 0 {} {}]

-- A failed read of the stored Aos version 2 lets the apply write 1 over it.
example : ∃ cfg next,
    Reach oneSetup twoStoredStart cfg ((run oneSetup twoStoredStart readFailedApply).getD
        (twoStoredStart, [])).2 ∧
      step oneSetup cfg (.goroutine 0 {} {}) = some (.call "c" (.setAosVersion "c" 1) {}, next) ∧
      cfg.storage.aosVersions "c" = some 2 :=
  ⟨_, _, Reach.of_run_getD _ _ (by decide), step_getD twoStoredStart (by decide), by decide⟩

def failedApply : List (Choice anyModule) :=
  [.send .apply ["c"], .advance, .goroutine 0 { rebootRequired := true } {}, .goroutine 0 {} {},
    .finish 0, .advance, .advance, .goroutine 0 {} {}, .finish 0, .advance, .advance,
    .goroutine 0 { err := some "boot failed" } {}, .finish 0, .advance, .advance,
    .settle (fun _ => {})]

def failedApplyLabels : List Label :=
  [.accept .apply (updatedState 2), .launch "c",
    .call "c" (.module "c" .apply) { rebootRequired := true }, .call "c" (.setAosVersion "c" 2) {},
    .finish "c" (true, none), .passed true, .launch "c", .call "c" (.module "c" .reboot) {},
    .finish "c" (false, none), .passed false, .launch "c",
    .call "c" (.module "c" .apply) { err := some "boot failed" },
    .finish "c" (false, some "boot failed"), .passed true, .control, .settle .idle]

/-- The apply of `c` ends with the error of its last `Apply`, and the Aos version stored for
`c` is 2 where it was 1 before the apply. -/
theorem aos_version_written_before_failed_apply :
    ∃ updated applied, Reach oneSetup oneStart updated (oneRun (prepareUpdate 2)).2 ∧
      Reach oneSetup updated applied failedApplyLabels ∧
      updated.storage.aosVersions "c" = some 1 ∧ applied.storage.aosVersions "c" = some 2 := by
  have ran : ((run oneSetup (oneRun (prepareUpdate 2)).1 failedApply).getD
      ((oneRun (prepareUpdate 2)).1, [])).2 = failedApplyLabels := by
    decide
  have applied : Reach oneSetup (oneRun (prepareUpdate 2)).1 _ _ :=
    Reach.of_run_getD failedApply ((oneRun (prepareUpdate 2)).1, []) (by decide)
  rw [ran] at applied
  exact ⟨_, _, Reach.of_run_getD _ _ (by decide), applied, by decide, by decide⟩

end Runs

end UpdateManager.Fsm
