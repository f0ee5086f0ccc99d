import UpdateManager.Fsm.Threads

set_option autoImplicit false

/-!
# Prepare, update, apply

What a stored `Prepared` state (`PreparedAfter`) or `Updated` state (`UpdatedAfter`) says of
the past of a run, the bound on stored Aos versions (`AosBelow`), and the progress of a
transition that stops on errors (`Progress`, `reach_progress`).
-/

namespace UpdateManager.Fsm

variable {M : ModuleModel}

/-! ### What the past must show -/

def StatusMap.vendorOf (statuses : StatusMap) (id : String) : String :=
  ((statuses.find? id).map ComponentStatusInfo.vendorVersion).getD ""

def UpdateOk (id requested : String) (calls : List (ExtCall × Reply)) : Prop :=
  ∃ earlier updated current,
    calls = earlier ++ [(.module id .update, updated), (.module id .getVendorVersion, current)] ∧
      updated.err = none ∧ updated.rebootRequired = false ∧ current.err = none ∧
      current.value = requested

def PreparedAfter (trace : List Label) (statuses : StatusMap) : Prop :=
  ∃ pre infos source log saved rest,
    trace = pre ++ .accept (.prepare infos) source ::
      (log ++ .settle .prepared :: .save saved none :: rest) ∧
      Quiet log ∧ Calm rest ∧ statuses.Like (statusesOf infos)

/-- The trace ends with an update transition that settled in `Updated` and was stored, after
a `PreparedAfter` past, in which every component's last calls were a successful `Update` and
a `GetVendorVersion` returning the requested version; after it no prepare event was accepted
and no state stored. -/
def UpdatedAfter (trace : List Label) (statuses : StatusMap) : Prop :=
  ∃ before source log saved rest,
    trace = before ++ .accept .update source ::
      (log ++ .settle .updated :: .save saved none :: rest) ∧
      PreparedAfter before statuses ∧ Quiet log ∧ Calm rest ∧
      ∀ id ∈ statuses.ids, UpdateOk id (statuses.vendorOf id) (callsOf id log)

def AosBelow (storage : Storage) (statuses : StatusMap) (failed : String → Prop) : Prop :=
  ∀ status ∈ statuses.entries, status.aosVersion ≠ 0 →
    ∀ stored, storage.aosVersions status.id = some stored →
      stored ≤ status.aosVersion ∨ failed status.id

/-! ### Pasts that last -/

section Pasts

variable {trace : List Label} {statuses other : StatusMap} {label : Label}

private theorem StatusMap.vendorOf_like (like : statuses.Like other) (id : String) :
    statuses.vendorOf id = other.vendorOf id := by
  have versions := congrArg (Option.map fun key => key.2.1) (like.find? id)
  simp only [Option.map_map, Function.comp_def, ComponentStatusInfo.key] at versions
  simp only [StatusMap.vendorOf, versions]

theorem Calm.snoc {rest : List Label} (calm : Calm rest) (prepare : label.isPrepare = false)
    (saved : label.isSaved = false) : Calm (rest ++ [label]) := by
  intro other member
  rcases List.mem_append.mp member with old | new
  · exact calm other old
  · rw [List.mem_singleton.mp new]
    exact ⟨prepare, saved⟩

theorem PreparedAfter.snoc (past : PreparedAfter trace statuses) (prepare : label.isPrepare = false)
    (saved : label.isSaved = false) : PreparedAfter (trace ++ [label]) statuses := by
  obtain ⟨pre, infos, source, log, stored, rest, rfl, quiet, calm, like⟩ := past
  exact ⟨pre, infos, source, log, stored, rest ++ [label], by simp, quiet, calm.snoc prepare saved, like⟩

theorem UpdatedAfter.snoc (past : UpdatedAfter trace statuses) (prepare : label.isPrepare = false)
    (saved : label.isSaved = false) : UpdatedAfter (trace ++ [label]) statuses := by
  obtain ⟨before, source, log, stored, rest, rfl, prepared, quiet, calm, updates⟩ := past
  exact ⟨before, source, log, stored, rest ++ [label], by simp, prepared, quiet,
    calm.snoc prepare saved, updates⟩

theorem PreparedAfter.like (past : PreparedAfter trace statuses) (like : other.Like statuses) :
    PreparedAfter trace other := by
  obtain ⟨pre, infos, source, log, stored, rest, split, quiet, calm, requested⟩ := past
  exact ⟨pre, infos, source, log, stored, rest, split, quiet, calm, like.trans requested⟩

theorem AosBelow.like {storage : Storage} {failed : String → Prop}
    (below : AosBelow storage statuses failed) (like : other.Like statuses) :
    AosBelow storage other failed := by
  intro status member nonzero stored found
  have keyed : status.key ∈ statuses.entries.map ComponentStatusInfo.key := by
    rw [← like]
    exact List.mem_map_of_mem _ member
  obtain ⟨original, inside, same⟩ := List.mem_map.mp keyed
  simp only [ComponentStatusInfo.key, Prod.mk.injEq] at same
  rw [← same.1] at found ⊢
  rw [← same.2.2] at nonzero ⊢
  exact below original inside nonzero stored found

theorem AosBelow.mono {storage : Storage} {failed failed' : String → Prop}
    (below : AosBelow storage statuses failed) (weaker : ∀ id, failed id → failed' id) :
    AosBelow storage statuses failed' :=
  fun status member nonzero stored found =>
    (below status member nonzero stored found).imp_right (weaker _)

end Pasts

/-! ### Where a transition heads -/

private theorem callbackReturned_current (event : Event) (err : Option String) (state : HandlerState)
    (current : UpdateState) :
    (callbackReturned event err state current).2 = current ∨
      (callbackReturned event err state current).2 = .failed := by
  unfold callbackReturned
  split <;> simp

theorem callbackReturned_state (event : Event) (err : Option String) (state : HandlerState)
    (current : UpdateState) :
    (callbackReturned event err state current).1.componentStatuses = state.componentStatuses := by
  unfold callbackReturned
  split <;> rfl

private theorem Event.destination_ne_idle {event : Event} (stop : event.stopOnError = true) :
    event.destination ≠ .idle := by
  cases event <;> simp_all [Event.destination, Event.stopOnError]

/-- A transition heads for the event's destination or for `stateFailed`; it empties the
download directory only on entering `stateIdle`, and it is at `saveState` in another state
only right after `onStateChanged` showed that state. -/
def Settles (cfg : Config M) (trace : List Label) : Prop :=
  ∀ flight, cfg.handler.flight = some flight →
    (flight.current = flight.event.destination ∨ flight.current = .failed) ∧
      (flight.stage = .cleaning → flight.current = .idle) ∧
      (flight.stage = .saving → flight.current ≠ .idle →
        ∃ log, since trace = log ++ [.settle flight.current])

section Settling

variable {setup : Setup} {cfg next : Config M} {choice : Choice M} {label : Label}
  {trace : List Label}

theorem Settles.keep {flight : Flight} (settles : Settles cfg trace)
    (inFlight : cfg.handler.flight = some flight) {stage : Stage}
    (nextFlight : next.handler.flight = (cfg.handler.withStage stage).flight)
    (busy : stage.isSettled = false) : Settles next (trace ++ [label]) := by
  intro flight' inFlight'
  rw [nextFlight, Handler.withStage_flight, inFlight] at inFlight'
  cases inFlight'
  refine ⟨(settles flight inFlight).1, fun cleaning => ?_, fun saving => ?_⟩
  · simp only at cleaning
    simp [cleaning, Stage.isSettled] at busy
  · simp only at saving
    simp [saving, Stage.isSettled] at busy

private theorem step_settles (settles : Settles cfg trace)
    (stepped : step setup cfg choice = some (label, next)) : Settles next (trace ++ [label]) := by
  cases choice with
  | send event order =>
      obtain ⟨-, -, -, -, -, began⟩ := sendEvent_some stepped
      intro flight inFlight
      obtain ⟨-, ⟨rfl, -, nextFlight⟩ | ⟨-, -, -, nextFlight⟩⟩ := startTransition_some began <;>
        rw [nextFlight] at inFlight <;> cases inFlight
      · exact ⟨.inr rfl, nofun, nofun⟩
      · exact ⟨.inl rfl, fun cleaning => absurd cleaning (componentOperation_fresh ..).ne_cleaning,
          fun saving => absurd saving (componentOperation_fresh ..).ne_saving⟩
  | advance =>
      obtain ⟨-, -, flight, inFlight, launch | barrier | returned | ended⟩ := advance_some stepped
      · obtain ⟨_, _, _, _, -, -, -, -, same⟩ := launch
        exact settles.keep inFlight (congrArg Handler.flight same) rfl
      · obtain ⟨_, _, _, _, -, -, -, -, -, -, same⟩ := barrier
        exact settles.keep inFlight (congrArg Handler.flight same) rfl
      · obtain ⟨_, _, -, -, -, -, same⟩ := returned
        exact settles.keep inFlight (by rw [same]; rfl) (passReturned_fresh ..).isSettled
      · obtain ⟨err, -, -, same⟩ := ended
        intro flight' inFlight'
        rw [same] at inFlight'
        cases inFlight'
        refine ⟨?_, nofun, nofun⟩
        rcases callbackReturned_current flight.event err cfg.handler.state flight.current with
          kept | failed
        · rw [kept]
          exact (settles flight inFlight).1
        · exact .inr failed
  | goroutine index env reply =>
      obtain ⟨_, _, _, _, _, _, inFlight, -, -, -, -, same⟩ := goroutineCall_some stepped
      exact settles.keep inFlight (congrArg Handler.flight same) rfl
  | finish index =>
      obtain ⟨_, _, _, _, _, _, inFlight, -, -, -, -, same⟩ := goroutineFinish_some stepped
      exact settles.keep inFlight (by rw [same]; rfl) (show Stage.isSettled (.loop _) = false from rfl)
  | settle env =>
      obtain ⟨_, current, inFlight, rfl, -, nextFlight, -⟩ := settle_some stepped
      intro flight inFlight'
      rw [nextFlight] at inFlight'
      cases inFlight'
      refine ⟨(settles _ inFlight).1, fun cleaning => ?_, fun _ _ => ⟨since trace, ?_⟩⟩
      · by_contra busy
        simp [busy] at cleaning
      · rw [since_snoc, if_neg (by simp [Label.isBoundary])]
  | clean err kept =>
      obtain ⟨_, _, inFlight, -, -, -, same⟩ := clean_some stepped
      intro flight inFlight'
      rw [Handler.flight_of_withStage inFlight same] at inFlight'
      cases inFlight'
      exact ⟨(settles _ inFlight).1, nofun, fun _ busy => absurd ((settles _ inFlight).2.1 rfl) busy⟩
  | save err =>
      obtain ⟨_, _, -, -, -, settled, -⟩ := save_some stepped
      intro flight inFlight
      rw [settled] at inFlight
      cases inFlight
  | receive =>
      obtain ⟨-, -, -, -, -, settled, -⟩ := receive_some stepped
      intro flight inFlight
      rw [settled] at inFlight
      cases inFlight
  | restart restartEnv versionEnv =>
      cases stepped
      intro flight inFlight
      cases inFlight

theorem Settles.not_idle (settles : Settles cfg trace) {flight : Flight}
    (inFlight : cfg.handler.flight = some flight) (stop : flight.event.stopOnError = true) :
    flight.current ≠ .idle := by
  rcases (settles flight inFlight).1 with destined | failed
  · rw [destined]
    exact Event.destination_ne_idle stop
  · rw [failed]
    exact nofun

theorem reach_settles {start : Config M} (initial : start.handler.flight = none)
    (reach : Reach setup start cfg trace) : Settles cfg trace := by
  induction reach with
  | start =>
      intro flight inFlight
      rw [initial] at inFlight
      cases inFlight
  | step _ _ stepped ih => exact step_settles ih stepped

end Settling

/-! ### What a goroutine may do -/

section Calls

variable {setup : Setup} {cfg next : Config M} {choice : Choice M} {label : Label}
  {trace : List Label}

theorem FlightOk.permitted (flying : FlightOk setup cfg trace) {event : Event}
    {current : UpdateState} {loop : LoopState} {index : Nat} {id : String} {request : ExtCall}
    {resume : Reply → Io (Bool × Option String)}
    (inFlight : cfg.handler.flight = some ⟨event, current, .loop loop⟩)
    (waiting : loop.sched.running[index]? = some ⟨id, .call request resume⟩) :
    id ∈ loop.sched.ids ∧
      Permitted event loop.pass (cfg.handler.state.componentStatuses.find? id) id request := by
  have member := List.getElem?_mem waiting
  obtain ⟨_, _, -, runs⟩ := (flying _ loop inFlight rfl).running _ member
  exact ⟨List.mem_append_right _ (List.mem_map_of_mem Thread.id member),
    (runs.only (passClosure_permitted ..)).request⟩

private theorem perform_aosVersions (request : ExtCall) (env : M.Env) (reply : Reply) :
    (perform setup cfg request env reply).2.1.aosVersions = cfg.storage.aosVersions ∨
      ∃ target version, request = .setAosVersion target version ∧
        (perform setup cfg request env reply).2.1.aosVersions =
          Function.update cfg.storage.aosVersions target (some version) := by
  cases request with
  | setAosVersion target version =>
      by_cases written : reply.err = none
      · exact .inr ⟨target, version, rfl, by simp [perform, written]⟩
      · exact .inl (by simp [perform, written])
  | _ =>
      refine .inl ?_
      simp only [perform]
      repeat' split
      all_goals rfl

private theorem perform_getAosVersion {target : String} {env : M.Env} {reply : Reply}
    (read : (perform setup cfg (.getAosVersion target) env reply).1.err = none) :
    (perform setup cfg (.getAosVersion target) env reply).1 = aosReply (cfg.storage.aosVersions target) := by
  simp only [perform] at read ⊢
  split
  · simp_all
  · rfl

theorem step_call {id : String} {request : ExtCall} {reply : Reply}
    (stepped : step setup cfg choice = some (.call id request reply, next)) :
    ∃ (event : Event) (current : UpdateState) (loop : LoopState) (index : Nat)
      (resume : Reply → Io (Bool × Option String)) (env : M.Env) (reply' : Reply),
      cfg.handler.flight = some ⟨event, current, .loop loop⟩ ∧
        loop.sched.running[index]? = some ⟨id, .call request resume⟩ ∧
        reply = (perform setup cfg request env reply').1 := by
  cases choice with
  | goroutine index env reply' =>
      obtain ⟨event, current, loop, _, _, resume, inFlight, waiting, same, -⟩ :=
        goroutineCall_some stepped
      cases same
      exact ⟨event, current, loop, index, resume, env, reply', inFlight, waiting, rfl⟩
  | advance => rcases advance_label stepped with never | ⟨_, never⟩ | ⟨_, never⟩ <;> cases never
  | send event order =>
      obtain ⟨-, -, never, -⟩ := sendEvent_some stepped
      cases never
  | finish index =>
      obtain ⟨_, _, _, _, _, _, -, -, never, -⟩ := goroutineFinish_some stepped
      cases never
  | settle env =>
      obtain ⟨_, _, -, never, -⟩ := settle_some stepped
      cases never
  | clean err kept =>
      obtain ⟨_, _, -, never, -⟩ := clean_some stepped
      cases never
  | save err =>
      obtain ⟨_, _, -, never, -⟩ := save_some stepped
      cases never
  | receive =>
      obtain ⟨never, -⟩ := receive_some stepped
      cases never
  | restart restartEnv versionEnv => cases stepped

theorem step_aosVersions (flying : FlightOk setup cfg trace)
    (stepped : step setup cfg choice = some (label, next)) :
    next.storage.aosVersions = cfg.storage.aosVersions ∨
      ∃ current loop id status reply,
        cfg.handler.flight = some ⟨.apply, current, .loop loop⟩ ∧ id ∈ loop.sched.ids ∧
        cfg.handler.state.componentStatuses.find? id = some status ∧
        label = .call id (.setAosVersion status.id status.aosVersion) reply ∧
        next.storage.aosVersions =
          Function.update cfg.storage.aosVersions status.id (some status.aosVersion) := by
  cases choice with
  | send event order => exact .inl (by rw [(sendEvent_some stepped).2.2.2.1])
  | advance => exact .inl (by rw [(advance_some stepped).1])
  | goroutine index env reply =>
      obtain ⟨event, current, loop, id, request, resume, inFlight, waiting, rfl, storage, -⟩ :=
        goroutineCall_some stepped
      rw [storage]
      rcases perform_aosVersions request env reply with same | ⟨target, version, rfl, written⟩
      · exact .inl same
      obtain ⟨scheduled, -, permitted⟩ := flying.permitted inFlight waiting
      obtain ⟨rfl, -, found⟩ := permitted target version rfl
      obtain ⟨status, lookup, same⟩ := Option.map_eq_some'.mp found
      cases same
      exact .inr ⟨current, loop, id, status, _, inFlight, scheduled, lookup, rfl, written⟩
  | finish index =>
      obtain ⟨_, _, _, _, _, _, -, -, -, same, -⟩ := goroutineFinish_some stepped
      exact .inl (by rw [same])
  | settle env =>
      obtain ⟨_, _, -, -, same, -⟩ := settle_some stepped
      exact .inl (by rw [same])
  | clean err kept =>
      obtain ⟨_, _, -, -, -, same, -⟩ := clean_some stepped
      exact .inl (by rw [same])
  | save err =>
      obtain ⟨_, _, -, -, -, -, -, ⟨-, stored, -⟩ | ⟨_, -, stored, -⟩⟩ := save_some stepped <;>
        exact .inl (by rw [stored])
  | receive =>
      obtain ⟨-, -, same, -⟩ := receive_some stepped
      exact .inl (by rw [same])
  | restart restartEnv versionEnv =>
      cases stepped
      exact .inl rfl

theorem step_inner (stepped : step setup cfg choice = some (label, next))
    (inner : label.isBoundary = false) {flight' : Flight}
    (nextFlight : next.handler.flight = some flight') :
    ∃ flight, cfg.handler.flight = some flight ∧ flight'.event = flight.event ∧
      flight.stage ≠ .saving ∧ next.storage.updateState = cfg.storage.updateState ∧
      ((flight.stage.isSettled = false ∧ flight'.stage.isSettled = false ∧
          next.handler.state.componentStatuses.Like cfg.handler.state.componentStatuses) ∨
        (flight'.stage.isSettled = true ∧ flight'.current = flight.current ∧
          (flight.current ≠ .idle →
            next.handler.state.componentStatuses = cfg.handler.state.componentStatuses) ∧
          ((∃ env, choice = .settle env) ∨ ∃ err kept, choice = .clean err kept))) := by
  cases choice with
  | send event order =>
      obtain ⟨-, -, rfl, -⟩ := sendEvent_some stepped
      cases inner
  | advance =>
      obtain ⟨storage, -, flight, inFlight, launch | barrier | returned | ended⟩ :=
        advance_some stepped
      · obtain ⟨_, _, _, _, atLoop, -, -, -, same⟩ := launch
        rw [same, Handler.withStage_flight, inFlight] at nextFlight
        cases nextFlight
        exact ⟨flight, inFlight, rfl, by simp [atLoop], by rw [storage],
          .inl ⟨by simp [atLoop, Stage.isSettled], rfl, by rw [same]; exact .refl _⟩⟩
      · obtain ⟨_, _, _, _, atLoop, -, -, -, -, -, same⟩ := barrier
        rw [same, Handler.withStage_flight, inFlight] at nextFlight
        cases nextFlight
        exact ⟨flight, inFlight, rfl, by simp [atLoop], by rw [storage],
          .inl ⟨by simp [atLoop, Stage.isSettled], rfl, by rw [same]; exact .refl _⟩⟩
      · obtain ⟨_, _, atLoop, -, -, -, same⟩ := returned
        rw [same, Handler.withStage_flight, Handler.withStatuses_flight, inFlight] at nextFlight
        cases nextFlight
        exact ⟨flight, inFlight, rfl, by simp [atLoop], by rw [storage],
          .inl ⟨by simp [atLoop, Stage.isSettled], (passReturned_fresh ..).isSettled,
            by rw [same]; exact (passReturned_spec ..).1⟩⟩
      · obtain ⟨_, atReturned, -, same⟩ := ended
        rw [same] at nextFlight
        cases nextFlight
        exact ⟨flight, inFlight, rfl, by simp [atReturned], by rw [storage],
          .inl ⟨by simp [atReturned, Stage.isSettled], rfl,
            by rw [same]; exact (callbackReturned_state ..).symm ▸ .refl _⟩⟩
  | goroutine index env reply =>
      obtain ⟨_, _, _, _, _, _, inFlight, -, -, storage, -, same⟩ := goroutineCall_some stepped
      rw [same, Handler.withStage_flight, inFlight] at nextFlight
      cases nextFlight
      exact ⟨_, inFlight, rfl, by simp, by rw [storage, perform_updateState],
        .inl ⟨rfl, rfl, by rw [same]; exact .refl _⟩⟩
  | finish index =>
      obtain ⟨_, _, _, _, _, _, inFlight, -, -, storage, -, same⟩ := goroutineFinish_some stepped
      have like : next.handler.state.componentStatuses.Like cfg.handler.state.componentStatuses := by
        rw [same]
        exact finishThread_like ..
      rw [same] at nextFlight
      simp only [Handler.withStage_flight, Handler.withStatuses_flight, inFlight,
        Option.map_some', Option.some.injEq] at nextFlight
      cases nextFlight
      exact ⟨_, inFlight, rfl, by simp, by rw [storage], .inl ⟨rfl, rfl, like⟩⟩
  | settle env =>
      obtain ⟨_, current, inFlight, -, storage, settled, state⟩ := settle_some stepped
      rw [settled] at nextFlight
      cases nextFlight
      refine ⟨_, inFlight, rfl, by simp, by rw [storage],
        .inr ⟨by split <;> rfl, rfl, fun busy => ?_, .inl ⟨env, rfl⟩⟩⟩
      rw [state, if_neg busy]
  | clean err kept =>
      obtain ⟨_, _, inFlight, -, -, storage, same⟩ := clean_some stepped
      rw [Handler.flight_of_withStage inFlight same] at nextFlight
      cases nextFlight
      exact ⟨_, inFlight, rfl, by simp, by rw [storage],
        .inr ⟨rfl, rfl, fun _ => by rw [same]; rfl, .inr ⟨err, kept, rfl⟩⟩⟩
  | save err =>
      obtain ⟨_, _, -, -, -, settled, -⟩ := save_some stepped
      rw [settled] at nextFlight
      cases nextFlight
  | receive =>
      obtain ⟨-, -, -, -, -, settled, -⟩ := receive_some stepped
      rw [settled] at nextFlight
      cases nextFlight
  | restart restartEnv versionEnv =>
      cases stepped
      cases inner

theorem step_settled (stepped : step setup cfg choice = some (label, next))
    (settled : next.handler.flight = none) :
    (∃ err, choice = .save err) ∨ choice = .receive ∨
      ∃ restartEnv versionEnv, choice = .restart restartEnv versionEnv := by
  cases choice with
  | save err => exact .inl ⟨err, rfl⟩
  | receive => exact .inr (.inl rfl)
  | restart restartEnv versionEnv => exact .inr (.inr ⟨restartEnv, versionEnv, rfl⟩)
  | send event order =>
      obtain ⟨-, -, -, -, -, began⟩ := sendEvent_some stepped
      obtain ⟨-, ⟨-, -, started⟩ | ⟨-, -, -, started⟩⟩ := startTransition_some began <;>
        rw [started] at settled <;> cases settled
  | advance =>
      obtain ⟨-, -, flight, inFlight, launch | barrier | returned | ended⟩ := advance_some stepped
      · obtain ⟨_, _, _, _, -, -, -, -, same⟩ := launch
        simp [same, inFlight] at settled
      · obtain ⟨_, _, _, _, -, -, -, -, -, -, same⟩ := barrier
        simp [same, inFlight] at settled
      · obtain ⟨_, _, -, -, -, -, same⟩ := returned
        simp [same, inFlight] at settled
      · obtain ⟨_, -, -, same⟩ := ended
        simp [same] at settled
  | goroutine index env reply =>
      obtain ⟨_, _, _, _, _, _, inFlight, -, -, -, -, same⟩ := goroutineCall_some stepped
      simp [same, inFlight] at settled
  | finish index =>
      obtain ⟨_, _, _, _, _, _, inFlight, -, -, -, -, same⟩ := goroutineFinish_some stepped
      simp [same, inFlight] at settled
  | settle env =>
      obtain ⟨_, _, -, -, -, nextFlight, -⟩ := settle_some stepped
      rw [nextFlight] at settled
      cases settled
  | clean err kept =>
      obtain ⟨_, _, inFlight, -, -, -, same⟩ := clean_some stepped
      rw [Handler.flight_of_withStage inFlight same] at settled
      cases settled

theorem step_boundary (stepped : step setup cfg choice = some (label, next))
    (boundary : label.isBoundary = true) :
    (∃ event order, choice = .send event order) ∨
      ∃ restartEnv versionEnv, choice = .restart restartEnv versionEnv := by
  cases choice with
  | send event order => exact .inl ⟨event, order, rfl⟩
  | restart restartEnv versionEnv => exact .inr ⟨restartEnv, versionEnv, rfl⟩
  | advance => rcases advance_label stepped with rfl | ⟨_, rfl⟩ | ⟨_, rfl⟩ <;> cases boundary
  | goroutine index env reply =>
      obtain ⟨_, _, _, _, _, _, -, -, rfl, -⟩ := goroutineCall_some stepped
      cases boundary
  | finish index =>
      obtain ⟨_, _, _, _, _, _, -, -, rfl, -⟩ := goroutineFinish_some stepped
      cases boundary
  | settle env =>
      obtain ⟨_, _, -, rfl, -⟩ := settle_some stepped
      cases boundary
  | clean err kept =>
      obtain ⟨_, _, -, rfl, -⟩ := clean_some stepped
      cases boundary
  | save err =>
      obtain ⟨_, _, -, rfl, -⟩ := save_some stepped
      cases boundary
  | receive =>
      obtain ⟨rfl, -⟩ := receive_some stepped
      cases boundary

/-- Outside an apply nothing writes an Aos version, so every `GetAosVersion` since the event
that did not fail returned what is stored now. -/
def Faithful (cfg : Config M) (trace : List Label) : Prop :=
  ∀ flight, cfg.handler.flight = some flight → flight.event ≠ .apply →
    ∀ id target reply, (ExtCall.getAosVersion target, reply) ∈ callsOf id (since trace) →
      reply.err = none → reply = aosReply (cfg.storage.aosVersions target)

private theorem step_faithful (faithful : Faithful cfg trace) (flying : FlightOk setup cfg trace)
    (stepped : step setup cfg choice = some (label, next)) : Faithful next (trace ++ [label]) := by
  intro flight' nextFlight notApply id target reply member read
  cases inner : label.isBoundary
  · obtain ⟨flight, inFlight, sameEvent, -⟩ := step_inner stepped inner nextFlight
    have aos : next.storage.aosVersions = cfg.storage.aosVersions := by
      rcases step_aosVersions flying stepped with same | ⟨_, _, _, _, _, writing, -⟩
      · exact same
      · rw [inFlight] at writing
        cases writing
        exact absurd sameEvent notApply
    rw [aos]
    rw [since_snoc, if_neg (by simp [inner]), callsOf_snoc] at member
    rcases List.mem_append.mp member with old | new
    · exact faithful flight inFlight (sameEvent ▸ notApply) id target reply old read
    · rw [Option.mem_toList, Option.mem_def, Label.callOf_eq_some] at new
      subst new
      obtain ⟨_, _, _, _, _, _, _, -, -, same⟩ := step_call stepped
      simp only at same
      rw [same] at read ⊢
      exact perform_getAosVersion read
  · rw [since_snoc, if_pos inner] at member
    cases member

end Calls

/-! ### Components accounted for -/

/-- A `GetAosVersion` of `id` by its goroutine in `log` returned an error, so that
`prepareComponent` skipped the Aos version check. -/
def AosReadFailed (id : String) (log : List Label) : Prop :=
  ∃ reply, (ExtCall.getAosVersion id, reply) ∈ callsOf id log ∧ reply.err ≠ none

theorem AosReadFailed.mono {id : String} {log log' : List Label} (failed : AosReadFailed id log)
    (more : ∀ call ∈ callsOf id log, call ∈ callsOf id log') : AosReadFailed id log' :=
  let ⟨reply, member, err⟩ := failed
  ⟨reply, more _ member, err⟩

/-- What `done` means for a component of a transition that stops on errors: for a prepare,
the Aos version check passed against what is stored, or was skipped on a failed read; for an
update, the component's calls since the event end with a successful `Update` and the
requested vendor version. -/
def Event.done (event : Event) (storage : Storage) (statuses : StatusMap) (log : List Label)
    (id : String) : Prop :=
  match event with
  | .prepare infos => ∀ info, infoOf infos id = some info → info.aosVersion ≠ 0 →
      ∀ stored, storage.aosVersions id = some stored →
        stored < info.aosVersion ∨ AosReadFailed id log
  | .update => UpdateOk id (statuses.vendorOf id) (callsOf id log)
  | .apply => True
  | .revert => True

def Accounted (done : String → Prop) (ids : List String) (loop : LoopState) : Prop :=
  loop.err = none ∧ loop.sched.err = none ∧
    (loop.sched.groupErr = none →
      ∀ id ∈ ids, id ∈ loop.sched.ids ∨ id ∈ loop.statuses ∨ done id)

def StageDone (done : String → Prop) (ids : List String) (current : UpdateState) :
    Stage → Prop
  | .loop loop => Accounted done ids loop
  | .returned err => err = none → ∀ id ∈ ids, done id
  | _ => current ≠ .failed → ∀ id ∈ ids, done id

section Accounting

variable {done done' : String → Prop} {ids : List String} {loop : LoopState}

private theorem Event.done_of {event : Event} {storage storage' : Storage}
    {statuses statuses' : StatusMap} {log log' : List Label} {id : String}
    (done : event.done storage statuses log id) (aos : storage'.aosVersions = storage.aosVersions)
    (like : statuses'.Like statuses) (calls : callsOf id log' = callsOf id log) :
    event.done storage' statuses' log' id := by
  cases event with
  | prepare infos => simpa only [Event.done, AosReadFailed, aos, calls] using done
  | update => simpa only [Event.done, StatusMap.vendorOf_like like, calls] using done
  | apply => trivial
  | revert => trivial

private theorem Accounted.weaken (accounted : Accounted done ids loop)
    (keep : ∀ id ∈ ids, id ∉ loop.sched.ids → done id → done' id) :
    Accounted done' ids loop := by
  refine ⟨accounted.1, accounted.2.1, fun clean id member => ?_⟩
  rcases accounted.2.2 clean id member with scheduled | waiting | finished
  · exact .inl scheduled
  · exact .inr (.inl waiting)
  · by_cases inside : id ∈ loop.sched.ids
    · exact .inl inside
    · exact .inr (.inr (keep id member inside finished))

private theorem Accounted.resched (accounted : Accounted done ids loop) (sched : Sched)
    (same : ∀ id, id ∈ loop.sched.ids → id ∈ sched.ids) (err : sched.err = loop.sched.err)
    (groupErr : sched.groupErr = loop.sched.groupErr) :
    Accounted done ids { loop with sched } := by
  refine ⟨accounted.1, err.trans accounted.2.1, fun clean id member => ?_⟩
  rcases accounted.2.2 (groupErr ▸ clean) id member with scheduled | rest
  · exact .inl (same id scheduled)
  · exact .inr rest

theorem Accounted.finish (accounted : Accounted done ids loop) {index : Nat} {id : String}
    {rebootRequired : Bool} {err : Option String}
    (returned : loop.sched.running[index]? = some ⟨id, .pure (rebootRequired, err)⟩)
    (statuses : StatusMap)
    (succeeded : loop.pass.isOperation = true → err = none → rebootRequired = false → done' id)
    (rebooting : loop.pass.isOperation = false → id ∈ loop.statuses)
    (keep : ∀ other ∈ ids, other ≠ id → done other → done' other) :
    Accounted done' ids (finishThread statuses loop { loop.sched with
      running := loop.sched.running.eraseIdx index
      groupErr := loop.sched.groupErr.or err } id rebootRequired err).2 := by
  rw [finishThread_loop]
  refine ⟨accounted.1, accounted.2.1, fun clean other member => ?_⟩
  obtain ⟨clean, ok⟩ : loop.sched.groupErr = none ∧ err = none := by
    cases hGroup : loop.sched.groupErr <;> simp_all
  by_cases own : other = id
  · subst own
    cases hPass : loop.pass.isOperation
    · exact .inr (.inl (List.mem_append_left _ (rebooting hPass)))
    · cases rebootRequired
      · exact .inr (.inr (succeeded hPass ok rfl))
      · exact .inr (.inl (by simp [hPass, ok]))
  · rcases accounted.2.2 clean other member with scheduled | waiting | finished
    · refine .inl ?_
      simp only [Sched.ids, List.mem_append] at scheduled ⊢
      rcases scheduled with pending | running
      · exact .inl pending
      · rcases List.mem_cons.mp (((perm_cons_eraseIdx returned).map Thread.id).subset running)
          with same | rest
        · exact absurd same own
        · exact .inr rest
    · exact .inr (.inl (List.mem_append_left _ waiting))
    · exact .inr (.inr (keep other member own finished))

private theorem Collected.schedules {setup : Setup} {operation : String → Io (Bool × Option String)}
    {operations : List (Nat × Thread)} (collected : Collected setup true operation ids (.ok operations)) :
    ∀ id ∈ ids, id ∈ (Sched.start operations).ids := by
  have scheduled := start_ids ids operations collected.threads.1
  rw [List.filter_eq_self.mpr (collected.2 rfl)] at scheduled
  exact fun id member => scheduled.symm.subset member

private theorem componentOperation_done (setup : Setup) {event : Event} (stop : event.stopOnError = true)
    (runtimeVendor : String → String) {statuses : StatusMap} {order : List String}
    (perm : List.Perm order statuses.ids) (current : UpdateState) :
    StageDone done statuses.ids current
      (componentOperation setup event runtimeVendor statuses order).2 := by
  unfold componentOperation
  split
  · rename_i empty
    subst empty
    intro _ id member
    rw [perm.symm.eq_nil] at member
    cases member
  · rcases (operationPass_spec setup event runtimeVendor none statuses order).2 with
      ⟨message, same, -⟩ | ⟨operations, same, collected⟩ <;> rw [same]
    · exact fun never => by cases never
    · rw [stop] at collected
      exact ⟨rfl, rfl, fun _ id member => .inl (collected.schedules id (perm.symm.subset member))⟩

private theorem operationPass_ne_returned_none (setup : Setup) (event : Event)
    (runtimeVendor : String → String) (err : Option String) (statuses : StatusMap)
    (order : List String) :
    (operationPass setup event runtimeVendor err statuses order).2 ≠ .returned none := by
  rcases (operationPass_spec setup event runtimeVendor err statuses order).2 with
    ⟨_, same, -⟩ | ⟨_, same, -⟩ <;> rw [same] <;> simp

private theorem rebootPass_ne_returned_none (setup : Setup) (event : Event) (err : Option String)
    (statuses : StatusMap) (order : List String) :
    (rebootPass setup event err statuses order).2 ≠ .returned none := by
  rcases (rebootPass_spec setup event err statuses order).2 with
    ⟨_, same, -⟩ | ⟨_, same, -⟩ <;> rw [same] <;> simp

private theorem passReturned_returned_none {setup : Setup} {event : Event}
    {runtimeVendor : String → String} {statuses : StatusMap} {result : Option String}
    (returned : (passReturned setup event runtimeVendor statuses loop result).2 = .returned none) :
    loop.statuses = [] := by
  unfold passReturned at returned
  split at returned
  · cases returned
  · split at returned
    · split at returned
      · assumption
      · exact (rebootPass_ne_returned_none _ _ _ _ _ returned).elim
    · exact (operationPass_ne_returned_none _ _ _ _ _ _ returned).elim

private theorem passReturned_done (setup : Setup) {event : Event} (stop : event.stopOnError = true)
    (runtimeVendor : String → String) (statuses : StatusMap) {result : Option String}
    (current : UpdateState) (accounted : Accounted done ids loop)
    (finished : result = none → loop.sched.ids = [] ∧ loop.sched.groupErr = none) :
    StageDone done ids current (passReturned setup event runtimeVendor statuses loop result).2 := by
  cases result with
  | some err =>
      simp only [passReturned, stop]
      exact fun never => by cases never
  | none =>
      obtain ⟨empty, clean⟩ := finished rfl
      have waiting : ∀ id ∈ ids, id ∈ loop.statuses ∨ done id := fun id member =>
        (accounted.2.2 clean id member).resolve_left (by rw [empty]; exact List.not_mem_nil id)
      have noErr : loop.err.or none = none := by simpa using accounted.1
      have fresh := passReturned_fresh setup event runtimeVendor statuses loop none
      cases stage : (passReturned setup event runtimeVendor statuses loop none).2 with
      | loop next =>
          rcases (passReturned_spec setup event runtimeVendor statuses loop none).2 next stage with
            ⟨-, _, rfl, -⟩ | ⟨-, operations, rfl, collected⟩
          · exact ⟨noErr, rfl, fun _ id member => .inr (waiting id member)⟩
          · refine ⟨noErr, rfl, fun _ id member => ?_⟩
            rw [stop] at collected
            rcases waiting id member with held | finished
            · exact .inl (collected.schedules id held)
            · exact .inr (.inr finished)
      | returned err =>
          rintro rfl id member
          exact (waiting id member).resolve_left (by
            rw [passReturned_returned_none stage]
            exact List.not_mem_nil id)
      | settling | cleaning | saving => rw [stage] at fresh; exact fresh.elim

theorem callbackReturned_failed {event : Event} (stop : event.stopOnError = true)
    (message : String) (state : HandlerState) (current : UpdateState) :
    (callbackReturned event (some message) state current).2 = .failed := by
  cases event <;> first | rfl | cases stop

end Accounting

/-- In a transition that stops on errors, every component is accounted for, and `done` once
the transition settles anywhere but in `stateFailed`. -/
def Progress (cfg : Config M) (trace : List Label) : Prop :=
  ∀ flight, cfg.handler.flight = some flight → flight.event.stopOnError = true →
    StageDone (flight.event.done cfg.storage cfg.handler.state.componentStatuses (since trace))
      cfg.handler.state.componentStatuses.ids flight.current flight.stage

section Progress

variable {setup : Setup} {cfg next : Config M} {choice : Choice M} {label : Label}
  {trace : List Label}

private theorem Event.done_snoc (label : Label) {event : Event} {id : String}
    (done : event.done cfg.storage cfg.handler.state.componentStatuses (since trace) id)
    (aos : next.storage.aosVersions = cfg.storage.aosVersions)
    (like : next.handler.state.componentStatuses.Like cfg.handler.state.componentStatuses)
    (inner : label.isBoundary = false) (quiet : label.callOf id = none) :
    event.done next.storage next.handler.state.componentStatuses (since (trace ++ [label])) id :=
  Event.done_of done aos like
    (by rw [since_snoc, if_neg (by simp [inner]), callsOf_snoc, quiet, Option.toList_none,
      List.append_nil])

private theorem Event.done_of_runs {event : Event} (stop : event.stopOnError = true)
    {storage : Storage} {statuses : StatusMap} {runtimeVendor : String → String} {id : String}
    {earlier calls : List (ExtCall × Reply)} {log : List Label}
    (faithful : ∀ target reply, (ExtCall.getAosVersion target, reply) ∈ callsOf id log →
      reply.err = none → reply = aosReply (storage.aosVersions target))
    (history : callsOf id log = earlier ++ calls)
    (runs : Io.Runs (event.operation setup runtimeVendor statuses id) calls (.pure (false, none))) :
    event.done storage statuses log id := by
  cases event with
  | prepare infos =>
      obtain ⟨info, found, checked⟩ := prepareOperation_ok runs
      intro info' found' nonzero stored present
      rw [found] at found'
      cases found'
      obtain ⟨reply, asked, passed⟩ := checked nonzero
      have member : (ExtCall.getAosVersion id, reply) ∈ callsOf id log := by
        rw [history, ← infoOf_id found]
        exact List.mem_append_right _ asked
      by_cases failed : reply.err = none
      · have read := faithful _ reply member failed
        rw [present] at read
        subst read
        exact .inl (by simpa [aosReply] using passed)
      · exact .inr ⟨reply, member, failed⟩
  | update =>
      obtain ⟨updated, current, rfl, ok⟩ := updateOperation_ok runs
      exact ⟨earlier, updated, current, history, ok⟩
  | apply => cases stop
  | revert => cases stop

private theorem step_progress (progress : Progress cfg trace) (flying : FlightOk setup cfg trace)
    (faithful : Faithful cfg trace) (settles : Settles cfg trace)
    (stepped : step setup cfg choice = some (label, next)) : Progress next (trace ++ [label]) := by
  intro flight' nextFlight stop
  cases choice with
  | send event order =>
      obtain ⟨-, -, -, -, -, began⟩ := sendEvent_some stepped
      obtain ⟨-, ⟨-, -, started⟩ | ⟨-, perm, state, started⟩⟩ := startTransition_some began <;>
        rw [started] at nextFlight <;> cases nextFlight
      · exact fun notFailed => absurd rfl notFailed
      · have ids : next.handler.state.componentStatuses.ids =
            (event.statuses cfg.handler.state.componentStatuses).ids := by
          rw [state]
          exact (componentOperation_spec ..).1.ids
        rw [ids]
        exact componentOperation_done setup stop _ (List.isPerm_iff.mp perm) _
  | advance =>
      obtain ⟨storage, -, flight, inFlight, launch | barrier | returned | ended⟩ :=
        advance_some stepped
      · obtain ⟨loop, _, thread, rest, atLoop, pending, -, rfl, same⟩ := launch
        rw [same, Handler.withStage_flight, inFlight] at nextFlight
        cases nextFlight
        have accounted : Accounted _ _ loop := atLoop ▸ progress flight inFlight stop
        rw [show next.handler.state.componentStatuses.ids = _ by rw [same]]
        refine Accounted.resched (accounted.weaken fun id _ _ done => ?_) _
          (fun id member => (Sched.ids_launch pending).symm.subset member) rfl rfl
        exact Event.done_snoc (.launch thread.id) done (by rw [storage]) (by rw [same]; exact .refl _)
          rfl rfl
      · obtain ⟨loop, priority, _, _, atLoop, -, -, -, clean, rfl, same⟩ := barrier
        rw [same, Handler.withStage_flight, inFlight] at nextFlight
        cases nextFlight
        have accounted : Accounted _ _ loop := atLoop ▸ progress flight inFlight stop
        have groupErr : loop.sched.groupErr = none := clean.resolve_right (by simp [stop])
        rw [show next.handler.state.componentStatuses.ids = _ by rw [same]]
        refine Accounted.resched (accounted.weaken fun id _ _ done => ?_) _ (fun id member => member)
          (by simp [groupErr]) groupErr.symm
        exact Event.done_snoc .control done (by rw [storage]) (by rw [same]; exact .refl _) rfl rfl
      · obtain ⟨loop, result, atLoop, idle, finished, rfl, same⟩ := returned
        rw [same, Handler.withStage_flight, Handler.withStatuses_flight, inFlight] at nextFlight
        cases nextFlight
        have accounted : Accounted _ _ loop := atLoop ▸ progress flight inFlight stop
        have like : next.handler.state.componentStatuses.Like
            cfg.handler.state.componentStatuses := by
          rw [same]
          exact (passReturned_spec ..).1
        rw [like.ids]
        refine passReturned_done setup stop _ _ _ (accounted.weaken fun id _ _ done => ?_)
          fun clean => ?_
        · exact Event.done_snoc (.passed _) done (by rw [storage]) like rfl rfl
        rcases finished with ⟨-, -, -, -, -, -, rfl, never⟩ | ⟨pending, result⟩
        · simp [clean] at never
        · refine ⟨by simp [Sched.ids, pending, idle], ?_⟩
          cases hGroup : loop.sched.groupErr <;> simp_all
      · obtain ⟨err, atReturned, rfl, same⟩ := ended
        have statuses : next.handler.state.componentStatuses =
            cfg.handler.state.componentStatuses := by
          rw [same]
          exact callbackReturned_state ..
        rw [same] at nextFlight
        cases nextFlight
        intro notFailed id member
        rw [statuses] at member
        cases err with
        | none =>
            exact Event.done_snoc .control ((atReturned ▸ progress flight inFlight stop) rfl id member)
              (by rw [storage]) (statuses ▸ .refl _) rfl rfl
        | some message =>
            exact absurd (callbackReturned_failed (show flight.event.stopOnError = true from stop)
              message cfg.handler.state flight.current) notFailed
  | goroutine index env reply =>
      obtain ⟨event, current, loop, thread, request, resume, inFlight, waiting, rfl, -, -, same⟩ :=
        goroutineCall_some stepped
      rw [same, Handler.withStage_flight, inFlight] at nextFlight
      cases nextFlight
      have accounted : Accounted _ _ loop := progress _ inFlight stop
      obtain ⟨scheduled, -⟩ := flying.permitted inFlight waiting
      have aos : next.storage.aosVersions = cfg.storage.aosVersions := by
        rcases step_aosVersions flying stepped with same | ⟨_, _, _, _, _, writing, -⟩
        · exact same
        · rw [inFlight] at writing
          cases writing
          cases stop
      rw [show next.handler.state.componentStatuses.ids = _ by rw [same]]
      refine Accounted.resched (accounted.weaken fun id _ outside done => ?_) _
        (fun id member => ?_) rfl rfl
      · have other : thread ≠ id := fun same => outside (same ▸ scheduled)
        exact Event.done_snoc (.call thread request _) done aos (by rw [same]; exact .refl _) rfl
          (by simp [Label.callOf, other])
      · simpa only [Sched.ids, ids_set waiting] using member
  | finish index =>
      obtain ⟨event, current, loop, id, rebootRequired, err, inFlight, returned, rfl, storage, -,
        same⟩ := goroutineFinish_some stepped
      have like : next.handler.state.componentStatuses.Like cfg.handler.state.componentStatuses := by
        rw [same]
        exact finishThread_like ..
      rw [same] at nextFlight
      simp only [Handler.withStage_flight, Handler.withStatuses_flight, inFlight,
        Option.map_some', Option.some.injEq] at nextFlight
      cases nextFlight
      have accounted : Accounted _ _ loop := progress _ inFlight stop
      have ok := flying _ loop inFlight rfl
      rw [like.ids]
      refine accounted.finish returned _ (fun operation ok' reboot => ?_) (fun reboot => ?_)
        (fun other _ _ done => Event.done_snoc (.finish id (rebootRequired, err)) done
          (by rw [storage]) like rfl rfl)
      · obtain ⟨earlier, calls, history, runs⟩ := ok.running _ (List.getElem?_mem returned)
        subst ok' reboot
        cases hPass : loop.pass with
        | reboot blamed => simp [hPass, Pass.isOperation] at operation
        | operation =>
            rw [hPass] at runs
            have done := Event.done_of_runs stop
              (fun target reply member => faithful _ inFlight (by rintro rfl; cases stop)
                id target reply member) history runs
            exact Event.done_snoc (.finish id (false, none)) done (by rw [storage]) like rfl rfl
      · exact (ok.rebooting reboot).1 id
          (List.mem_append_right _ (List.mem_map_of_mem Thread.id (List.getElem?_mem returned)))
  | settle env =>
      obtain ⟨event, current, inFlight, rfl, storage, settled, state⟩ := settle_some stepped
      rw [settled] at nextFlight
      cases nextFlight
      have busy : current ≠ .idle := settles.not_idle inFlight stop
      rw [if_neg (by simp [busy])]
      intro notFailed id member
      have statuses : next.handler.state.componentStatuses = cfg.handler.state.componentStatuses := by
        rw [state]
        simp [busy]
      rw [statuses] at member
      exact Event.done_snoc (.settle current) (progress _ inFlight stop notFailed id member)
        (by rw [storage]) (statuses ▸ .refl _) rfl rfl
  | clean err kept =>
      obtain ⟨_, _, inFlight, -, -, -, same⟩ := clean_some stepped
      rw [Handler.flight_of_withStage inFlight same] at nextFlight
      cases nextFlight
      exact absurd ((settles _ inFlight).2.1 rfl) (settles.not_idle inFlight stop)
  | save err =>
      obtain ⟨_, _, -, -, -, settled, -⟩ := save_some stepped
      rw [settled] at nextFlight
      cases nextFlight
  | receive =>
      obtain ⟨-, -, -, -, -, settled, -⟩ := receive_some stepped
      rw [settled] at nextFlight
      cases nextFlight
  | restart restartEnv versionEnv =>
      cases stepped
      cases nextFlight

theorem reach_progress {start : Config M} (initial : start.handler.flight = none)
    (reach : Reach setup start cfg trace) : Faithful cfg trace ∧ Progress cfg trace := by
  induction reach with
  | start =>
      refine ⟨fun flight inFlight => ?_, fun flight inFlight => ?_⟩ <;>
        (rw [initial] at inFlight; cases inFlight)
  | step _ reach stepped ih =>
      have flying := reach_flightOk initial reach
      exact ⟨step_faithful ih.1 flying stepped,
        step_progress ih.2 flying ih.1 (reach_settles initial reach) stepped⟩

end Progress

end UpdateManager.Fsm
