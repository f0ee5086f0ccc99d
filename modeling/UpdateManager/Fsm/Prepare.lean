import UpdateManager.Fsm.History

/-!
# The outcome of `onPrepareState`

Over every run, what a prepare transition has done so far is an invariant of its labels
(`PrepareLedger`, `reach_prepareLedger`). So when `onPrepareState` returns, the FSM is in
`Prepared` exactly when the request is not empty, every requested component is registered and
the last request of each passed the five checks of `prepareComponent` (`prepare_outcome`).
-/

namespace UpdateManager.Fsm

variable {M : ModuleModel}

/-! ### What a prepare closure has seen -/

/-- A call of `module.Prepare`. -/
def ExtCall.isPrepare : ExtCall → Bool
  | .module _ (.prepare ..) => true
  | _ => false

def PrepareReached : Io (Option String) → Prop
  | .pure result => result = none
  | .call request _ => request.isPrepare = true

def PrepareAfter (id file : String) (info : ComponentUpdateInfo)
    (checks calls : List (ExtCall × Reply)) (q : Io (Option String)) : Prop :=
  (calls = checks ∧ q = .call (.module id (.prepare file info.vendorVersion info.annotations))
      fun prepared => .pure prepared.err) ∨
    ∃ prepared, calls = checks ++ [(.module id (.prepare file info.vendorVersion info.annotations),
      prepared)] ∧ q = .pure prepared.err

theorem PrepareAfter.append {id file : String} {info : ComponentUpdateInfo}
    {checks calls : List (ExtCall × Reply)} {q : Io (Option String)}
    (after : PrepareAfter id file info checks calls q) (earlier : List (ExtCall × Reply)) :
    PrepareAfter id file info (earlier ++ checks) (earlier ++ calls) q := by
  rcases after with ⟨rfl, rfl⟩ | ⟨prepared, rfl, rfl⟩
  · exact .inl ⟨rfl, rfl⟩
  · exact .inr ⟨prepared, by simp, rfl⟩

/-- Checks (1) to (4) of `prepareComponent`, as its calls `checks` show them: `SetVendorVersion`
succeeded; the requested vendor version is empty, or `GetVendorVersion` failed or returned
another; the requested Aos version is 0, or `GetAosVersion` failed or returned a smaller one;
`downloadImage` succeeded, with the image `file`, and so did `CheckFileInfo`. -/
def PrepareChecked (downloadDir currentVendor id : String) (info : ComponentUpdateInfo)
    (file : String) (checks : List (ExtCall × Reply)) : Prop :=
  ∃ stored current aos downloaded checked,
    checks = [(.setVendorVersion info.id currentVendor, stored),
        (.module id .getVendorVersion, current)] ++
      (if info.aosVersion = 0 then [] else [(.getAosVersion info.id, aos)]) ++
      [(.downloadImage downloadDir info.url, downloaded),
        (.checkFileInfo downloaded.value info.sha256 info.sha512 info.size, checked)] ∧
    stored.err = none ∧
    (info.vendorVersion = "" ∨ current.err ≠ none ∨ current.value ≠ info.vendorVersion) ∧
    (info.aosVersion = 0 ∨ aos.err ≠ none ∨ aos.number < info.aosVersion) ∧
    downloaded.err = none ∧ checked.err = none ∧ file = downloaded.value

/-- The five checks of `prepareComponent` passed: (1) to (4), then `module.Prepare` of the
downloaded image returned nil. -/
def PrepareSucceeded (downloadDir currentVendor id : String) (info : ComponentUpdateInfo)
    (calls : List (ExtCall × Reply)) : Prop :=
  ∃ file checks prepared, PrepareChecked downloadDir currentVendor id info file checks ∧
    calls = checks ++ [(.module id (.prepare file info.vendorVersion info.annotations), prepared)] ∧
    prepared.err = none

section Closure

variable {downloadDir currentVendor id : String} {info : ComponentUpdateInfo}
  {calls : List (ExtCall × Reply)} {q : Io (Option String)}

private theorem vendorCheck_iff {current : Reply} {requested : String} :
    ¬(current.err = none ∧ requested ≠ "" ∧ current.value = requested) ↔
      requested = "" ∨ current.err ≠ none ∨ current.value ≠ requested := by
  simp only [not_and_or, ne_eq, not_not, or_left_comm]

private theorem prepareImage_reached (runs : Io.Runs (prepareImage downloadDir id info) calls q)
    (reached : PrepareReached q) :
    ∃ downloaded checked, downloaded.err = none ∧ checked.err = none ∧
      PrepareAfter id downloaded.value info [(.downloadImage downloadDir info.url, downloaded),
        (.checkFileInfo downloaded.value info.sha256 info.sha512 info.size, checked)] calls q := by
  rcases Io.Runs.of_call runs with ⟨-, rfl⟩ | ⟨downloaded, rest, rfl, afterDownload⟩
  · simp [PrepareReached, ExtCall.isPrepare] at reached
  cases fetched : downloaded.err with
  | some err =>
      simp only [fetched] at afterDownload
      obtain ⟨-, rfl⟩ := Io.Runs.of_pure afterDownload
      simp [PrepareReached] at reached
  | none =>
      simp only [fetched] at afterDownload
      rcases Io.Runs.of_call afterDownload with ⟨-, rfl⟩ | ⟨checked, rest', rfl, afterCheck⟩
      · simp [PrepareReached, ExtCall.isPrepare] at reached
      cases verified : checked.err with
      | some err =>
          simp only [verified] at afterCheck
          obtain ⟨-, rfl⟩ := Io.Runs.of_pure afterCheck
          simp [PrepareReached] at reached
      | none =>
          simp only [verified] at afterCheck
          refine ⟨downloaded, checked, fetched, verified, ?_⟩
          rcases Io.Runs.of_call afterCheck with ⟨rfl, rfl⟩ | ⟨prepared, rest'', rfl, afterPrepare⟩
          · exact .inl ⟨rfl, rfl⟩
          · obtain ⟨rfl, rfl⟩ := Io.Runs.of_pure afterPrepare
            exact .inr ⟨prepared, rfl, rfl⟩

private theorem checkAosVersion_reached (runs : Io.Runs (checkAosVersion downloadDir id info) calls q)
    (reached : PrepareReached q) :
    ∃ aos imageCalls,
      calls = (if info.aosVersion = 0 then [] else [(.getAosVersion info.id, aos)]) ++ imageCalls ∧
      (info.aosVersion = 0 ∨ aos.err ≠ none ∨ aos.number < info.aosVersion) ∧
      Io.Runs (prepareImage downloadDir id info) imageCalls q := by
  unfold checkAosVersion at runs
  split at runs
  · rename_i zero
    exact ⟨{}, calls, by simp [zero], .inl zero, runs⟩
  · rename_i nonzero
    rcases Io.Runs.of_call runs with ⟨-, rfl⟩ | ⟨aos, rest, rfl, afterRead⟩
    · simp [PrepareReached, ExtCall.isPrepare] at reached
    refine ⟨aos, rest, by simp [nonzero], ?_⟩
    cases read : aos.err with
    | some err =>
        simp only [read] at afterRead
        exact ⟨.inr (.inl (by simp)), afterRead⟩
    | none =>
        simp only [read] at afterRead
        split at afterRead
        · obtain ⟨-, rfl⟩ := Io.Runs.of_pure afterRead
          simp [PrepareReached] at reached
        · split at afterRead
          · obtain ⟨-, rfl⟩ := Io.Runs.of_pure afterRead
            simp [PrepareReached] at reached
          · exact ⟨.inr (.inr (by omega)), afterRead⟩

private theorem prepareComponent_reached
    (runs : Io.Runs (prepareComponent downloadDir currentVendor id info) calls q)
    (reached : PrepareReached q) :
    ∃ file checks, PrepareChecked downloadDir currentVendor id info file checks ∧
      PrepareAfter id file info checks calls q := by
  rcases Io.Runs.of_call runs with ⟨-, rfl⟩ | ⟨stored, rest, rfl, afterWrite⟩
  · simp [PrepareReached, ExtCall.isPrepare] at reached
  cases written : stored.err with
  | some err =>
      simp only [written] at afterWrite
      obtain ⟨-, rfl⟩ := Io.Runs.of_pure afterWrite
      simp [PrepareReached] at reached
  | none =>
      simp only [written] at afterWrite
      rcases Io.Runs.of_call afterWrite with ⟨-, rfl⟩ | ⟨current, rest', rfl, afterRead⟩
      · simp [PrepareReached, ExtCall.isPrepare] at reached
      split at afterRead
      · obtain ⟨-, rfl⟩ := Io.Runs.of_pure afterRead
        simp [PrepareReached] at reached
      · rename_i differs
        obtain ⟨aos, imageCalls, rfl, aosOk, imageRuns⟩ := checkAosVersion_reached afterRead reached
        obtain ⟨downloaded, checked, fetched, verified, after⟩ :=
          prepareImage_reached imageRuns reached
        refine ⟨downloaded.value, _, ⟨stored, current, aos, downloaded, checked, rfl, written,
          vendorCheck_iff.mp differs, aosOk, fetched, verified, rfl⟩, ?_⟩
        simpa using after.append ([(.setVendorVersion info.id currentVendor, stored),
          (.module id .getVendorVersion, current)] ++
          (if info.aosVersion = 0 then [] else [(.getAosVersion info.id, aos)]))

private theorem prepareImage_runs {downloaded checked : Reply} (fetched : downloaded.err = none)
    (verified : checked.err = none) (prepared : Reply) :
    Io.Runs (prepareImage downloadDir id info)
      [(.downloadImage downloadDir info.url, downloaded),
        (.checkFileInfo downloaded.value info.sha256 info.sha512 info.size, checked),
        (.module id (.prepare downloaded.value info.vendorVersion info.annotations), prepared)]
      (.pure prepared.err) := by
  refine .call _ _ downloaded _ _ ?_
  simp only [fetched]
  refine .call _ _ checked _ _ ?_
  simp only [verified]
  exact .call _ _ prepared _ _ (.refl _)

private theorem checkAosVersion_runs {aos : Reply}
    (aosOk : info.aosVersion = 0 ∨ aos.err ≠ none ∨ aos.number < info.aosVersion) :
    Io.Runs (checkAosVersion downloadDir id info)
      (if info.aosVersion = 0 then [] else [(.getAosVersion info.id, aos)])
      (prepareImage downloadDir id info) := by
  unfold checkAosVersion
  by_cases zero : info.aosVersion = 0
  · simp only [zero, if_true]
    exact .refl _
  · simp only [zero, if_false]
    refine .call _ _ aos _ _ ?_
    cases read : aos.err with
    | some err => exact .refl _
    | none =>
        have below : aos.number < info.aosVersion := by simpa [zero, read] using aosOk
        simp only [show aos.number ≠ info.aosVersion by omega,
          show ¬ aos.number > info.aosVersion by omega, if_false]
        exact .refl _

private theorem prepareComponent_none_iff :
    Io.Runs (prepareComponent downloadDir currentVendor id info) calls (.pure none) ↔
      PrepareSucceeded downloadDir currentVendor id info calls := by
  constructor
  · intro runs
    obtain ⟨file, checks, checked, after⟩ := prepareComponent_reached runs rfl
    rcases after with ⟨-, stuck⟩ | ⟨prepared, rfl, same⟩
    · cases stuck
    · injection same with ok
      exact ⟨file, checks, prepared, checked, rfl, ok.symm⟩
  · rintro ⟨file, _, prepared, ⟨stored, current, aos, downloaded, checked, rfl, written, differs,
      aosOk, fetched, verified, rfl⟩, rfl, ok⟩
    rw [← ok]
    refine .call _ _ stored _ _ ?_
    simp only [written]
    refine .call _ _ current _ _ ?_
    rw [if_neg (vendorCheck_iff.mpr differs)]
    simpa using (checkAosVersion_runs aosOk).append (prepareImage_runs fetched verified prepared)

end Closure

section Operation

variable {infos : List ComponentUpdateInfo} {currentVendor : String → String}
  {downloadDir id : String} {calls : List (ExtCall × Reply)}

private theorem prepareOperation_result {result : Bool × Option String}
    (runs : Io.Runs (prepareOperation infos currentVendor downloadDir id) calls (.pure result)) :
    result.1 = false := by
  unfold prepareOperation at runs
  split at runs
  · obtain ⟨-, same⟩ := Io.Runs.of_pure runs
    cases same
    rfl
  · obtain ⟨original, rfl, -⟩ := Io.Runs.of_map_pure runs
    rfl

theorem prepareOperation_none_iff :
    Io.Runs (prepareOperation infos currentVendor downloadDir id) calls (.pure (false, none)) ↔
      ∃ info, infoOf infos id = some info ∧
        PrepareSucceeded downloadDir (currentVendor info.id) id info calls := by
  cases found : infoOf infos id with
  | none =>
      simp only [prepareOperation, found, reduceCtorEq, false_and, exists_false, iff_false]
      intro runs
      obtain ⟨-, same⟩ := Io.Runs.of_pure runs
      cases same
  | some info =>
      simp only [prepareOperation, found, Option.some.injEq, exists_eq_left']
      rw [← prepareComponent_none_iff]
      constructor
      · intro runs
        obtain ⟨original, same, runs⟩ := Io.Runs.of_map_pure runs
        cases same
        exact runs
      · exact fun runs => runs.map

end Operation

/-! ### What a prepare transition has done -/

namespace Label

def resultOf (id : String) : Label → Option (Bool × Option String)
  | .finish other result => if other = id then some result else none
  | _ => none

end Label

def resultsOf (id : String) (trace : List Label) : List (Bool × Option String) :=
  trace.filterMap (Label.resultOf id)

@[simp] theorem resultsOf_snoc (id : String) (trace : List Label) (label : Label) :
    resultsOf id (trace ++ [label]) = resultsOf id trace ++ (label.resultOf id).toList := by
  cases h : label.resultOf id <;> simp [resultsOf, List.filterMap_append, h]

def PrepareStanding (closure : Io (Bool × Option String)) (sched : Sched) (id : String)
    (log : List Label) : Prop :=
  (id ∈ sched.pending.map (fun item => item.2.id) ∧ callsOf id log = [] ∧
      resultsOf id log = []) ∨
    (∃ thread ∈ sched.running, thread.id = id ∧ Io.Runs closure (callsOf id log) thread.program ∧
      resultsOf id log = []) ∨
    (id ∉ sched.ids ∧ ∃ result, resultsOf id log = [result] ∧
      Io.Runs closure (callsOf id log) (.pure result))

/-- The one pass of a prepare transition, against the labels `log` since its accept: a
`doOperation` pass over the requested components `ids`, all registered, that has met no
error in an earlier group and put no component in `rebootStatuses`; each component stands as
`PrepareStanding` says, none other has called out, and `groupErr` is set exactly when a
goroutine returned an error. -/
structure PreparePass (setup : Setup) (infos : List ComponentUpdateInfo) (vendor : String → String)
    (ids : List String) (log : List Label) (loop : LoopState) : Prop where
  nonempty : infos ≠ []
  pass : loop.pass = .operation
  noReboot : loop.statuses = []
  noErr : loop.err = none
  schedErr : loop.sched.err = none
  registered : ∀ id ∈ ids, (setup.components id).isSome
  scheduled : ∀ id ∈ loop.sched.ids, id ∈ ids
  standing : ∀ id ∈ ids,
    PrepareStanding (prepareOperation infos vendor setup.downloadDir id) loop.sched id log
  outside : ∀ id, id ∉ ids → callsOf id log = []
  groupErr : loop.sched.groupErr = none ↔ ∀ id ∈ ids, ∀ result ∈ resultsOf id log, result.2 = none

def PrepareAll (setup : Setup) (infos : List ComponentUpdateInfo) (vendor : String → String)
    (ids : List String) (log : List Label) : Prop :=
  infos ≠ [] ∧ (∀ id ∈ ids, (setup.components id).isSome) ∧
    ∀ id ∈ ids, Io.Runs (prepareOperation infos vendor setup.downloadDir id) (callsOf id log)
      (.pure (false, none))

def PrepareCalls (setup : Setup) (infos : List ComponentUpdateInfo) (vendor : String → String)
    (ids : List String) (log : List Label) : Prop :=
  (∀ id, ∃ q, Io.Runs (prepareOperation infos vendor setup.downloadDir id) (callsOf id log) q) ∧
    ((∃ id ∈ ids, setup.components id = none) → ∀ id, callsOf id log = [])

/-- What a prepare transition heading for `current` has done, at each stage of its callback:
in its pass; once `componentOperation` returned `err`, which is nil exactly when the
transition succeeded; and once the callback returned, in `Prepared` exactly then and in
`Failed` otherwise. -/
def PrepareStage (setup : Setup) (infos : List ComponentUpdateInfo) (vendor : String → String)
    (ids : List String) (log : List Label) (current : UpdateState) : Stage → Prop
  | .loop loop => current = .prepared ∧ PreparePass setup infos vendor ids log loop
  | .returned err => current = .prepared ∧ (err = none ↔ PrepareAll setup infos vendor ids log) ∧
      PrepareCalls setup infos vendor ids log
  | .settling => (current = .prepared ↔ PrepareAll setup infos vendor ids log) ∧
      (current = .prepared ∨ current = .failed) ∧ PrepareCalls setup infos vendor ids log
  | .cleaning | .saving => True

/-- The prepare transition in flight, if there is one, against the labels since its accept:
its components are those of the status map `onPrepareState` built. -/
def PrepareLedger (setup : Setup) (cfg : Config M) (trace : List Label) : Prop :=
  ∀ infos current stage, cfg.handler.flight = some ⟨.prepare infos, current, stage⟩ →
    PrepareStage setup infos cfg.handler.runtimeVendor (statusesOf infos).ids (since trace) current
      stage

section Pass

variable {setup : Setup} {infos : List ComponentUpdateInfo} {vendor : String → String}
  {ids : List String} {log : List Label} {loop : LoopState}

theorem PreparePass.calls (pass : PreparePass setup infos vendor ids log loop) :
    PrepareCalls setup infos vendor ids log := by
  refine ⟨fun id => ?_, fun ⟨id, member, missing⟩ => by
    simpa [missing] using pass.registered id member⟩
  by_cases requested : id ∈ ids
  · rcases pass.standing id requested with ⟨-, quiet, -⟩ | ⟨thread, -, -, runs, -⟩ |
      ⟨-, result, -, runs⟩
    · exact ⟨_, quiet ▸ Io.Runs.refl _⟩
    · exact ⟨_, runs⟩
    · exact ⟨_, runs⟩
  · exact ⟨_, pass.outside id requested ▸ Io.Runs.refl _⟩

private theorem PrepareAll.snoc_quiet {label : Label} (quiet : ∀ id, label.callOf id = none) :
    PrepareAll setup infos vendor ids (log ++ [label]) ↔ PrepareAll setup infos vendor ids log := by
  simp [PrepareAll, quiet]

private theorem PrepareCalls.snoc_quiet {label : Label} (quiet : ∀ id, label.callOf id = none) :
    PrepareCalls setup infos vendor ids (log ++ [label]) ↔ PrepareCalls setup infos vendor ids log := by
  simp [PrepareCalls, quiet]

private theorem PreparePass.not_all (pass : PreparePass setup infos vendor ids log loop)
    (failed : loop.sched.groupErr ≠ none) : ¬ PrepareAll setup infos vendor ids log := by
  rintro ⟨-, -, succeeded⟩
  refine failed (pass.groupErr.mpr fun id member result returned => ?_)
  rcases pass.standing id member with ⟨-, -, none⟩ | ⟨-, -, -, -, none⟩ | ⟨-, last, results, runs⟩
  · simp [none] at returned
  · simp [none] at returned
  · rw [results, List.mem_singleton] at returned
    subst returned
    cases Io.Runs.unique runs (succeeded id member)
    rfl

theorem PreparePass.all (pass : PreparePass setup infos vendor ids log loop)
    (empty : loop.sched.pending = []) (idle : loop.sched.running = [])
    (clean : loop.sched.groupErr = none) : PrepareAll setup infos vendor ids log := by
  refine ⟨pass.nonempty, pass.registered, fun id member => ?_⟩
  rcases pass.standing id member with ⟨waiting, -⟩ | ⟨thread, running, -⟩ |
    ⟨-, result, results, runs⟩
  · simp [empty] at waiting
  · simp [idle] at running
  · have ok : result.2 = none := pass.groupErr.mp clean id member result (by simp [results])
    obtain ⟨reboot, err⟩ := result
    cases prepareOperation_result runs
    cases ok
    exact runs

private theorem mem_set_of_id_ne {running : List Thread} {index : Nat} {thread moved : Thread}
    (member : thread ∈ running) (waiting : running[index]? = some moved) (other : thread.id ≠ moved.id)
    (next : Thread) : thread ∈ running.set index next := by
  obtain ⟨position, found⟩ := List.mem_iff_getElem?.mp member
  have apart : index ≠ position := by
    rintro rfl
    rw [found, Option.some.injEq] at waiting
    exact other (by rw [waiting])
  exact List.mem_iff_getElem?.mpr ⟨position, by rw [List.getElem?_set_ne apart, found]⟩

private theorem PreparePass.runs_at (pass : PreparePass setup infos vendor ids log loop)
    (distinct : loop.sched.ids.Nodup) {index : Nat} {thread : Thread}
    (waiting : loop.sched.running[index]? = some thread) :
    Io.Runs (prepareOperation infos vendor setup.downloadDir thread.id) (callsOf thread.id log)
      thread.program ∧ resultsOf thread.id log = [] := by
  have current := List.getElem?_mem waiting
  have scheduled : thread.id ∈ loop.sched.ids :=
    List.mem_append_right _ (List.mem_map_of_mem Thread.id current)
  obtain ⟨-, runningDistinct, apart⟩ := List.nodup_append.mp distinct
  rcases pass.standing _ (pass.scheduled _ scheduled) with ⟨queued, -⟩ |
    ⟨other, running, same, runs, none⟩ | ⟨gone, -⟩
  · exact absurd (List.mem_map_of_mem Thread.id current) (apart queued)
  · cases List.inj_on_of_nodup_map runningDistinct running current same
    exact ⟨runs, none⟩
  · exact absurd scheduled gone

theorem PreparePass.skip (pass : PreparePass setup infos vendor ids log loop) {label : Label}
    (noCall : ∀ id, label.callOf id = none) (noResult : ∀ id, label.resultOf id = none) :
    PreparePass setup infos vendor ids (log ++ [label]) loop := by
  have calls : ∀ id, callsOf id (log ++ [label]) = callsOf id log := fun id => by simp [noCall]
  have results : ∀ id, resultsOf id (log ++ [label]) = resultsOf id log :=
    fun id => by simp [noResult]
  refine { pass with
    standing := fun id member => ?_
    outside := fun id outside => (calls id).trans (pass.outside id outside)
    groupErr := by simpa only [results] using pass.groupErr }
  simpa only [PrepareStanding, calls, results] using pass.standing id member

theorem PreparePass.regroup (pass : PreparePass setup infos vendor ids log loop)
    (clean : loop.sched.groupErr = none) (priority : Nat) :
    PreparePass setup infos vendor ids log { loop with sched := { loop.sched with
      priority, groupErr := none, err := loop.sched.err.or loop.sched.groupErr } } :=
  { pass with
    schedErr := by simp [pass.schedErr, clean]
    groupErr := ⟨fun _ => pass.groupErr.mp clean, fun _ => rfl⟩ }

theorem PreparePass.launch (pass : PreparePass setup infos vendor ids log loop)
    (distinct : loop.sched.ids.Nodup) {priority : Nat} {thread : Thread}
    {rest : List (Nat × Thread)} (pending : loop.sched.pending = (priority, thread) :: rest)
    (start : thread.program = prepareOperation infos vendor setup.downloadDir thread.id) :
    PreparePass setup infos vendor ids log { loop with sched := { loop.sched with
      pending := rest, running := loop.sched.running ++ [thread] } } := by
  have moved := Sched.ids_launch pending
  refine { pass with
    scheduled := fun id member => pass.scheduled id (moved.subset member)
    standing := fun id member => ?_ }
  have waiting : thread.id ∉ loop.sched.running.map Thread.id := fun running =>
    (List.nodup_append.mp distinct).2.2 (by simp [pending]) running
  by_cases own : id = thread.id
  · subst own
    rcases pass.standing _ member with ⟨-, quiet, none⟩ | ⟨other, running, same, -⟩ | ⟨gone, -⟩
    · exact .inr (.inl ⟨thread, by simp, rfl, by rw [quiet, start]; exact .refl _, none⟩)
    · exact absurd (same ▸ List.mem_map_of_mem _ running) waiting
    · exact absurd (by simp [Sched.ids, pending]) gone
  · rcases pass.standing id member with ⟨queued, quiet, none⟩ | ⟨other, running, same, runs, none⟩ |
      ⟨gone, finished⟩
    · exact .inl ⟨by simpa [pending, own, Ne.symm own] using queued, quiet, none⟩
    · exact .inr (.inl ⟨other, List.mem_append_left _ running, same, runs, none⟩)
    · exact .inr (.inr ⟨fun member => gone (moved.subset member), finished⟩)

theorem PreparePass.call (pass : PreparePass setup infos vendor ids log loop)
    (distinct : loop.sched.ids.Nodup) {index : Nat} {id : String} {request : ExtCall}
    {resume : Reply → Io (Bool × Option String)}
    (waiting : loop.sched.running[index]? = some ⟨id, .call request resume⟩) (reply : Reply) :
    PreparePass setup infos vendor ids (log ++ [.call id request reply]) { loop with sched :=
      { loop.sched with running := loop.sched.running.set index ⟨id, resume reply⟩ } } := by
  have sameIds : ({ loop.sched with running := loop.sched.running.set index ⟨id, resume reply⟩ } :
      Sched).ids = loop.sched.ids := by
    simp only [Sched.ids, ids_set waiting (resume reply)]
  have current := List.getElem?_mem waiting
  have scheduled : id ∈ loop.sched.ids := List.mem_append_right _ (List.mem_map_of_mem Thread.id current)
  have calls : ∀ other, other ≠ id →
      callsOf other (log ++ [.call id request reply]) = callsOf other log :=
    fun other own => by simp [Label.callOf, Ne.symm own]
  have results : ∀ other, resultsOf other (log ++ [.call id request reply]) = resultsOf other log :=
    fun other => by simp [Label.resultOf]
  refine { pass with
    scheduled := sameIds ▸ pass.scheduled
    standing := fun other member => ?_
    outside := fun other outside => ?_
    groupErr := by simpa only [results] using pass.groupErr }
  · rw [PrepareStanding, results, sameIds]
    by_cases own : other = id
    · subst own
      obtain ⟨runs, none⟩ := pass.runs_at distinct waiting
      refine .inr (.inl ⟨_, List.mem_set _ _ (List.getElem?_eq_some_iff.mp waiting).1 _, rfl, ?_,
        none⟩)
      simpa [Label.callOf] using runs.snoc rfl reply
    · rw [calls other own]
      rcases pass.standing other member with queued | ⟨thread, running, same, runs, none⟩ | finished
      · exact .inl queued
      · exact .inr (.inl ⟨thread, mem_set_of_id_ne running waiting (same ▸ own) _, same, runs, none⟩)
      · exact .inr (.inr finished)
  · rw [calls other fun same => outside (same ▸ pass.scheduled id scheduled)]
    exact pass.outside other outside

theorem PreparePass.finish (pass : PreparePass setup infos vendor ids log loop)
    (distinct : loop.sched.ids.Nodup) {index : Nat} {id : String} {rebootRequired : Bool}
    {err : Option String}
    (returned : loop.sched.running[index]? = some ⟨id, .pure (rebootRequired, err)⟩)
    (statuses : StatusMap) :
    PreparePass setup infos vendor ids (log ++ [.finish id (rebootRequired, err)])
      (finishThread statuses loop { loop.sched with
        running := loop.sched.running.eraseIdx index
        groupErr := loop.sched.groupErr.or err } id rebootRequired err).2 := by
  have current := List.getElem?_mem returned
  have scheduled : id ∈ loop.sched.ids :=
    List.mem_append_right _ (List.mem_map_of_mem Thread.id current)
  obtain ⟨-, runningDistinct, apart⟩ := List.nodup_append.mp distinct
  have removed : List.Perm (loop.sched.running.map Thread.id)
      (id :: (loop.sched.running.eraseIdx index).map Thread.id) :=
    (perm_cons_eraseIdx returned).map Thread.id
  have calls : ∀ other, callsOf other (log ++ [.finish id (rebootRequired, err)]) =
      callsOf other log := fun other => by simp [Label.callOf]
  have results : ∀ other, resultsOf other (log ++ [.finish id (rebootRequired, err)]) =
      resultsOf other log ++ if other = id then [(rebootRequired, err)] else [] := fun other => by
    by_cases own : other = id
    · simp [Label.resultOf, own]
    · simp [Label.resultOf, own, Ne.symm own]
  have kept : ∀ other, other ∈ (loop.sched.pending.map fun item => item.2.id) ++
      (loop.sched.running.eraseIdx index).map Thread.id → other ∈ loop.sched.ids := by
    intro other member
    rcases List.mem_append.mp member with queued | running
    · exact List.mem_append_left _ queued
    · exact List.mem_append_right _ (removed.symm.subset (List.mem_cons_of_mem _ running))
  obtain ⟨runs, none⟩ := pass.runs_at distinct returned
  have noReboot : rebootRequired = false := prepareOperation_result runs
  rw [finishThread_loop]
  refine { pass with
    noReboot := by simp [pass.noReboot, noReboot]
    schedErr := pass.schedErr
    scheduled := fun other member => pass.scheduled other (kept other member)
    standing := fun other member => ?_
    outside := fun other outside => (calls other).trans (pass.outside other outside)
    groupErr := ?_ }
  · rw [PrepareStanding, calls, results]
    by_cases own : other = id
    · subst own
      refine .inr (.inr ⟨fun member => ?_, _, by simp [none], runs⟩)
      rcases List.mem_append.mp member with queued | running
      · exact apart queued (List.mem_map_of_mem Thread.id current)
      · exact (List.nodup_cons.mp (removed.nodup_iff.mp runningDistinct)).1 running
    · simp only [own, if_false, List.append_nil]
      rcases pass.standing other member with queued | ⟨thread, running, same, runs, none⟩ |
        ⟨gone, finished⟩
      · exact .inl queued
      · refine .inr (.inl ⟨thread, ?_, same, runs, none⟩)
        rcases (perm_cons_eraseIdx returned).subset running with ⟨⟩ | ⟨_, running⟩
        · exact absurd same.symm own
        · exact running
      · exact .inr (.inr ⟨fun member => gone (kept other member), finished⟩)
  · simp only [Option.or_eq_none, results, pass.groupErr]
    constructor
    · rintro ⟨clean, errClean⟩ other member result found
      rcases List.mem_append.mp found with old | new
      · exact clean other member result old
      · split at new
        · rw [List.mem_singleton.mp new]
          exact errClean
        · cases new
    · intro clean
      refine ⟨fun other member result old => clean other member result (List.mem_append_left _ old),
        ?_⟩
      simpa using clean id (pass.scheduled id scheduled) (rebootRequired, err) (by simp)

theorem PreparePass.returned (pass : PreparePass setup infos vendor ids log loop)
    (idle : loop.sched.running = []) (ended : loop.sched.pending = [] ∨ loop.sched.groupErr ≠ none) :
    loop.sched.groupErr = none ↔ PrepareAll setup infos vendor ids log := by
  rcases ended with empty | failed
  · exact ⟨pass.all empty idle, fun all => by_contra fun failed => pass.not_all failed all⟩
  · exact ⟨fun clean => absurd clean failed, fun all => absurd all (pass.not_all failed)⟩

end Pass

/-! ### The start and the end of the callback -/

section Start

variable {setup : Setup} {infos : List ComponentUpdateInfo} {vendor : String → String}

theorem collectOperations_error {stopOnError : Bool} {priorityOf : ComponentData → Nat}
    {operation : String → Io (Bool × Option String)} :
    ∀ {statuses : StatusMap} {ids : List String} {message : String},
      (collectOperations setup stopOnError priorityOf operation statuses ids).2 = .error message →
        ∃ id ∈ ids, setup.components id = none
  | _, [], _, failed => by cases failed
  | statuses, id :: rest, _, failed => by
      unfold collectOperations at failed
      split at failed
      · rename_i missing
        exact ⟨id, List.mem_cons_self _ _, missing⟩
      · cases inner : (collectOperations setup stopOnError priorityOf operation statuses rest).2 with
        | error other =>
            obtain ⟨missing, member, unregistered⟩ := collectOperations_error inner
            exact ⟨missing, List.mem_cons_of_mem _ member, unregistered⟩
        | ok operations => simp [inner, Except.map] at failed

private theorem componentOperation_prepare {order : List String} (nonempty : infos ≠ [])
    (perm : List.Perm order (statusesOf infos).ids) :
    PrepareStage setup infos vendor (statusesOf infos).ids [] .prepared
      (componentOperation setup (.prepare infos) vendor (statusesOf infos) order).2 := by
  have started : order ≠ [] := by
    obtain ⟨info, rest, rfl⟩ := List.exists_cons_of_ne_nil nonempty
    rintro rfl
    simpa using perm.symm.subset (mem_statusesOf_ids.mpr ⟨info, List.mem_cons_self _ _, rfl⟩)
  obtain ⟨-, collected⟩ := collectOperations_spec setup true ComponentData.updatePriority
    (prepareOperation infos vendor setup.downloadDir) order (statusesOf infos)
  simp only [componentOperation, started, if_false, operationPass, doOperation, Event.stopOnError,
    Event.operation]
  split
  · rename_i message failed
    obtain ⟨id, member, missing⟩ := collectOperations_error failed
    refine ⟨rfl, ⟨nofun, fun ⟨_, registered, _⟩ => ?_⟩, fun _ => ⟨_, .refl _⟩, fun _ _ => rfl⟩
    simpa [missing] using registered id (perm.subset member)
  · rename_i operations same
    rw [same] at collected
    obtain ⟨threads, programs⟩ := Collected.threads collected
    have registered : ∀ id ∈ order, (setup.components id).isSome := collected.2 rfl
    have everyone : order.filter (fun id => (setup.components id).isSome) = order :=
      List.filter_eq_self.mpr registered
    refine ⟨rfl, nonempty, rfl, rfl, rfl, rfl, fun id member => registered id (perm.symm.subset member),
      fun id member => ?_, fun id member => .inl ⟨?_, rfl, rfl⟩, fun _ _ => rfl,
      ⟨fun _ _ _ _ none => (by cases none), fun _ => rfl⟩⟩
    · exact perm.subset (List.mem_of_mem_filter ((start_ids order operations threads).subset member))
    · have listed : id ∈ operations.map fun item => item.2.id := by
        rw [threads, everyone]
        exact perm.symm.subset member
      exact ((Sched.start_pending operations).map fun item => item.2.id).symm.subset listed

private theorem passReturned_operation {event : Event} {statuses : StatusMap} {loop : LoopState}
    {result : Option String} (pass : loop.pass = .operation) (noReboot : loop.statuses = [])
    (noErr : loop.err = none) :
    passReturned setup event vendor statuses loop result = (statuses, .returned result) := by
  unfold passReturned
  split
  · rfl
  · simp [pass, noReboot, noErr]

private theorem callbackReturned_prepare (err : Option String) (state : HandlerState)
    (current : UpdateState) :
    (callbackReturned (.prepare infos) err state current).2 =
      if err = none then current else .failed := by
  cases err <;> rfl

end Start

/-! ### Every prepare transition of every run -/

section Run

variable {setup : Setup} {cfg next : Config M} {choice : Choice M} {label : Label}
  {trace : List Label}

theorem PrepareLedger.of_stage {trace' : List Label} {event : Event} {current : UpdateState}
    {stage : Stage} (nextFlight : next.handler.flight = some ⟨event, current, stage⟩)
    (holds : ∀ infos, event = .prepare infos →
      PrepareStage setup infos next.handler.runtimeVendor (statusesOf infos).ids (since trace')
        current stage) :
    PrepareLedger setup next trace' := by
  intro infos current' stage' inFlight
  rw [nextFlight] at inFlight
  cases inFlight
  exact holds infos rfl

theorem PrepareLedger.of_settled {trace' : List Label} (settled : next.handler.flight = none) :
    PrepareLedger setup next trace' := by
  intro infos current stage inFlight
  rw [settled] at inFlight
  cases inFlight

theorem PrepareLedger.of_pass {event : Event} {current : UpdateState} {loop : LoopState}
    {stage : Stage} (flying : FlightOk setup cfg trace) (ledger : PrepareLedger setup cfg trace)
    (inFlight : cfg.handler.flight = some ⟨event, current, .loop loop⟩)
    (nextFlight : next.handler.flight = some ⟨event, current, stage⟩)
    (vendor : next.handler.runtimeVendor = cfg.handler.runtimeVendor)
    (inner : label.isBoundary = false)
    (moves : ∀ infos, event = .prepare infos → PassOk setup cfg.handler event (since trace) loop →
      PreparePass setup infos cfg.handler.runtimeVendor (statusesOf infos).ids (since trace) loop →
      PrepareStage setup infos cfg.handler.runtimeVendor (statusesOf infos).ids
        (since trace ++ [label]) .prepared stage) :
    PrepareLedger setup next (trace ++ [label]) := by
  refine PrepareLedger.of_stage nextFlight fun infos prepare => ?_
  obtain ⟨rfl, pass⟩ := ledger infos current _ (prepare ▸ inFlight)
  rw [since_snoc, if_neg (by simp [inner]), vendor]
  exact moves infos prepare (flying _ loop inFlight rfl) pass

private theorem step_prepareLedger (flying : FlightOk setup cfg trace)
    (ledger : PrepareLedger setup cfg trace) (stepped : step setup cfg choice = some (label, next)) :
    PrepareLedger setup next (trace ++ [label]) := by
  cases choice with
  | send event order =>
      obtain ⟨-, -, rfl, -, -, began⟩ := sendEvent_some stepped
      obtain ⟨vendor, ⟨rfl, -, nextFlight⟩ | ⟨notEmpty, perm, -, nextFlight⟩⟩ :=
        startTransition_some began
      · refine PrepareLedger.of_stage nextFlight fun infos same => ?_
        cases same
        simp only [since_snoc, Label.isBoundary, if_true]
        exact ⟨⟨nofun, fun ⟨nonempty, _⟩ => absurd rfl nonempty⟩, .inr rfl, fun _ => ⟨_, .refl _⟩,
          fun _ _ => rfl⟩
      · refine PrepareLedger.of_stage nextFlight fun infos same => ?_
        subst same
        simp only [since_snoc, Label.isBoundary, if_true, vendor]
        exact componentOperation_prepare (fun empty => notEmpty (by rw [empty]))
          (List.isPerm_iff.mp perm)
  | advance =>
      obtain ⟨-, -, ⟨event, current, stage⟩, inFlight, launch | barrier | returned | ended⟩ :=
        advance_some stepped
      · obtain ⟨loop, priority, thread, _, atLoop, pending, -, rfl, same⟩ := launch
        obtain rfl : stage = .loop loop := atLoop
        have nextFlight := Handler.flight_of_withStage inFlight same
        refine ledger.of_pass flying inFlight nextFlight (by rw [same]; rfl) rfl
          fun infos prepare ok pass => ?_
        subst prepare
        have start : thread.program =
            prepareOperation infos cfg.handler.runtimeVendor setup.downloadDir thread.id := by
          have program := ok.pending (priority, thread) (by simp [pending])
          rwa [pass.pass] at program
        exact ⟨rfl, (pass.launch ok.ids_nodup pending start).skip (fun _ => rfl) fun _ => rfl⟩
      · obtain ⟨loop, priority, _, _, atLoop, -, -, -, clean, rfl, same⟩ := barrier
        obtain rfl : stage = .loop loop := atLoop
        have nextFlight := Handler.flight_of_withStage inFlight same
        refine ledger.of_pass flying inFlight nextFlight (by rw [same]; rfl) rfl
          fun infos prepare _ pass => ?_
        subst prepare
        have clean : loop.sched.groupErr = none := by simpa [Event.stopOnError] using clean
        exact ⟨rfl, (pass.regroup clean priority).skip (fun _ => rfl) fun _ => rfl⟩
      · obtain ⟨loop, result, atLoop, idle, ends, rfl, same⟩ := returned
        obtain rfl : stage = .loop loop := atLoop
        have nextFlight := Handler.flight_of_withStatuses inFlight same
        refine ledger.of_pass flying inFlight nextFlight (by rw [same]; rfl) rfl
          fun infos prepare _ pass => ?_
        subst prepare
        have ended : result = loop.sched.groupErr ∧
            (loop.sched.pending = [] ∨ loop.sched.groupErr ≠ none) := by
          rcases ends with ⟨_, _, _, -, -, -, rfl, failed⟩ | ⟨empty, rfl⟩
          · exact ⟨rfl, .inr (Option.isSome_iff_ne_none.mp failed)⟩
          · exact ⟨by rw [pass.schedErr, Option.none_or], .inl empty⟩
        rw [passReturned_operation pass.pass pass.noReboot pass.noErr, ended.1]
        have quiet : ∀ id, (Label.passed loop.pass.isOperation).callOf id = none := fun _ => rfl
        have pass := pass.skip quiet fun _ => rfl
        exact ⟨rfl, pass.returned idle ended.2, pass.calls⟩
      · obtain ⟨err, atReturned, rfl, same⟩ := ended
        obtain rfl : stage = .returned err := atReturned
        refine PrepareLedger.of_stage (congrArg Handler.flight same) fun infos prepare => ?_
        subst prepare
        obtain ⟨prepared, succeeded, calls⟩ := ledger infos current _ inFlight
        have quiet : ∀ id, Label.control.callOf id = none := fun _ => rfl
        rw [since_snoc, if_neg (by simp [Label.isBoundary]), same]
        show (_ ↔ _) ∧ _ ∧ _
        rw [PrepareAll.snoc_quiet quiet, PrepareCalls.snoc_quiet quiet, callbackReturned_prepare]
        cases err with
        | none => exact ⟨by simp [prepared, succeeded.mp rfl], .inl (by simp [prepared]), calls⟩
        | some message =>
            exact ⟨iff_of_false (by simp) (fun all => nomatch succeeded.mpr all), .inr (by simp),
              calls⟩
  | goroutine index env reply =>
      obtain ⟨event, current, loop, _, _, _, inFlight, waiting, rfl, -, -, same⟩ :=
        goroutineCall_some stepped
      have nextFlight := Handler.flight_of_withStage inFlight same
      exact ledger.of_pass flying inFlight nextFlight (by rw [same]; rfl) rfl
        fun infos prepare ok pass => ⟨rfl, pass.call ok.ids_nodup waiting _⟩
  | finish index =>
      obtain ⟨event, current, loop, _, _, _, inFlight, returned, rfl, -, -, same⟩ :=
        goroutineFinish_some stepped
      have nextFlight := Handler.flight_of_withStatuses inFlight same
      exact ledger.of_pass flying inFlight nextFlight (by rw [same]; rfl) rfl
        fun infos prepare ok pass => ⟨rfl, pass.finish ok.ids_nodup returned _⟩
  | settle env =>
      obtain ⟨_, _, -, -, -, nextFlight, -⟩ := settle_some stepped
      exact PrepareLedger.of_stage nextFlight fun _ _ => by split <;> trivial
  | clean err kept =>
      obtain ⟨_, _, inFlight, -, -, -, same⟩ := clean_some stepped
      exact PrepareLedger.of_stage (Handler.flight_of_withStage inFlight same) fun _ _ => trivial
  | save err =>
      obtain ⟨_, _, -, -, -, settled, -⟩ := save_some stepped
      exact PrepareLedger.of_settled settled
  | receive =>
      obtain ⟨-, -, -, -, -, settled, -⟩ := receive_some stepped
      exact PrepareLedger.of_settled settled
  | restart restartEnv versionEnv =>
      cases stepped
      exact PrepareLedger.of_settled rfl

theorem reach_prepareLedger {start : Config M} (initial : start.handler.flight = none)
    (reach : Reach setup start cfg trace) : PrepareLedger setup cfg trace := by
  induction reach with
  | start => exact PrepareLedger.of_settled initial
  | step _ prior stepped ih => exact step_prepareLedger (reach_flightOk initial prior) ih stepped

end Run

def onePrepare : List (Choice anyModule) :=
  [.send (.prepare [oneRequest 2]) ["c"], .advance, .goroutine 0 {} {},
    .goroutine 0 { value := "1.0" } {}, .goroutine 0 {} {},
    .goroutine 0 {} { value := "/var/aos/download/c.img" }, .goroutine 0 {} {},
    .goroutine 0 {} {}, .finish 0, .advance, .advance]

end UpdateManager.Fsm
