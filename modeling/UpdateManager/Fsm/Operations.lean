import UpdateManager.Fsm.Basic

/-!
# The component operations of the FSM handler

The closures of `onPrepareState` (with `prepareComponent`), `onUpdateState`, `onApplyState`,
`onRevertState` and `doReboot` as `Io` programs: returned, or waiting on the reply of one
`ExtCall`. `Io.Runs p calls q` says that `p` becomes `q` after `calls`.
-/

namespace UpdateManager.Fsm

/-- A goroutine's remaining code: returned, or waiting for the reply of a call. -/
inductive Io (α : Type) where
  | pure (result : α)
  | call (request : ExtCall) (resume : Reply → Io α)

namespace Io

variable {α β : Type}

def map (f : α → β) : Io α → Io β
  | .pure result => .pure (f result)
  | .call request resume => .call request (fun reply => map f (resume reply))

/-- `p` becomes `q` after the calls `calls`, each with the reply it got. -/
inductive Runs : Io α → List (ExtCall × Reply) → Io α → Prop
  | refl (p : Io α) : Runs p [] p
  | call (request : ExtCall) (resume : Reply → Io α) (reply : Reply)
      (calls : List (ExtCall × Reply)) (q : Io α) :
      Runs (resume reply) calls q → Runs (.call request resume) ((request, reply) :: calls) q

theorem Runs.snoc {p q : Io α} {calls : List (ExtCall × Reply)} (runs : Runs p calls q)
    {request : ExtCall} {resume : Reply → Io α} (waiting : q = .call request resume)
    (reply : Reply) : Runs p (calls ++ [(request, reply)]) (resume reply) := by
  induction runs with
  | refl =>
      subst waiting
      exact .call request resume reply [] _ (.refl _)
  | call request' resume' reply' calls q _ ih => exact .call request' resume' reply' _ _ (ih waiting)

theorem Runs.of_pure {result : α} {calls : List (ExtCall × Reply)} {q : Io α}
    (runs : Runs (.pure result) calls q) : calls = [] ∧ q = .pure result := by
  cases runs
  exact ⟨rfl, rfl⟩

theorem Runs.of_call {request : ExtCall} {resume : Reply → Io α}
    {calls : List (ExtCall × Reply)} {q : Io α} (runs : Runs (.call request resume) calls q) :
    (calls = [] ∧ q = .call request resume) ∨
      ∃ reply rest, calls = (request, reply) :: rest ∧ Runs (resume reply) rest q := by
  cases runs with
  | refl => exact .inl ⟨rfl, rfl⟩
  | call _ _ reply rest _ next => exact .inr ⟨reply, rest, rfl, next⟩

theorem Runs.map {f : α → β} {p q : Io α} {calls : List (ExtCall × Reply)}
    (runs : Runs p calls q) : Runs (p.map f) calls (q.map f) := by
  induction runs with
  | refl => exact .refl _
  | call request resume reply calls q _ ih => exact .call request (fun reply => Io.map f (resume reply)) reply calls _ ih

theorem Runs.append {p q r : Io α} {first second : List (ExtCall × Reply)}
    (runs : Runs p first q) (more : Runs q second r) : Runs p (first ++ second) r := by
  induction runs with
  | refl => exact more
  | call request resume reply calls q _ ih => exact .call request resume reply _ _ (ih more)

theorem Runs.split {q : Io α} {second : List (ExtCall × Reply)} :
    ∀ {p : Io α} {first : List (ExtCall × Reply)}, Runs p (first ++ second) q →
      ∃ middle, Runs p first middle ∧ Runs middle second q
  | p, [], runs => ⟨p, .refl p, runs⟩
  | _, (request, reply) :: rest, runs => by
      cases runs with
      | call _ resume _ _ _ next =>
          obtain ⟨middle, upTo, after⟩ := Runs.split next
          exact ⟨middle, .call request resume reply rest middle upTo, after⟩

theorem Runs.unique {p q q' : Io α} {calls : List (ExtCall × Reply)} (runs : Runs p calls q)
    (runs' : Runs p calls q') : q = q' := by
  induction runs with
  | refl => cases runs'; rfl
  | call request resume reply calls q _ ih =>
      cases runs' with
      | call _ _ _ _ _ next => exact ih next

/-- Every call `p` can make satisfies `allowed`. -/
def Only (allowed : ExtCall → Prop) : Io α → Prop
  | .pure _ => True
  | .call request resume => allowed request ∧ ∀ reply, Only allowed (resume reply)

theorem Only.mono {allowed wider : ExtCall → Prop} (widen : ∀ request, allowed request → wider request) :
    ∀ {p : Io α}, p.Only allowed → p.Only wider
  | .pure _, _ => trivial
  | .call _ _, ⟨head, rest⟩ => ⟨widen _ head, fun reply => Only.mono widen (rest reply)⟩

theorem Only.map {allowed : ExtCall → Prop} {f : α → β} :
    ∀ {p : Io α}, p.Only allowed → (p.map f).Only allowed
  | .pure _, _ => trivial
  | .call _ _, ⟨head, rest⟩ => ⟨head, fun reply => Only.map (rest reply)⟩

theorem Runs.only {allowed : ExtCall → Prop} {p q : Io α} {calls : List (ExtCall × Reply)}
    (runs : Runs p calls q) (only : p.Only allowed) : q.Only allowed := by
  induction runs with
  | refl => exact only
  | call _ _ reply _ _ _ ih => exact ih (only.2 reply)

theorem Only.request {allowed : ExtCall → Prop} {request : ExtCall} {resume : Reply → Io α}
    (only : (Io.call request resume).Only allowed) : allowed request :=
  only.1

theorem Runs.of_map_pure {f : α → β} {p : Io α} {calls : List (ExtCall × Reply)} {result : β}
    (runs : Runs (p.map f) calls (.pure result)) :
    ∃ original, f original = result ∧ Runs p calls (.pure original) := by
  induction p generalizing calls with
  | pure value =>
      obtain ⟨rfl, same⟩ := Runs.of_pure runs
      cases same
      exact ⟨value, rfl, .refl _⟩
  | call request resume ih =>
      rcases Runs.of_call runs with ⟨_, stuck⟩ | ⟨reply, rest, rfl, next⟩
      · cases stuck
      · obtain ⟨original, mapped, runs⟩ := ih reply next
        exact ⟨original, mapped, .call request resume reply rest _ runs⟩

end Io

/-! ### The closures -/

/-- The end of `prepareComponent`: `downloadImage`, `image.CheckFileInfo`, `module.Prepare`. -/
def prepareImage (downloadDir id : String) (info : ComponentUpdateInfo) : Io (Option String) :=
  .call (.downloadImage downloadDir info.url) fun file =>
    match file.err with
    | some err => .pure (some err)
    | none =>
        .call (.checkFileInfo file.value info.sha256 info.sha512 info.size) fun checked =>
          match checked.err with
          | some err => .pure (some err)
          | none =>
              .call (.module id (.prepare file.value info.vendorVersion info.annotations))
                fun prepared => .pure prepared.err

/-- The Aos version check of `prepareComponent`, skipped for a requested version 0 and when
`GetAosVersion` fails. -/
def checkAosVersion (downloadDir id : String) (info : ComponentUpdateInfo) :
    Io (Option String) :=
  if info.aosVersion = 0 then prepareImage downloadDir id info
  else
    .call (.getAosVersion info.id) fun stored =>
      match stored.err with
      | some _ => prepareImage downloadDir id info
      | none =>
          if stored.number = info.aosVersion then
            .pure (some ("Component already has required Aos version: " ++
              toString info.aosVersion))
          else if stored.number > info.aosVersion then .pure (some "wrong Aos version")
          else prepareImage downloadDir id info

/-- `prepareComponent`, for the module `id`; `currentVendor` is
`handler.componentStatuses[updateInfo.ID].VendorVersion`. -/
def prepareComponent (downloadDir currentVendor id : String) (info : ComponentUpdateInfo) :
    Io (Option String) :=
  .call (.setVendorVersion info.id currentVendor) fun stored =>
    match stored.err with
    | some err => .pure (some err)
    | none =>
        .call (.module id .getVendorVersion) fun current =>
          if current.err = none ∧ info.vendorVersion ≠ "" ∧ current.value = info.vendorVersion
          then .pure (some ("Component already has required vendor version: " ++ current.value))
          else checkAosVersion downloadDir id info

/-- The operation of `onPrepareState` for the module `id`. -/
def prepareOperation (infos : List ComponentUpdateInfo) (currentVendor : String → String)
    (downloadDir id : String) : Io (Bool × Option String) :=
  match infoOf infos id with
  | none => .pure (false, some ("update info for " ++ id ++ " component not found"))
  | some info =>
      (prepareComponent downloadDir (currentVendor info.id) id info).map (fun err => (false, err))

/-- The operation of `onUpdateState` for the module `id`; `requested` is
`ComponentStatuses[id].VendorVersion`. -/
def updateOperation (requested id : String) : Io (Bool × Option String) :=
  .call (.module id .update) fun updated =>
    match updated.err with
    | some err => .pure (false, some err)
    | none =>
        if updated.rebootRequired then .pure (true, none)
        else
          .call (.module id .getVendorVersion) fun current =>
            match current.err with
            | some err => .pure (false, some err)
            | none =>
                if current.value = requested then .pure (false, none)
                else .pure (false, some ("versions mismatch in request " ++ requested ++
                  " and updated module " ++ current.value))

/-- The operation of `onApplyState` for the module `id`; `status` is
`ComponentStatuses[id]`. -/
def applyOperation (status : Option ComponentStatusInfo) (id : String) :
    Io (Bool × Option String) :=
  .call (.module id .apply) fun applied =>
    match applied.err with
    | some err => .pure (applied.rebootRequired, some err)
    | none =>
        match status with
        | none => .pure (applied.rebootRequired, some ("component " ++ id ++ " status not found"))
        | some status =>
            .call (.setAosVersion status.id status.aosVersion) fun written =>
              .pure (applied.rebootRequired, written.err)

/-- The operation of `onRevertState` for the module `id`. -/
def revertOperation (id : String) : Io (Bool × Option String) :=
  .call (.module id .revert) fun reverted => .pure (reverted.rebootRequired, reverted.err)

/-- The operation `doReboot` runs for the module `id`. -/
def rebootOperation (id : String) : Io (Bool × Option String) :=
  .call (.module id .reboot) fun rebooted => .pure (false, rebooted.err)

/-! ### What a successful closure has seen -/

theorem updateOperation_ok {requested id : String} {calls : List (ExtCall × Reply)}
    (runs : Io.Runs (updateOperation requested id) calls (.pure (false, none))) :
    ∃ updated current, calls = [(.module id .update, updated), (.module id .getVendorVersion, current)] ∧
      updated.err = none ∧ updated.rebootRequired = false ∧ current.err = none ∧
      current.value = requested := by
  rcases Io.Runs.of_call runs with ⟨_, stuck⟩ | ⟨updated, rest, rfl, next⟩
  · cases stuck
  · cases failed : updated.err with
    | some err =>
        rw [failed] at next
        obtain ⟨-, stuck⟩ := Io.Runs.of_pure next
        cases stuck
    | none =>
        simp only [failed] at next
        cases reboot : updated.rebootRequired with
        | true =>
            rw [reboot, if_pos rfl] at next
            obtain ⟨-, stuck⟩ := Io.Runs.of_pure next
            cases stuck
        | false =>
            rw [reboot, if_neg Bool.false_ne_true] at next
            rcases Io.Runs.of_call next with ⟨_, stuck⟩ | ⟨current, rest', rfl, last⟩
            · cases stuck
            · cases readFailed : current.err with
              | some err =>
                  rw [readFailed] at last
                  obtain ⟨-, stuck⟩ := Io.Runs.of_pure last
                  cases stuck
              | none =>
                  simp only [readFailed] at last
                  by_cases same : current.value = requested
                  · rw [if_pos same] at last
                    obtain ⟨rfl, -⟩ := Io.Runs.of_pure last
                    exact ⟨updated, current, rfl, failed, reboot, readFailed, same⟩
                  · rw [if_neg same] at last
                    obtain ⟨-, stuck⟩ := Io.Runs.of_pure last
                    cases stuck

/-! ### What the closures may ask for -/

/-- A call that neither applies an update nor writes an Aos version. -/
def Harmless (request : ExtCall) : Prop :=
  (∀ target, request ≠ .module target .apply) ∧ ∀ target version, request ≠ .setAosVersion target version

private theorem prepareImage_harmless (downloadDir id : String) (info : ComponentUpdateInfo) :
    (prepareImage downloadDir id info).Only Harmless := by
  refine ⟨by simp [Harmless], fun file => ?_⟩
  dsimp only
  split
  · trivial
  · refine ⟨by simp [Harmless], fun checked => ?_⟩
    dsimp only
    split
    · trivial
    · exact ⟨by simp [Harmless], fun _ => trivial⟩

private theorem checkAosVersion_harmless (downloadDir id : String) (info : ComponentUpdateInfo) :
    (checkAosVersion downloadDir id info).Only Harmless := by
  unfold checkAosVersion
  split
  · exact prepareImage_harmless ..
  · refine ⟨by simp [Harmless], fun stored => ?_⟩
    dsimp only
    split
    · exact prepareImage_harmless ..
    · split
      · trivial
      · split
        · trivial
        · exact prepareImage_harmless ..

theorem prepareOperation_harmless (infos : List ComponentUpdateInfo)
    (currentVendor : String → String) (downloadDir id : String) :
    (prepareOperation infos currentVendor downloadDir id).Only Harmless := by
  unfold prepareOperation
  split
  · trivial
  · refine Io.Only.map ⟨by simp [Harmless], fun stored => ?_⟩
    dsimp only
    split
    · trivial
    · refine ⟨by simp [Harmless], fun current => ?_⟩
      dsimp only
      split
      · trivial
      · exact checkAosVersion_harmless ..

theorem updateOperation_harmless (requested id : String) :
    (updateOperation requested id).Only Harmless := by
  refine ⟨by simp [Harmless], fun updated => ?_⟩
  dsimp only
  split
  · trivial
  · split
    · trivial
    · refine ⟨by simp [Harmless], fun current => ?_⟩
      dsimp only
      split
      · trivial
      · split <;> trivial

theorem revertOperation_harmless (id : String) : (revertOperation id).Only Harmless :=
  ⟨by simp [Harmless], fun _ => trivial⟩

theorem rebootOperation_harmless (id : String) : (rebootOperation id).Only Harmless :=
  ⟨by simp [Harmless], fun _ => trivial⟩

/-- The apply operation of `id` applies only the module `id`, and writes only the id and the
Aos version of the component's status. -/
def ApplyCalls (status : Option ComponentStatusInfo) (id : String) (request : ExtCall) : Prop :=
  (∀ target, request = .module target .apply → target = id) ∧
    ∀ target version, request = .setAosVersion target version →
      status.map (fun status => (status.id, status.aosVersion)) = some (target, version)

theorem applyOperation_calls (status : Option ComponentStatusInfo) (id : String) :
    (applyOperation status id).Only (ApplyCalls status id) := by
  refine ⟨by simp [ApplyCalls], fun applied => ?_⟩
  dsimp only
  split
  · trivial
  · split
    · trivial
    · rename_i status _
      exact ⟨by simp [ApplyCalls], fun _ => trivial⟩

/-! ### What a successful prepare closure has seen -/

theorem prepareOperation_ok {infos : List ComponentUpdateInfo} {currentVendor : String → String}
    {downloadDir id : String} {calls : List (ExtCall × Reply)}
    (runs : Io.Runs (prepareOperation infos currentVendor downloadDir id) calls (.pure (false, none))) :
    ∃ info, infoOf infos id = some info ∧
      (info.aosVersion ≠ 0 → ∃ stored, (.getAosVersion info.id, stored) ∈ calls ∧
        (stored.err ≠ none ∨ stored.number < info.aosVersion)) := by
  unfold prepareOperation at runs
  split at runs
  · obtain ⟨-, stuck⟩ := Io.Runs.of_pure runs
    cases stuck
  · rename_i info found
    refine ⟨info, found, fun nonzero => ?_⟩
    obtain ⟨err, same, prepared⟩ := Io.Runs.of_map_pure runs
    cases same
    rcases Io.Runs.of_call prepared with ⟨_, stuck⟩ | ⟨written, rest, rfl, afterWrite⟩
    · cases stuck
    split at afterWrite
    · obtain ⟨-, stuck⟩ := Io.Runs.of_pure afterWrite
      cases stuck
    rcases Io.Runs.of_call afterWrite with ⟨_, stuck⟩ | ⟨current, rest', rfl, afterRead⟩
    · cases stuck
    split at afterRead
    · obtain ⟨-, stuck⟩ := Io.Runs.of_pure afterRead
      cases stuck
    unfold checkAosVersion at afterRead
    rw [if_neg nonzero] at afterRead
    rcases Io.Runs.of_call afterRead with ⟨_, stuck⟩ | ⟨stored, rest'', rfl, checked⟩
    · cases stuck
    refine ⟨stored, by simp, ?_⟩
    split at checked
    · rename_i failed
      exact .inl (by simp [failed])
    · split at checked
      · obtain ⟨-, stuck⟩ := Io.Runs.of_pure checked
        cases stuck
      · split at checked
        · obtain ⟨-, stuck⟩ := Io.Runs.of_pure checked
          cases stuck
        · exact .inr (by omega)

end UpdateManager.Fsm
