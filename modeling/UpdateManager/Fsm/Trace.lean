import UpdateManager.Fsm.Steps

/-!
# Reading a trace

What the theorems read off the labels of a run: the labels since the last event or restart
(`since`), the state last stored (`savedState`), the calls of one component (`callsOf`), and
the cut of a reachable trace at a label (`Reach.split`).
-/

namespace UpdateManager.Fsm

namespace Label

def isBoundary : Label → Bool
  | .accept .. => true
  | .restart _ => true
  | _ => false

/-- An accepted `PrepareUpdate`. -/
def isPrepare : Label → Bool
  | .accept (.prepare _) _ => true
  | _ => false

/-- A `saveState` whose write succeeded. -/
def isSaved : Label → Bool
  | .save _ none => true
  | _ => false

/-- The stored handler state after the label, when it was `stored` before. -/
def stored (label : Label) (stored : Option HandlerState) : Option HandlerState :=
  match label with
  | .save state none => some state
  | _ => stored

def launched : Label → Option String
  | .launch id => some id
  | _ => none

def finished : Label → Option String
  | .finish id _ => some id
  | _ => none

def callOf (id : String) : Label → Option (ExtCall × Reply)
  | .call other request reply => if other = id then some (request, reply) else none
  | _ => none

end Label

/-- Labels of one transition that neither a new event nor a crash interrupted. -/
def Quiet (log : List Label) : Prop := ∀ label ∈ log, label.isBoundary = false

/-- Labels with no accepted prepare and no stored state. -/
def Calm (log : List Label) : Prop :=
  ∀ label ∈ log, label.isPrepare = false ∧ label.isSaved = false

/-- The labels since the last accepted event or restart. -/
def since (trace : List Label) : List Label :=
  trace.foldl (fun log label => if label.isBoundary then [] else log ++ [label]) []

/-- The labels since the last accepted `PrepareUpdate`. -/
def sincePrepare (trace : List Label) : List Label :=
  trace.foldl (fun log label => if label.isPrepare then [] else log ++ [label]) []

/-- The state stored after the trace, when `initial` was stored before it. -/
def savedState (initial : Option HandlerState) (trace : List Label) : Option HandlerState :=
  trace.foldl (fun stored label => label.stored stored) initial

/-- The calls the goroutines of the component `id` made, with their replies. -/
def callsOf (id : String) (trace : List Label) : List (ExtCall × Reply) :=
  trace.filterMap (Label.callOf id)

def launches (trace : List Label) : List String := trace.filterMap Label.launched

def finishes (trace : List Label) : List String := trace.filterMap Label.finished

/-- The goroutines a stage waits for. -/
def Stage.running : Stage → List Thread
  | .loop state => state.sched.running
  | _ => []

theorem Label.isPrepare_of_inner {label : Label} (inner : label.isBoundary = false) :
    label.isPrepare = false := by
  cases label <;> simp_all [Label.isBoundary, Label.isPrepare]

/-! ### How the readings grow -/

section Growth

variable (trace : List Label) (label : Label)

@[simp] theorem since_nil : since [] = [] := rfl

theorem since_snoc :
    since (trace ++ [label]) = if label.isBoundary then [] else since trace ++ [label] := by
  simp [since, List.foldl_append]

theorem sincePrepare_snoc :
    sincePrepare (trace ++ [label]) =
      if label.isPrepare then [] else sincePrepare trace ++ [label] := by
  simp [sincePrepare, List.foldl_append]

theorem sincePrepare_append {log : List Label} (calm : ∀ label ∈ log, label.isPrepare = false) :
    sincePrepare (trace ++ log) = sincePrepare trace ++ log := by
  induction log generalizing trace with
  | nil => simp
  | cons label log ih =>
      rw [← List.singleton_append, ← List.append_assoc,
        ih _ fun other member => calm other (List.mem_cons_of_mem _ member), sincePrepare_snoc,
        if_neg (by simp [calm label (List.mem_cons_self _ _)])]
      simp

@[simp] theorem savedState_snoc (initial : Option HandlerState) :
    savedState initial (trace ++ [label]) = label.stored (savedState initial trace) := by
  simp [savedState, List.foldl_append]

@[simp] theorem callsOf_snoc (id : String) :
    callsOf id (trace ++ [label]) = callsOf id trace ++ (label.callOf id).toList := by
  cases h : label.callOf id <;> simp [callsOf, List.filterMap_append, h]

@[simp] theorem Label.callOf_eq_some {id : String} {call : ExtCall × Reply} :
    label.callOf id = some call ↔ label = .call id call.1 call.2 := by
  cases label with
  | call other request reply =>
      obtain ⟨request', reply'⟩ := call
      by_cases same : other = id
      · simp [Label.callOf, same, eq_comm]
      · simp [Label.callOf, same, Ne.symm same]
  | _ => simp [Label.callOf]

@[simp] theorem launches_snoc :
    launches (trace ++ [label]) = launches trace ++ label.launched.toList := by
  cases h : label.launched <;> simp [launches, List.filterMap_append, h]

@[simp] theorem finishes_snoc :
    finishes (trace ++ [label]) = finishes trace ++ label.finished.toList := by
  cases h : label.finished <;> simp [finishes, List.filterMap_append, h]

end Growth

theorem since_quiet (trace : List Label) : Quiet (since trace) := by
  induction trace using List.reverseRecOn with
  | nil => intro label member; cases member
  | append_singleton trace label ih =>
      rw [since_snoc]
      split
      · intro other member; cases member
      · rename_i inner
        intro other member
        rcases List.mem_append.mp member with old | new
        · exact ih other old
        · rw [List.mem_singleton.mp new]
          simpa using inner

theorem since_split (trace : List Label) (pre : List Label) (boundary : Label)
    (log : List Label) (split : trace = pre ++ boundary :: log) (opens : boundary.isBoundary)
    (quiet : Quiet log) : since trace = log := by
  subst split
  induction log using List.reverseRecOn with
  | nil => simp [← List.append_assoc, since_snoc, opens]
  | append_singleton log label ih =>
      have inner : label.isBoundary = false := quiet label (by simp)
      have rest : Quiet log := fun other member => quiet other (by simp [member])
      rw [show pre ++ boundary :: (log ++ [label]) = (pre ++ boundary :: log) ++ [label] by simp,
        since_snoc, if_neg (by simp [inner]), ih rest]

theorem savedState_quiet_calm (initial : Option HandlerState) (trace log : List Label)
    (calm : ∀ label ∈ log, label.isSaved = false) :
    savedState initial (trace ++ log) = savedState initial trace := by
  induction log using List.reverseRecOn with
  | nil => simp
  | append_singleton log label ih =>
      rw [← List.append_assoc, savedState_snoc, ih (fun other member => calm other (by simp [member]))]
      have unsaved : label.isSaved = false := calm label (by simp)
      unfold Label.stored
      split
      · simp [Label.isSaved] at unsaved
      · rfl

theorem savedState_eq_some (trace : List Label) (saved : HandlerState)
    (h : savedState none trace = some saved) :
    ∃ pre post, trace = pre ++ .save saved none :: post ∧ ∀ label ∈ post, label.isSaved = false := by
  induction trace using List.reverseRecOn with
  | nil => cases h
  | append_singleton trace label ih =>
      rw [savedState_snoc] at h
      unfold Label.stored at h
      split at h
      · cases h
        exact ⟨trace, [], by simp, by simp⟩
      · rename_i notSaved
        obtain ⟨pre, post, rfl, calm⟩ := ih h
        refine ⟨pre, post ++ [label], by simp, ?_⟩
        intro other member
        rcases List.mem_append.mp member with old | new
        · exact calm other old
        · rw [List.mem_singleton.mp new]
          unfold Label.isSaved
          split
          · rename_i state
            exact absurd rfl (notSaved state)
          · rfl

/-! ### The goroutine list -/

open List in
theorem perm_cons_eraseIdx {α : Type} {items : List α} {index : Nat} {item : α}
    (at_index : items[index]? = some item) : List.Perm items (item :: items.eraseIdx index) := by
  obtain ⟨inside, rfl⟩ := List.getElem?_eq_some_iff.mp at_index
  calc items = items.take index ++ items.drop index := (List.take_append_drop index items).symm
    _ = items.take index ++ items[index] :: items.drop (index + 1) := by
        rw [List.drop_eq_getElem_cons inside]
    _ ~ items[index] :: (items.take index ++ items.drop (index + 1)) := List.perm_middle
    _ = items[index] :: items.eraseIdx index := by rw [List.eraseIdx_eq_take_drop_succ]

theorem map_set_of_getElem? {α β : Type} (f : α → β) :
    ∀ (items : List α) (index : Nat) {old new : α}, items[index]? = some old → f new = f old →
      (items.set index new).map f = items.map f
  | [], _, _, _, at_index, _ => by simp at at_index
  | _ :: _, 0, _, _, at_index, same => by
      simp only [List.getElem?_cons_zero, Option.some.injEq] at at_index
      simp [at_index, same]
  | _ :: items, index + 1, _, _, at_index, same => by
      simp only [List.getElem?_cons_succ] at at_index
      simp [map_set_of_getElem? f items index at_index same]

theorem ids_set {running : List Thread} {index : Nat} {id : String}
    {old : Io (Bool × Option String)} (at_index : running[index]? = some ⟨id, old⟩)
    (new : Io (Bool × Option String)) :
    (running.set index ⟨id, new⟩).map Thread.id = running.map Thread.id :=
  map_set_of_getElem? Thread.id running index at_index rfl

/-! ### Positions of a reachable trace -/

theorem split_snoc {α : Type} {trace before after : List α} {x last : α}
    (h : trace ++ [last] = before ++ x :: after) :
    (after = [] ∧ x = last ∧ before = trace) ∨
      ∃ after', after = after' ++ [last] ∧ trace = before ++ x :: after' := by
  rcases List.eq_nil_or_concat after with rfl | ⟨after', final, rfl⟩
  · obtain ⟨same, ends⟩ := List.append_inj' h rfl
    simp only [List.cons.injEq, and_true] at ends
    exact .inl ⟨rfl, ends.symm, same.symm⟩
  · rw [List.concat_eq_append] at h ⊢
    rw [show before ++ x :: (after' ++ [final]) = (before ++ x :: after') ++ [final] by simp] at h
    obtain ⟨same, ends⟩ := List.append_inj' h rfl
    simp only [List.cons.injEq, and_true] at ends
    exact .inr ⟨after', by rw [ends], same⟩

variable {M : ModuleModel}

theorem Reach.split {setup : Setup} {start cfg : Config M} {trace : List Label}
    (reach : Reach setup start cfg trace) {before after : List Label} {label : Label}
    (cut : trace = before ++ label :: after) :
    ∃ cfg' choice next, Reach setup start cfg' before ∧
      Fsm.step setup cfg' choice = some (label, next) ∧ Reach setup next cfg after := by
  induction reach generalizing after with
  | start => simp at cut
  | step choice reach stepped ih =>
      rcases split_snoc cut with ⟨rfl, rfl, rfl⟩ | ⟨after', rfl, inner⟩
      · exact ⟨_, choice, _, reach, stepped, .start⟩
      · obtain ⟨cfg', choice', next, upTo, shown, rest⟩ := ih inner
        exact ⟨cfg', choice', next, upTo, shown, rest.step choice stepped⟩

theorem Reach.prefix {setup : Setup} {start cfg : Config M} {trace : List Label}
    (reach : Reach setup start cfg trace) {before after : List Label} {label : Label}
    (split : trace = before ++ label :: after) :
    ∃ cfg' choice next, Reach setup start cfg' before ∧ Fsm.step setup cfg' choice = some (label, next) :=
  let ⟨cfg', choice, next, upTo, shown, _⟩ := reach.split split
  ⟨cfg', choice, next, upTo, shown⟩

end UpdateManager.Fsm
