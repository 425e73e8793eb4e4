import Mathlib.Data.List.Forall2

/-! # Invariants of computations

A computation with a state may end with an answer or in a fault. It keeps a property of the state if
the property holds at its end, of either kind, whenever it held at its beginning.
-/

namespace PlacedText.Effect

variable {ε σ β γ : Type}

/-! ## Answers without a state -/

/-- An answer that something is made of fails where it fails itself. -/
theorem map_eq_error_iff {f : β → γ} {result : Except ε β} {fault : ε} :
    result.map f = .error fault ↔ result = .error fault := by
  cases result <;> simp [Except.map]

theorem map_eq_ok_iff {f : β → γ} {result : Except ε β} {value : γ} :
    result.map f = .ok value ↔ ∃ found, result = .ok found ∧ f found = value := by
  cases result <;> simp [Except.map]

/-! ## Computations in sequence -/

/-- The state that a computation ends in. -/
def finalState : EStateM.Result ε σ β → σ
  | .ok _ state => state
  | .error _ state => state

theorem bind_of_ok {action : EStateM ε σ β} {next : β → EStateM ε σ γ} {before after : σ}
    {answer : β} (ended : action before = .ok answer after) :
    (action >>= next) before = next answer after := by
  change EStateM.bind action next before = _
  unfold EStateM.bind
  rw [ended]

theorem bind_of_error {action : EStateM ε σ β} {next : β → EStateM ε σ γ} {before after : σ}
    {fault : ε} (failed : action before = .error fault after) :
    (action >>= next) before = .error fault after := by
  change EStateM.bind action next before = _
  unfold EStateM.bind
  rw [failed]

theorem get_bind {next : σ → EStateM ε σ β} {before : σ} :
    ((get : EStateM ε σ σ) >>= next) before = next before before := rfl

theorem set_bind {next : PUnit → EStateM ε σ β} {before after : σ} :
    ((set after : EStateM ε σ PUnit) >>= next) before = next ⟨⟩ after := rfl

/-- A sequence ends with an answer when its two parts do. -/
theorem bind_eq_ok {action : EStateM ε σ β} {next : β → EStateM ε σ γ} {before after : σ}
    {answer : γ} (ended : (action >>= next) before = .ok answer after) :
    ∃ first between, action before = .ok first between ∧ next first between = .ok answer after := by
  change EStateM.bind action next before = _ at ended
  unfold EStateM.bind at ended
  cases started : action before with
  | ok first between =>
    rw [started] at ended
    exact ⟨first, between, rfl, ended⟩
  | error fault between =>
    rw [started] at ended
    cases ended

/-- Making something of the answer does not change the state. -/
theorem finalState_bind_pure {action : EStateM ε σ β} (answer : β → γ) (before : σ) :
    finalState ((action >>= fun value => pure (answer value)) before) =
      finalState (action before) := by
  cases ended : action before with
  | ok value after => rw [bind_of_ok ended]; rfl
  | error fault after => rw [bind_of_error ended]; rfl

/-! ## What is kept -/

/-- A computation that leaves a property of the state true. -/
def Keeps (holds : σ → Prop) (action : EStateM ε σ β) : Prop :=
  ∀ state, holds state → holds (finalState (action state))

variable {holds : σ → Prop}

theorem keeps_pure (answer : β) : Keeps holds (pure answer : EStateM ε σ β) :=
  fun _ held => held

theorem keeps_throw (fault : ε) : Keeps holds (throw fault : EStateM ε σ β) :=
  fun _ held => held

theorem keeps_get : Keeps holds (get : EStateM ε σ σ) :=
  fun _ held => held

theorem keeps_modify {change : σ → σ} (kept : ∀ state, holds state → holds (change state)) :
    Keeps holds (modify change : EStateM ε σ PUnit) :=
  fun state held => kept state held

/-- What keeps a property that holds where a computation ends may follow it. -/
theorem Keeps.after {action : EStateM ε σ β} {next : β → EStateM ε σ γ} {before : σ}
    (second : ∀ answer, Keeps holds (next answer)) (between : holds (finalState (action before))) :
    holds (finalState ((action >>= next) before)) := by
  change holds (finalState (EStateM.bind action next before))
  unfold EStateM.bind
  cases started : action before with
  | ok answer state =>
    rw [started] at between
    exact second answer state between
  | error fault state =>
    rw [started] at between
    exact between

theorem Keeps.bind {action : EStateM ε σ β} {next : β → EStateM ε σ γ}
    (first : Keeps holds action) (second : ∀ answer, Keeps holds (next answer)) :
    Keeps holds (action >>= next) :=
  fun state held => Keeps.after second (first state held)

/-- A fold of steps that each keep the states keeps them, whatever value it carries along. -/
theorem Keeps.foldlM {step : β → γ → EStateM ε σ β}
    (kept : ∀ value item, Keeps holds (step value item))
    (value : β) (items : List γ) : Keeps holds (items.foldlM step value) := by
  induction items generalizing value with
  | nil => exact keeps_pure value
  | cons item items ih =>
    rw [List.foldlM_cons]
    exact (kept value item).bind fun value => ih value

/-- Where the step for each item keeps the states, the steps for all items of a list do so. -/
theorem Keeps.mapM {step : γ → EStateM ε σ β} (kept : ∀ item, Keeps holds (step item))
    (items : List γ) : Keeps holds (items.mapM step) := by
  induction items with
  | nil => exact keeps_pure []
  | cons item items ih =>
    rw [List.mapM_cons]
    exact (kept item).bind fun answer => ih.bind fun answers => keeps_pure (answer :: answers)

/-- What a computation keeps holds in the state that it answers in. -/
theorem Keeps.ok {action : EStateM ε σ β} (kept : Keeps holds action) {before after : σ}
    {answer : β} (held : holds before) (ended : action before = .ok answer after) :
    holds after := by
  have final := kept before held
  rw [ended] at final
  exact final

/-- What a computation keeps holds in the state that it fails in. -/
theorem Keeps.error {action : EStateM ε σ β} (kept : Keeps holds action) {before after : σ}
    {fault : ε} (held : holds before) (ended : action before = .error fault after) :
    holds after := by
  have final := kept before held
  rw [ended] at final
  exact final

/-- What each step of a loop answers about its item, the loop answers about all of them. -/
theorem Keeps.mapM_eq_ok {step : γ → EStateM ε σ β} (kept : ∀ item, Keeps holds (step item))
    {about : γ → β → Prop}
    (stepped : ∀ item before answer after, holds before → step item before = .ok answer after →
      about item answer)
    {items : List γ} {answers : List β} {before after : σ} (held : holds before)
    (ended : items.mapM step before = .ok answers after) : List.Forall₂ about items answers := by
  induction items generalizing answers before with
  | nil =>
    cases ended
    exact .nil
  | cons item items ih =>
    rw [List.mapM_cons] at ended
    obtain ⟨answer, between, first, rest⟩ := bind_eq_ok ended
    obtain ⟨answers, last, others, rest⟩ := bind_eq_ok rest
    cases rest
    have here := stepped item before answer between held first
    exact .cons here (ih ((kept item).ok held first) others)

/-! ## Computations that succeed -/

/-- A computation that answers wherever a property of the state holds, and leaves it true. -/
def Succeeds (holds : σ → Prop) (action : EStateM ε σ β) : Prop :=
  ∀ state, holds state → ∃ answer after, action state = .ok answer after ∧ holds after

theorem succeeds_pure (answer : β) : Succeeds holds (pure answer : EStateM ε σ β) :=
  fun state held => ⟨answer, state, rfl, held⟩

theorem Succeeds.bind {action : EStateM ε σ β} {next : β → EStateM ε σ γ}
    (first : Succeeds holds action) (second : ∀ answer, Succeeds holds (next answer)) :
    Succeeds holds (action >>= next) := by
  intro state held
  obtain ⟨answer, between, started, kept⟩ := first state held
  rw [bind_of_ok started]
  exact second answer between kept

/-- Where the step for each item comes to an answer and keeps the states, all items of a list get
theirs. -/
theorem Succeeds.mapM {step : γ → EStateM ε σ β} (stepped : ∀ item, Succeeds holds (step item))
    (items : List γ) : Succeeds holds (items.mapM step) := by
  induction items with
  | nil => exact succeeds_pure []
  | cons item items ih =>
    rw [List.mapM_cons]
    exact (stepped item).bind fun answer => ih.bind fun answers => succeeds_pure (answer :: answers)

end PlacedText.Effect
