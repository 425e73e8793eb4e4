import PlacedText.Proofs.Effect.Invariant

/-! # Computations that end alike

Two computations agree if, begun in related states, they come to the same end: both answer or both
fail with the same fault, in related states. Simulation excuses some faults and says nothing about
others; agreement holds of every end.
-/

namespace PlacedText.Effect

variable {ε σ τ β γ δ ζ : Type} {states : σ → τ → Prop} {answers : β → γ → Prop}

/-- Ends of one kind: related answers or the same fault, in related states. -/
inductive SameEnd (states : σ → τ → Prop) (answers : β → γ → Prop) :
    EStateM.Result ε σ β → EStateM.Result ε τ γ → Prop
  | ok {answer : β} {answer' : γ} {stop : σ} {stop' : τ} (held : states stop stop')
      (related : answers answer answer') : SameEnd states answers (.ok answer stop)
        (.ok answer' stop')
  | error {fault : ε} {stop : σ} {stop' : τ} (held : states stop stop') :
      SameEnd states answers (.error fault stop) (.error fault stop')

/-- Answers of one kind: related ones or the same fault. -/
inductive SameAnswer (answers : β → γ → Prop) : Except ε β → Except ε γ → Prop
  | ok {answer : β} {answer' : γ} (related : answers answer answer') :
      SameAnswer answers (.ok answer) (.ok answer')
  | error (fault : ε) : SameAnswer answers (.error fault) (.error fault)

theorem SameAnswer.of_eq {answer answer' : Except ε β} (same : answer = answer') :
    SameAnswer Eq answer answer' := by
  subst same
  cases answer with
  | ok answer => exact .ok rfl
  | error fault => exact .error fault

theorem rel_refl {answers : β → β → Prop} (refl : ∀ answer, answers answer answer)
    (answer? : Option β) : Option.Rel answers answer? answer? := by
  cases answer? with
  | some answer => exact .some (refl answer)
  | none => exact .none

section Options

variable {first? : Option β} {second? : Option γ} (related : Option.Rel answers first? second?)

include related

/-- What related options lead on to is related. -/
theorem rel_bind {onward : δ → ζ → Prop} {first : β → Option δ} {second : γ → Option ζ}
    (step : ∀ answer answer', answers answer answer' →
      Option.Rel onward (first answer) (second answer')) :
    Option.Rel onward (first? >>= first) (second? >>= second) := by
  cases related with
  | some related => exact step _ _ related
  | none => exact .none

/-- Related options lead on to the same if what is in them does. -/
theorem bind_eq_of_rel {first : β → Option δ} {second : γ → Option δ}
    (step : ∀ answer answer', answers answer answer' → first answer = second answer') :
    first? >>= first = second? >>= second := by
  cases related with
  | some related => exact step _ _ related
  | none => rfl

end Options

/-- Whether two computations end alike in related states. -/
def Agrees (states : σ → τ → Prop) (answers : β → γ → Prop) (first : EStateM ε σ β)
    (second : EStateM ε τ γ) : Prop :=
  ∀ start start', states start start' → SameEnd states answers (first start) (second start')

theorem agrees_pure {answer : β} {answer' : γ} (related : answers answer answer') :
    Agrees states answers (pure answer : EStateM ε σ β) (pure answer' : EStateM ε τ γ) :=
  fun _ _ held => .ok held related

theorem agrees_throw (fault : ε) :
    Agrees states answers (throw fault : EStateM ε σ β) (throw fault : EStateM ε τ γ) :=
  fun _ _ held => .error held

theorem agrees_modify {change : σ → σ} {change' : τ → τ}
    (kept : ∀ start start', states start start' → states (change start) (change' start')) :
    Agrees states (fun _ _ => True) (modify change : EStateM ε σ PUnit)
      (modify change' : EStateM ε τ PUnit) :=
  fun start start' held => .ok (kept start start' held) trivial

theorem agrees_get :
    Agrees states states (get : EStateM ε σ σ) (get : EStateM ε τ τ) :=
  fun _ _ held => .ok held held

/-- The states that computations end in are related. -/
theorem SameEnd.finalState {ended : EStateM.Result ε σ β} {ended' : EStateM.Result ε τ γ}
    (same : SameEnd states answers ended ended') :
    states (Effect.finalState ended) (Effect.finalState ended') := by
  cases same with
  | ok held => exact held
  | error held => exact held

/-- What is known of either of the states that computations end in may be kept. -/
theorem SameEnd.keeping {holds : σ → Prop} {holds' : τ → Prop} {ended : EStateM.Result ε σ β}
    {ended' : EStateM.Result ε τ γ} (same : SameEnd states answers ended ended')
    (held : holds (Effect.finalState ended)) (held' : holds' (Effect.finalState ended')) :
    SameEnd (fun stop stop' => states stop stop' ∧ holds stop ∧ holds' stop') answers ended
      ended' := by
  cases same with
  | ok related answered => exact .ok ⟨related, held, held'⟩ answered
  | error related => exact .error ⟨related, held, held'⟩

/-- What ends alike and goes on alike ends alike, also if the states are related otherwise by then.
-/
theorem SameEnd.bind {first : EStateM ε σ β} {second : EStateM ε τ γ}
    {next : β → EStateM ε σ δ} {next' : γ → EStateM ε τ ζ} {later : δ → ζ → Prop}
    {between : σ → τ → Prop} {start : σ} {start' : τ}
    (started : SameEnd between answers (first start) (second start'))
    (continued : ∀ answer answer' stop stop', between stop stop' → answers answer answer' →
      SameEnd states later (next answer stop) (next' answer' stop'))
    (failed : ∀ stop stop', between stop stop' → states stop stop') :
    SameEnd states later ((first >>= next) start) ((second >>= next') start') := by
  generalize here : first start = ended at started
  generalize there : second start' = ended' at started
  cases started with
  | ok held related =>
    rw [bind_of_ok here, bind_of_ok there]
    exact continued _ _ _ _ held related
  | error held =>
    rw [bind_of_error here, bind_of_error there]
    exact .error (failed _ _ held)

theorem Agrees.bind {first : EStateM ε σ β} {second : EStateM ε τ γ}
    {next : β → EStateM ε σ δ} {next' : γ → EStateM ε τ ζ} {later : δ → ζ → Prop}
    (started : Agrees states answers first second)
    (continued : ∀ answer answer', answers answer answer' →
      Agrees states later (next answer) (next' answer')) :
    Agrees states later (first >>= next) (second >>= next') :=
  fun start start' held => (started start start' held).bind
    (fun answer answer' stop stop' held related => continued answer answer' related stop stop' held)
    fun _ _ held => held

/-- Two loops over the same items agree if each of their steps does. -/
theorem Agrees.mapM {ι : Type} {step : ι → EStateM ε σ β} {step' : ι → EStateM ε τ γ}
    (stepped : ∀ item, Agrees states answers (step item) (step' item)) (items : List ι) :
    Agrees states (List.Forall₂ answers) (items.mapM step) (items.mapM step') := by
  induction items with
  | nil => exact agrees_pure .nil
  | cons item items ih =>
    rw [List.mapM_cons, List.mapM_cons]
    exact (stepped item).bind fun _ _ first => ih.bind fun _ _ rest =>
      agrees_pure (.cons first rest)

/-- The first computation may go on without the second, as long as it ends alike. -/
theorem Agrees.bind_left {first : EStateM ε σ β} {second : EStateM ε τ γ}
    {next : β → EStateM ε σ δ} {later : δ → γ → Prop}
    (started : Agrees states answers first second)
    (continued : ∀ answer answer', answers answer answer' →
      Agrees states later (next answer) (pure answer')) :
    Agrees states later (first >>= next) second := by
  have both := started.bind continued
  rwa [bind_pure] at both

/-- What a computation comes to, without the state that it ends in. -/
def outcome : EStateM.Result ε σ β → Except ε β
  | .ok answer _ => .ok answer
  | .error fault _ => .error fault

theorem SameEnd.outcome_eq {ended : EStateM.Result ε σ β} {ended' : EStateM.Result ε τ β}
    (same : SameEnd states Eq ended ended') : outcome ended = outcome ended' := by
  cases same with
  | ok _ related => exact congrArg Except.ok related
  | error => rfl

/-- What is the same of answers is the same of what computations come to. -/
theorem SameEnd.map_outcome {view : β → δ} {view' : γ → δ} {ended : EStateM.Result ε σ β}
    {ended' : EStateM.Result ε τ γ}
    (same : SameEnd states (fun answer answer' => view answer = view' answer') ended ended') :
    (outcome ended).map view = (outcome ended').map view' := by
  cases same with
  | ok _ related => exact congrArg Except.ok related
  | error => rfl

end PlacedText.Effect
