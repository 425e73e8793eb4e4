import PlacedText.Proofs.Effect.Invariant

/-! # Computations that run alongside each other

A computation simulates another one if, begun in a related state, it follows it to its answer: it
ends in a related state with a related answer, or in a fault that is excused. Nothing is said about
what follows a fault of the other one.
-/

namespace PlacedText.Effect

variable {ε σ τ β γ δ ζ : Type} {excused : ε → Prop} {states : σ → τ → Prop}
  {answers : β → γ → Prop}

/-- Whether the second computation leads from related states to related states and answers wherever
the first one answers, unless it ends in a fault that is excused. -/
def Simulates (excused : ε → Prop) (states : σ → τ → Prop) (answers : β → γ → Prop)
    (first : EStateM ε σ β) (second : EStateM ε τ γ) : Prop :=
  ∀ start start', states start start' → ∀ answer stop, first start = .ok answer stop →
    (∃ answer' stop', second start' = .ok answer' stop' ∧ states stop stop' ∧
      answers answer answer') ∨
    ∃ fault stop', second start' = .error fault stop' ∧ excused fault

theorem simulates_pure {answer : β} {answer' : γ} (related : answers answer answer') :
    Simulates excused states answers (pure answer : EStateM ε σ β)
      (pure answer' : EStateM ε τ γ) := by
  intro start start' held _ _ ended
  cases ended
  exact .inl ⟨answer', start', rfl, held, related⟩

theorem simulates_throw {fault : ε} {second : EStateM ε τ γ} :
    Simulates excused states answers (throw fault : EStateM ε σ β) second := by
  intro _ _ _ _ _ ended
  cases ended

/-- A fault that is excused follows anything. -/
theorem simulates_excused {first : EStateM ε σ β} {fault : ε} (excuse : excused fault) :
    Simulates excused states answers first (throw fault : EStateM ε τ γ) :=
  fun _ start' _ _ _ _ => .inr ⟨fault, start', rfl, excuse⟩

theorem simulates_modify {change : σ → σ} {change' : τ → τ}
    (kept : ∀ start start', states start start' → states (change start) (change' start')) :
    Simulates excused states (fun _ _ => True) (modify change : EStateM ε σ PUnit)
      (modify change' : EStateM ε τ PUnit) := by
  intro start start' held _ _ ended
  cases ended
  exact .inl ⟨⟨⟩, change' start', rfl, kept start start' held, trivial⟩

theorem simulates_get :
    Simulates excused states states (get : EStateM ε σ σ) (get : EStateM ε τ τ) := by
  intro start start' held _ _ ended
  cases ended
  exact .inl ⟨start', start', rfl, held, held⟩

/-- Simulations compose: where the second computation ends its first half in an excused fault, it
does so as a whole, and else the halves behind start from related answers in related states. -/
theorem Simulates.bind {first : EStateM ε σ β} {second : EStateM ε τ γ}
    {next : β → EStateM ε σ δ} {next' : γ → EStateM ε τ ζ} {later : δ → ζ → Prop}
    (started : Simulates excused states answers first second)
    (continued : ∀ answer answer', answers answer answer' →
      Simulates excused states later (next answer) (next' answer')) :
    Simulates excused states later (first >>= next) (second >>= next') := by
  intro start start' held _ _ ended
  obtain ⟨answer, between, here, rest⟩ := bind_eq_ok ended
  rcases started _ _ held _ _ here with
    ⟨answer', between', there, related, agreed⟩ | ⟨fault, stop', failed, excuse⟩
  · rw [bind_of_ok there]
    exact continued answer answer' agreed _ _ related _ _ rest
  · rw [bind_of_error failed]
    exact .inr ⟨fault, stop', rfl, excuse⟩

/-- Computations that both answer end in related states with related answers. -/
theorem Simulates.ok {first : EStateM ε σ β} {second : EStateM ε τ γ}
    (related : Simulates excused states answers first second) {start stop : σ} {start' stop' : τ}
    {answer : β} {answer' : γ} (held : states start start') (ended : first start = .ok answer stop)
    (ended' : second start' = .ok answer' stop') :
    states stop stop' ∧ answers answer answer' := by
  rcases related _ _ held _ _ ended with ⟨_, _, there, result⟩ | ⟨_, _, failed, _⟩
  · rw [ended'] at there
    cases there
    exact result
  · rw [ended'] at failed
    cases failed

/-- Two loops over the same items simulate each other if each of their steps does. -/
theorem Simulates.foldlM {ι : Type} {step : β → ι → EStateM ε σ β} {step' : γ → ι → EStateM ε τ γ}
    (stepped : ∀ value value' item, answers value value' →
      Simulates excused states answers (step value item) (step' value' item))
    {value : β} {value' : γ} (related : answers value value') (items : List ι) :
    Simulates excused states answers (items.foldlM step value) (items.foldlM step' value') := by
  induction items generalizing value value' with
  | nil => exact simulates_pure related
  | cons item items ih =>
    rw [List.foldlM_cons, List.foldlM_cons]
    exact (stepped value value' item related).bind fun _ _ agreed => ih agreed

end PlacedText.Effect
