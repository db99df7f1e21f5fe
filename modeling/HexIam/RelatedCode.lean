import Mathlib.Init

/-!
# Related stateful code

Two computations that may fail are related when they turn related states into
related states, with related results or the same failure.  The rules follow
the constructs of the code.
-/

namespace RelatedCode

universe u

variable {ε σ τ α β α' β' : Type u}

/-- Both succeed with related results or both fail alike, in related states. -/
def Outcomes (states : σ → τ → Prop) (values : α → β → Prop) :
    EStateM.Result ε σ α → EStateM.Result ε τ β → Prop
  | .ok a s, .ok b t => values a b ∧ states s t
  | .error e s, .error e' t => e = e' ∧ states s t
  | .ok _ _, .error _ _ => False
  | .error _ _, .ok _ _ => False

def Related (states : σ → τ → Prop) (values : α → β → Prop)
    (first : EStateM ε σ α) (second : EStateM ε τ β) : Prop :=
  ∀ s t, states s t → Outcomes states values (first s) (second t)

variable {states : σ → τ → Prop} {values weaker : α → β → Prop}
  {values' : α' → β' → Prop}

theorem Related.mono {first : EStateM ε σ α} {second : EStateM ε τ β}
    (related : Related states values first second)
    (implies : ∀ a b, values a b → weaker a b) :
    Related states weaker first second := by
  intro s t start
  have here := related s t start
  match first s, second t, here with
  | .ok a _, .ok b _, ⟨same, after⟩ => exact ⟨implies a b same, after⟩
  | .error _ _, .error _ _, same => exact same

theorem related_pure {a : α} {b : β} (same : values a b) :
    Related states values (pure a : EStateM ε σ α) (pure b : EStateM ε τ β) :=
  fun _ _ start => ⟨same, start⟩

theorem related_throw (e : ε) :
    Related states values (throw e : EStateM ε σ α) (throw e : EStateM ε τ β) :=
  fun _ _ start => ⟨rfl, start⟩

theorem related_bind {first : EStateM ε σ α} {second : EStateM ε τ β}
    {next : α → EStateM ε σ α'} {next' : β → EStateM ε τ β'}
    (related : Related states values first second)
    (rest : ∀ a b, values a b → Related states values' (next a) (next' b)) :
    Related states values' (first >>= next) (second >>= next') := by
  intro s t start
  have here := related s t start
  change Outcomes states values' (EStateM.bind first next s)
    (EStateM.bind second next' t)
  unfold EStateM.bind
  match first s, second t, here with
  | .ok a s', .ok b t', ⟨same, after⟩ => exact rest a b same s' t' after
  | .error _ _, .error _ _, same => exact same

/-- The first code goes on alone with what is related to a value. -/
theorem related_bind_left {first : EStateM ε σ α} {b : β}
    {next : α → EStateM ε σ α'} {second : EStateM ε τ β'}
    (related : Related states values first (pure b))
    (rest : ∀ a, values a b → Related states values' (next a) second) :
    Related states values' (first >>= next) second := by
  intro s t start
  have here := related s t start
  change Outcomes states values' (EStateM.bind first next s) (second t)
  unfold EStateM.bind
  match first s, here with
  | .ok a s', ⟨same, after⟩ => exact rest a same s' t after

theorem related_get :
    Related states states (get : EStateM ε σ σ) (get : EStateM ε τ τ) :=
  fun _ _ start => ⟨start, start⟩

theorem related_modify {change : σ → σ} {change' : τ → τ}
    (keeps : ∀ s t, states s t → states (change s) (change' t)) :
    Related states (fun _ _ => True) (modify change : EStateM ε σ PUnit)
      (modify change' : EStateM ε τ PUnit) :=
  fun s t start => ⟨trivial, keeps s t start⟩

/-! ## The state code leaves -/

/-- The state after the code, whether it fails or not. -/
def after (code : EStateM ε σ α) (state : σ) : σ :=
  match code state with
  | .ok _ state => state
  | .error _ state => state

theorem after_of_ok {code : EStateM ε σ α} {s s' : σ} {a : α}
    (ran : code s = .ok a s') : after code s = s' := by
  rw [after, ran]

theorem after_of_error {code : EStateM ε σ α} {s s' : σ} {e : ε}
    (ran : code s = .error e s') : after code s = s' := by
  rw [after, ran]

theorem run_bind_of_ok {code : EStateM ε σ α} {next : α → EStateM ε σ β}
    {s s' : σ} {a : α} (ran : code s = .ok a s') :
    (code >>= next) s = next a s' := by
  change EStateM.bind code next s = _
  rw [EStateM.bind, ran]

theorem run_bind_of_error {code : EStateM ε σ α} {next : α → EStateM ε σ β}
    {s s' : σ} {e : ε} (ran : code s = .error e s') :
    (code >>= next) s = .error e s' := by
  change EStateM.bind code next s = _
  rw [EStateM.bind, ran]

theorem after_bind_of_ok {code : EStateM ε σ α} {next : α → EStateM ε σ β}
    {s s' : σ} {a : α} (ran : code s = .ok a s') :
    after (code >>= next) s = after (next a) s' := by
  rw [after, run_bind_of_ok ran, after]

theorem after_bind_of_error {code : EStateM ε σ α} {next : α → EStateM ε σ β}
    {s s' : σ} {e : ε} (ran : code s = .error e s') :
    after (code >>= next) s = s' := by
  change (match EStateM.bind code next s with
    | .ok _ state => state
    | .error _ state => state) = _
  rw [EStateM.bind, ran]

/-- What is returned does not change the state. -/
theorem after_bind_pure {code : EStateM ε σ α} (result : α → β) (s : σ) :
    after (code >>= fun a => (pure (result a) : EStateM ε σ β)) s =
      after code s := by
  cases ran : code s with
  | ok a s' => rw [after_bind_of_ok ran, after_of_ok ran]; rfl
  | error e s' => rw [after_bind_of_error ran, after_of_error ran]

theorem Related.after {first : EStateM ε σ α} {second : EStateM ε τ β}
    (related : Related states values first second) {s : σ} {t : τ}
    (start : states s t) : states (after first s) (after second t) := by
  have here := related s t start
  unfold RelatedCode.after
  match first s, second t, here with
  | .ok _ _, .ok _ _, ⟨_, later⟩ => exact later
  | .error _ _, .error _ _, ⟨_, later⟩ => exact later

/-- What relates each state to itself is kept. -/
theorem Related.keeps {kept : σ → Prop} {code : EStateM ε σ α}
    {same : α → α → Prop}
    (related : Related (fun s t => s = t ∧ kept s) same code code) {s : σ}
    (start : kept s) : kept (RelatedCode.after code s) :=
  (related.after ⟨rfl, start⟩).2

end RelatedCode
