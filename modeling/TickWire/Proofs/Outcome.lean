/-!
# Results of steps

How a sequence of steps runs, one step after the other: what a step gives is passed on,
and the first error is the result of all.  A step that fails keeps what it did, so what
steps do is said by rules that hold however they end, and that pass from steps to their
sequence.
-/

namespace TickWire

section Except

variable {ε α β : Type}

@[simp] theorem ok_bind (value : α) (next : α → Except ε β) :
    (Except.ok value >>= next) = next value := rfl

@[simp] theorem error_bind (error : ε) (next : α → Except ε β) :
    (Except.error error >>= next) = Except.error error := rfl

@[simp] theorem map_ok (change : α → β) (value : α) :
    (Except.ok value : Except ε α).map change = .ok (change value) := rfl

@[simp] theorem map_error (change : α → β) (error : ε) :
    (Except.error error : Except ε α).map change = .error error := rfl

@[simp] theorem fmap_ok (change : α → β) (value : α) :
    (change <$> Except.ok value : Except ε β) = .ok (change value) := rfl

@[simp] theorem fmap_error (change : α → β) (error : ε) :
    (change <$> Except.error error : Except ε β) = .error error := rfl

theorem mapError_eq_ok_iff {ε' : Type} {change : ε → ε'} {result : Except ε α} {value : α} :
    result.mapError change = .ok value ↔ result = .ok value := by
  cases result with
  | error error => constructor <;> intro same <;> cases same
  | ok found => constructor <;> intro same <;> cases same <;> rfl

/-- A sequence that gives something ran both of its steps. -/
theorem ok_of_bind {first : Except ε α} {next : α → Except ε β} {result : β}
    (ran : (first >>= next) = .ok result) :
    ∃ value, first = .ok value ∧ next value = .ok result := by
  cases first with
  | error error => cases ran
  | ok value => exact ⟨value, rfl, ran⟩

end Except

section Step

variable {ε σ α β : Type}

theorem bind_of_ok {step : ExceptT ε (StateM σ) α} {next : α → ExceptT ε (StateM σ) β}
    {before after : σ} {value : α} (ran : step before = (.ok value, after)) :
    (step >>= next) before = next value after := by
  simp only [bind, ExceptT.bind, ExceptT.mk, StateT.bind, ran]
  rfl

theorem bind_of_error {step : ExceptT ε (StateM σ) α}
    {next : α → ExceptT ε (StateM σ) β} {before after : σ} {error : ε}
    (ran : step before = (.error error, after)) :
    (step >>= next) before = (.error error, after) := by
  simp only [bind, ExceptT.bind, ExceptT.mk, StateT.bind, ran]
  rfl

/-- What follows a condition that is met. -/
theorem bind_of_true {step : ExceptT ε (StateM σ) Bool} {otherwise : β}
    {next : ExceptT ε (StateM σ) β} {before after : σ} (ran : step before = (.ok true, after)) :
    (do if !(← step) then return otherwise
        next : ExceptT ε (StateM σ) β) before = next after := by
  rw [bind_of_ok ran]
  rfl

/-- A sequence of steps that gives something ran both of them. -/
theorem ok_of_bind_run {step : ExceptT ε (StateM σ) α} {next : α → ExceptT ε (StateM σ) β}
    {before after : σ} {result : β} (ran : (step >>= next) before = (.ok result, after)) :
    ∃ value middle,
      step before = (.ok value, middle) ∧ next value middle = (.ok result, after) := by
  cases first : step before with
  | mk outcome middle =>
      cases outcome with
      | error error =>
          rw [bind_of_error first] at ran
          cases ran
      | ok value =>
          rw [bind_of_ok first] at ran
          exact ⟨value, middle, rfl, ran⟩

/-- What follows a step matters only after what the step gives. -/
theorem bind_congr_of_ok {step : ExceptT ε (StateM σ) α}
    {one two : α → ExceptT ε (StateM σ) β} {before : σ}
    (same : ∀ value after, step before = (.ok value, after) → one value after = two value after) :
    (step >>= one) before = (step >>= two) before := by
  cases ran : step before with
  | mk result after =>
      cases result with
      | error error => rw [bind_of_error ran, bind_of_error ran]
      | ok value => rw [bind_of_ok ran, bind_of_ok ran, same value after ran]

/-- A step whose value is changed afterwards. -/
theorem map_run {step : ExceptT ε (StateM σ) α} {before after : σ} {result : Except ε α}
    (ran : step before = (result, after)) (change : α → β) :
    (step >>= fun value => pure (change value)) before = (result.map change, after) := by
  cases result with
  | error error => exact bind_of_error ran
  | ok value => exact bind_of_ok ran

@[simp] theorem pure_run (value : α) (state : σ) :
    (pure value : ExceptT ε (StateM σ) α) state = (.ok value, state) := rfl

@[simp] theorem throw_run (error : ε) (state : σ) :
    (throw error : ExceptT ε (StateM σ) α) state = (.error error, state) := rfl

@[simp] theorem lift_run (result : Except ε α) (state : σ) :
    (liftM result : ExceptT ε (StateM σ) α) state = (result, state) := rfl

@[simp] theorem get_run (state : σ) :
    (get : ExceptT ε (StateM σ) σ) state = (.ok state, state) := rfl

@[simp] theorem set_run (before after : σ) :
    (set after : ExceptT ε (StateM σ) PUnit) before = (.ok ⟨⟩, after) := rfl

@[simp] theorem modify_run (change : σ → σ) (state : σ) :
    (modify change : ExceptT ε (StateM σ) Unit) state = (.ok (), change state) := rfl

end Step

section Rules

variable {ε σ α β : Type}

/-- The error of a result that is one. -/
def error? : Except ε α → Option ε
  | .ok _ => none
  | .error error => some error

@[simp] theorem error?_ok (value : α) : error? (Except.ok value : Except ε α) = none := rfl

@[simp] theorem error?_error (error : ε) :
    error? (Except.error error : Except ε α) = some error := rfl

/-- A rule relates what was before a step, the error if it failed, and what is after it.
It allows to do nothing, and what it allows of steps it allows of their sequence. -/
structure IsRule (rule : σ → Option ε → σ → Prop) : Prop where
  refl : ∀ state, rule state none state
  trans : ∀ {before middle after : σ} {failure? : Option ε},
    rule before none middle → rule middle failure? after → rule before failure? after

/-- A step follows a rule wherever it begins and however it ends. -/
def Obeys (rule : σ → Option ε → σ → Prop) (step : ExceptT ε (StateM σ) α) : Prop :=
  ∀ before, rule before (error? (step before).1) (step before).2

namespace Obeys

variable {rule : σ → Option ε → σ → Prop}

/-- A step that ran as it did followed the rule. -/
theorem of_run {step : ExceptT ε (StateM σ) α} (obeys : Obeys rule step) {before after : σ}
    {result : Except ε α} (ran : step before = (result, after)) :
    rule before (error? result) after := by
  simpa only [ran] using obeys before

theorem pure (isRule : IsRule rule) (value : α) :
    Obeys rule (Pure.pure value : ExceptT ε (StateM σ) α) :=
  isRule.refl

theorem get (isRule : IsRule rule) : Obeys rule (get : ExceptT ε (StateM σ) σ) :=
  isRule.refl

theorem throw {error : ε} (allowed : ∀ state, rule state (some error) state) :
    Obeys rule (throw error : ExceptT ε (StateM σ) α) :=
  allowed

/-- Nothing that follows an error is done. -/
theorem throw_bind {error : ε} {next : α → ExceptT ε (StateM σ) β}
    (allowed : ∀ state, rule state (some error) state) :
    Obeys rule (MonadExcept.throw error >>= next) := by
  intro state
  rw [bind_of_error (throw_run error state)]
  exact allowed state

theorem modify {change : σ → σ} (allowed : ∀ state, rule state none (change state)) :
    Obeys rule (modify change : ExceptT ε (StateM σ) Unit) :=
  allowed

/-- Two steps that follow rules of their own, which together say what a third rule does. -/
theorem bind_of {first second : σ → Option ε → σ → Prop}
    (passes : ∀ before middle after failure?,
      first before none middle → second middle failure? after → rule before failure? after)
    (fails : ∀ before after error,
      first before (some error) after → rule before (some error) after)
    {step : ExceptT ε (StateM σ) α} {next : α → ExceptT ε (StateM σ) β}
    (one : Obeys first step) (two : ∀ value, Obeys second (next value)) :
    Obeys rule (step >>= next) := by
  intro before
  cases ran : step before with
  | mk result middle =>
      have done := one.of_run ran
      cases result with
      | error error =>
          rw [bind_of_error ran]
          exact fails _ _ _ done
      | ok value =>
          rw [bind_of_ok ran]
          exact passes _ _ _ _ done (two value middle)

theorem bind (isRule : IsRule rule) {step : ExceptT ε (StateM σ) α}
    {next : α → ExceptT ε (StateM σ) β} (one : Obeys rule step)
    (two : ∀ value, Obeys rule (next value)) : Obeys rule (step >>= next) := by
  refine bind_of ?_ ?_ one two
  · exact fun _ _ _ _ => isRule.trans
  · exact fun _ _ _ failed => failed

/-- What follows a look at what the step begins with. -/
theorem get_bind {next : σ → ExceptT ε (StateM σ) α}
    (two : ∀ state, rule state (error? (next state state).1) (next state state).2) :
    Obeys rule (MonadState.get >>= next) := by
  intro before
  rw [bind_of_ok (get_run _)]
  exact two before

end Obeys

end Rules

end TickWire
