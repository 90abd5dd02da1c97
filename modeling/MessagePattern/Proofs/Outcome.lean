set_option autoImplicit false

namespace MessagePattern

variable {ε α β : Type}

@[simp] theorem pure_eq_ok (value : α) : (pure value : Except ε α) = .ok value := rfl

@[simp] theorem ok_bind (value : α) (next : α -> Except ε β) :
    (Except.ok value >>= next) = next value := rfl

@[simp] theorem error_bind (error : ε) (next : α -> Except ε β) :
    (Except.error error >>= next) = .error error := rfl

@[simp] theorem map_ok (change : α -> β) (value : α) :
    change <$> (Except.ok value : Except ε α) = .ok (change value) := rfl

@[simp] theorem map_error (change : α -> β) (error : ε) :
    change <$> (Except.error error : Except ε α) = .error error := rfl

@[simp] theorem mapError_ok {φ : Type} (change : ε -> φ) (value : α) :
    (Except.ok value : Except ε α).mapError change = .ok value := rfl

@[simp] theorem mapError_error {φ : Type} (change : ε -> φ) (error : ε) :
    (Except.error error : Except ε α).mapError change = .error (change error) := rfl

theorem mapError_id (outcome : Except ε α) : outcome.mapError id = outcome := by
  cases outcome <;> rfl

theorem bind_eq_ok {step : Except ε α} {next : α -> Except ε β} {result : β} :
    (step >>= next) = .ok result ↔ ∃ value, step = .ok value ∧ next value = .ok result := by
  cases step <;> simp

theorem bind_eq_error {step : Except ε α} {next : α -> Except ε β} {error : ε} :
    (step >>= next) = .error error ↔
      step = .error error ∨ ∃ value, step = .ok value ∧ next value = .error error := by
  cases step <;> simp

theorem map_eq_error {outcome : Except ε α} {change : α -> β} {error : ε} :
    outcome.map change = .error error ↔ outcome = .error error := by
  cases outcome <;> simp [Except.map]

theorem mapError_eq_error {φ : Type} {outcome : Except ε α} {change : ε -> φ} {error : φ} :
    outcome.mapError change = .error error ↔ ∃ cause, outcome = .error cause ∧ change cause = error := by
  cases outcome <;> simp

theorem map_eq_ok {outcome : Except ε α} {change : α -> β} {result : β} :
    outcome.map change = .ok result ↔ ∃ value, outcome = .ok value ∧ change value = result := by
  cases outcome <;> simp [Except.map]

theorem mapError_eq_ok {φ : Type} {outcome : Except ε α} {change : ε -> φ} {value : α} :
    outcome.mapError change = .ok value ↔ outcome = .ok value := by
  cases outcome <;> simp

theorem map_bind_congr {γ δ : Type} {first second : Except ε α} {look : α -> β}
    {next other : α -> Except ε γ} {view : γ -> δ} (alike : first.map look = second.map look)
    (later : ∀ value partner, look value = look partner ->
      (next value).map view = (other partner).map view) :
    (first >>= next).map view = (second >>= other).map view := by
  cases first with
  | error error =>
    cases second with
    | error reason =>
      cases alike
      rfl
    | ok partner => cases alike
  | ok value =>
    cases second with
    | error reason => cases alike
    | ok partner => exact later value partner (Except.ok.inj alike)

theorem mapError_bind_congr {φ : Type} {first second : Except ε α} {next other : α -> Except ε β}
    {view : ε -> φ} (alike : first.mapError view = second.mapError view)
    (later : ∀ value, (next value).mapError view = (other value).mapError view) :
    (first >>= next).mapError view = (second >>= other).mapError view := by
  cases first with
  | error error =>
    cases second with
    | error reason => exact congrArg Except.error (Except.error.inj alike)
    | ok value => cases alike
  | ok value =>
    cases second with
    | error reason => cases alike
    | ok partner =>
      cases alike
      exact later value

end MessagePattern
