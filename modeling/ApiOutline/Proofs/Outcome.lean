/-!
# Outcomes of steps

When a sequence of steps succeeds, each of its steps does, and when it fails, one of them does. These facts
take an outcome apart, so that later proofs follow the steps of a definition one by one.
-/

namespace ApiOutline.Outcome

variable {ε δ α β : Type}

/-- Two steps succeed if the first one does and the second one does on its result. -/
theorem bind_eq_ok {x : Except ε α} {f : α → Except ε β} {b : β} :
    x >>= f = .ok b ↔ ∃ a, x = .ok a ∧ f a = .ok b := by
  cases x with
  | error fault => simp [bind, Except.bind]
  | ok a => simp [bind, Except.bind]

/-- `bind_eq_ok`, for the function. -/
theorem except_bind_eq_ok {x : Except ε α} {f : α → Except ε β} {b : β} :
    x.bind f = .ok b ↔ ∃ a, x = .ok a ∧ f a = .ok b :=
  bind_eq_ok

/-- Two steps fail if the first one does, or the second one on its result. -/
theorem bind_eq_error {x : Except ε α} {f : α → Except ε β} {fault : ε} :
    x >>= f = .error fault ↔ x = .error fault ∨ ∃ a, x = .ok a ∧ f a = .error fault := by
  cases x with
  | error cause => simp [bind, Except.bind]
  | ok a => simp [bind, Except.bind]

/-- A step that only returns succeeds with what it returns. -/
theorem pure_eq_ok {a b : α} : (pure a : Except ε α) = .ok b ↔ b = a := by
  rw [show (pure a : Except ε α) = .ok a from rfl, Except.ok.injEq, eq_comm]

/-- A changed result is a result that is changed. -/
theorem map_eq_ok {x : Except ε α} {f : α → β} {b : β} :
    x.map f = .ok b ↔ ∃ a, x = .ok a ∧ f a = b := by
  cases x with
  | error fault => simp [Except.map]
  | ok a => simp [Except.map]

/-- A changed result fails if the result does. -/
theorem map_eq_error {x : Except ε α} {f : α → β} {fault : ε} :
    x.map f = .error fault ↔ x = .error fault := by
  cases x with
  | error cause => simp [Except.map]
  | ok a => simp [Except.map]

/-- A fault is put in other words. -/
theorem mapError_error (f : ε → δ) (fault : ε) :
    (Except.error fault : Except ε α).mapError f = .error (f fault) := rfl

/-- A success stays as it is. -/
theorem mapError_ok (f : ε → δ) (a : α) : (Except.ok a : Except ε α).mapError f = .ok a := rfl

/-- A fault in other words changes no success. -/
theorem mapError_eq_ok {x : Except ε α} {f : ε → δ} {a : α} :
    x.mapError f = .ok a ↔ x = .ok a := by
  cases x with
  | error fault => simp [mapError_error]
  | ok a => simp [mapError_ok]

/-- A fault in other words is a fault that was put in these. -/
theorem mapError_eq_error {x : Except ε α} {f : ε → δ} {fault : δ} :
    x.mapError f = .error fault ↔ ∃ cause, x = .error cause ∧ f cause = fault := by
  cases x with
  | error cause => simp [mapError_error]
  | ok a => simp [mapError_ok]

/-- Steps after a check succeed if the check lets pass and they do. -/
theorem unless_eq_ok {c : Prop} [Decidable c] {fault : ε} {f : α → Except ε β} {next : Except ε β}
    {b : β} : (if c then (throw fault >>= f) else next) = .ok b ↔ ¬ c ∧ next = .ok b := by
  by_cases h : c
  · simp [h, throw, throwThe, MonadExceptOf.throw, bind, Except.bind]
  · simp [h]

/-- Steps after a check fail if the check does, or if it lets pass and they do. -/
theorem unless_eq_error {c : Prop} [Decidable c] {fault cause : ε} {f : α → Except ε β}
    {next : Except ε β} : (if c then (throw fault >>= f) else next) = .error cause ↔
      c ∧ fault = cause ∨ ¬ c ∧ next = .error cause := by
  by_cases h : c
  · simp [h, throw, throwThe, MonadExceptOf.throw, bind, Except.bind]
  · simp [h]

end ApiOutline.Outcome
