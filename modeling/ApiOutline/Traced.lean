/-!
# Steps that leave notes

Work can stop at a fault, and it leaves notes about what it passed by. A `Traced` value holds the
notes of all steps up to the end or the fault, and the outcome. `outcome` respects `pure` and `bind`,
so that facts about outcomes need not look at notes, and `notes` lists those of each step in turn.
-/

namespace ApiOutline

/-- An outcome and the notes left on the way to it. -/
structure Traced (ν ε α : Type) where
  notes : List ν
  outcome : Except ε α

namespace Traced

variable {ν μ ε δ α β : Type}

/-- A step that leaves no note. -/
def lift (outcome : Except ε α) : Traced ν ε α :=
  ⟨[], outcome⟩

/-- A step that only leaves notes. -/
def leave (notes : List ν) : Traced ν ε Unit :=
  ⟨notes, .ok ()⟩

/-- A step that fails. -/
def fail (fault : ε) : Traced ν ε α :=
  ⟨[], .error fault⟩

/-- One step after another; a fault ends all. -/
def andThen (first : Traced ν ε α) (next : α → Traced ν ε β) : Traced ν ε β :=
  match first.outcome with
  | .error fault => ⟨first.notes, .error fault⟩
  | .ok a => ⟨first.notes ++ (next a).notes, (next a).outcome⟩

instance : Monad (Traced ν ε) where
  pure a := ⟨[], .ok a⟩
  bind := andThen

/-- The same step with its notes and its fault in other words. -/
def reword (note : ν → μ) (fault : ε → δ) (step : Traced ν ε α) : Traced μ δ α :=
  ⟨step.notes.map note, step.outcome.mapError fault⟩

@[simp]
theorem outcome_pure (a : α) : (pure a : Traced ν ε α).outcome = .ok a := rfl

@[simp]
theorem outcome_lift (outcome : Except ε α) : (lift outcome : Traced ν ε α).outcome = outcome := rfl

@[simp]
theorem outcome_leave (notes : List ν) : (leave notes : Traced ν ε Unit).outcome = .ok () := rfl

@[simp]
theorem outcome_fail (fault : ε) : (fail fault : Traced ν ε α).outcome = .error fault := rfl

@[simp]
theorem outcome_reword (note : ν → μ) (fault : ε → δ) (step : Traced ν ε α) :
    (reword note fault step).outcome = step.outcome.mapError fault := rfl

@[simp]
theorem outcome_bind (first : Traced ν ε α) (next : α → Traced ν ε β) :
    (first >>= next).outcome = first.outcome.bind fun a => (next a).outcome := by
  show (andThen first next).outcome = _
  unfold andThen
  cases first.outcome <;> rfl

end Traced

end ApiOutline
