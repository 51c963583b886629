/-
# Results of what can fail

Readers and file operations fail at the first step that fails.  They are put
together by `map`, `bind` and `mapError`, and where the whole gives a result, so
did every part: that is how a result is traced back through the steps that led
to it.  A fault is traced back to the one step that it comes from.

Source: the errors of loading, of logging and of clients; `SPEC_FULL.md` 12.
-/

namespace OctetRelay

/-- A result that was mapped comes from a result. -/
theorem ok_of_map {ε α β : Type} {result : Except ε α} {f : α → β} {b : β}
    (h : result.map f = .ok b) : ∃ a, result = .ok a ∧ f a = b := by
  cases result with
  | error fault => cases h
  | ok a => exact ⟨a, rfl, Except.ok.inj h⟩

/-- A sequence that gives a result gives one at each step. -/
theorem ok_of_bind {ε α β : Type} {result : Except ε α} {f : α → Except ε β} {b : β}
    (h : result.bind f = .ok b) : ∃ a, result = .ok a ∧ f a = .ok b := by
  cases result with
  | error fault => cases h
  | ok a => exact ⟨a, rfl, h⟩

/-- A sequence that fails does so at its first step or behind it. -/
theorem error_of_bind {ε α β : Type} {result : Except ε α} {f : α → Except ε β} {fault : ε}
    (h : result.bind f = .error fault) :
    result = .error fault ∨ ∃ a, result = .ok a ∧ f a = .error fault := by
  cases result with
  | error other => exact .inl (congrArg Except.error (Except.error.inj h))
  | ok a => exact .inr ⟨a, rfl, h⟩

/-- Mapping faults leaves a result alone. -/
theorem ok_of_mapError {ε δ α : Type} {result : Except ε α} {f : ε → δ} {a : α}
    (h : result.mapError f = .ok a) : result = .ok a := by
  cases result with
  | error fault => cases h
  | ok b => exact congrArg Except.ok (Except.ok.inj h)

end OctetRelay
