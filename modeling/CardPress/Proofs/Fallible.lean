/-!
# Computations that may fail

When a computation that is built from others comes to its end, the others have come to theirs.
-/

namespace CardPress

section outcome

variable {error fault first second : Type}

theorem ok_bind (value : first) (next : first → Except error second) :
    (Except.ok value >>= next) = next value :=
  rfl

theorem error_bind (cause : error) (next : first → Except error second) :
    (Except.error cause >>= next) = .error cause :=
  rfl

/-- A step of a computation that succeeds passes its value on. -/
theorem bind_eq_ok {start : Except error first} {next : first → Except error second}
    {result : second} :
    (start >>= next) = .ok result ↔ ∃ value, start = .ok value ∧ next value = .ok result := by
  cases start with
  | error cause => simp [bind, Except.bind]
  | ok value => simp [bind, Except.bind]

theorem map_eq_ok (change : first → second) (result : Except error first) (found : second) :
    result.map change = .ok found ↔ ∃ value, result = .ok value ∧ change value = found := by
  cases result with
  | error cause => simp [Except.map]
  | ok value => simp [Except.map]

theorem mapError_ok (change : error → fault) (value : first) :
    (Except.ok value).mapError change = .ok value :=
  rfl

theorem mapError_error (change : error → fault) (cause : error) :
    (Except.error cause : Except error first).mapError change = .error (change cause) :=
  rfl

/-- Reporting errors in another way changes no result. -/
theorem mapError_eq_ok (change : error → fault) (result : Except error first) (found : first) :
    result.mapError change = .ok found ↔ result = .ok found := by
  cases result with
  | error cause => simp [mapError_error]
  | ok value => simp [mapError_ok]

theorem toOption_eq_some {result : Except error first} {found : first} :
    result.toOption = some found ↔ result = .ok found := by
  cases result with
  | error cause => simp [Except.toOption]
  | ok value => simp [Except.toOption]

/-- What does not fail succeeds. -/
theorem exists_eq_ok {result : Except error first} :
    (∃ value, result = .ok value) ↔ ¬∃ cause, result = .error cause := by
  cases result with
  | error cause => simp
  | ok value => simp

end outcome

end CardPress
