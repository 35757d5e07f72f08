/-!
# Operations that stop

An operation that hands work to foreign code may stop without a value in two ways: it returns a
fault, or the foreign code panics and nothing is returned.
-/

namespace TypedStore

/-- How an operation stops that gives no value. -/
inductive Stop (ε : Type) where
  | fault (cause : ε)
  /-- The operation never returns. -/
  | panic
deriving DecidableEq, Repr

/-- The same stop, with the fault made into another one. -/
def Stop.map {ε δ : Type} (f : ε → δ) : Stop ε → Stop δ
  | fault cause => fault (f cause)
  | panic => panic

/-- A value is not touched where faults are made into others. -/
@[simp] theorem mapError_ok {ε δ α : Type} (f : ε → δ) (a : α) :
    (Except.ok a : Except ε α).mapError f = .ok a := rfl

@[simp] theorem mapError_error {ε δ α : Type} (f : ε → δ) (e : ε) :
    (Except.error e : Except ε α).mapError f = .error (f e) := rfl

end TypedStore
