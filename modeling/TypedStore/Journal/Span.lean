import TypedStore.Journal.Entry

/-!
# Spans

A piece of work has an entry at its beginning and one at its end. The entry at the
end tells how it ended: completed, with the time that has passed, or failed, with
the reason. A span is held while the work goes on, and one that is let go before an
end was written tells that the work was given up.
-/

namespace TypedStore

/-- A piece of work with fields that its entries repeat. -/
structure Span where
  name : String
  fields : List (String × String)
deriving DecidableEq, Repr

namespace Span

/-- The entry at the beginning. -/
def begun (span : Span) : Entry := .plain .trace (span.name ++ "_BEGIN") span.fields

/-- The entry at the end of completed work, with more fields. -/
def completed (span : Span) (more : List (String × String)) : Entry :=
  ⟨.info, span.name ++ "_COMPLETE", span.fields ++ more, true⟩

/-- The entry at the end of failed work. -/
def failed (span : Span) (reason : String) : Entry :=
  .plain .error (span.name ++ "_FAILED") (span.fields ++ [("reason", reason)])

/-- The entry at the end of work that was given up. -/
def dropped (span : Span) : Entry :=
  .plain .warn (span.name ++ "_INCOMPLETE") [("reason", "scope dropped without completion")]

end Span

/-- A span as it is held while the work goes on, with a mark once an end has been written. -/
structure HeldSpan where
  span : Span
  ended : Bool

/-- How the work of a span that is held ends, or that it does not. -/
inductive SpanEnding where
  | complete (more : List (String × String))
  | fail (reason : String)
  | abandon

namespace HeldSpan

/-- Write the end of the work, if there is one, and mark it. -/
def finish (held : HeldSpan) : SpanEnding → HeldSpan × List Entry
  | .complete more => ({ held with ended := true }, [held.span.completed more])
  | .fail reason => ({ held with ended := true }, [held.span.failed reason])
  | .abandon => (held, [])

/-- A span that is let go without the mark tells that the work was given up. -/
def release (held : HeldSpan) : List Entry := if held.ended then [] else [held.span.dropped]

end HeldSpan

namespace Span

/-- Begin the work and hold the span. -/
def hold (span : Span) : HeldSpan × List Entry := (⟨span, false⟩, [span.begun])

/-- The entries of a piece of work: those of its span, which is held while others are
written, then ended and let go. -/
def around (span : Span) (within : List Entry) (ending : SpanEnding) : List Entry :=
  let (held, first) := span.hold
  let (ended, last) := held.finish ending
  first ++ within ++ last ++ ended.release

/-- However the work of a span ends, one entry behind all others tells of it. -/
theorem around_eq (span : Span) (within : List Entry) (ending : SpanEnding) :
    span.around within ending = span.begun :: (within ++ [match ending with
      | .complete more => span.completed more
      | .fail reason => span.failed reason
      | .abandon => span.dropped]) := by
  cases ending <;> simp [around, hold, HeldSpan.finish, HeldSpan.release]

end Span

end TypedStore
