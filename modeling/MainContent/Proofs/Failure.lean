import MainContent.Failure

/-!
# Steps that may fail

An extraction request is served in steps, each of which may end it with a failure. All of them have
succeeded when it succeeds (`bind_eq_ok_iff`); a failure becomes a line that begins with the marker
(`marker_prefix_line`).
-/

namespace MainContent.Failure

/-- Two steps succeed if the first one does, and then the second one with what has come of it. -/
theorem bind_eq_ok_iff {ε α β : Type} (r : Except ε α) (f : α → Except ε β) (b : β) :
    r >>= f = .ok b ↔ ∃ a, r = .ok a ∧ f a = .ok b := by
  cases r with
  | error g => simp [bind, Except.bind]
  | ok a => simp [bind, Except.bind]

/-- The line of a failure begins with the marker. -/
theorem marker_prefix_line (f : Failure) : marker.toList <+: f.line.toList := by
  rw [line, String.toList_append]
  exact List.prefix_append _ _

end MainContent.Failure
