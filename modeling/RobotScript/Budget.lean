/-!
# The statement budget

A run may execute a limited number of statements. The budget counts them and is exceeded by the
first one past the limit. The count is a natural number. It agrees with a counter of 64 bits for
every limit below `2 ^ 64 - 1`, since nothing is counted once the limit is exceeded.
-/

namespace RobotScript

/-- Statements executed so far, and how many may be. -/
structure Budget where
  used : Nat := 0
  limit : Nat := 500
deriving DecidableEq, Repr

namespace Budget

/-- A fresh budget. -/
def ofLimit (limit : Nat) : Budget := { limit }

/-- The budget after one more statement. -/
def spend (budget : Budget) : Budget :=
  { budget with used := budget.used + 1 }

/-- More statements have been executed than may be. -/
def exceeded (budget : Budget) : Bool :=
  budget.limit < budget.used

theorem used_le_limit {budget : Budget} (within : ¬ budget.exceeded = true) :
    budget.used ≤ budget.limit := by
  simpa [exceeded] using within

/-- The same limit, with nothing executed. -/
def reset (budget : Budget) : Budget :=
  { budget with used := 0 }

end Budget

end RobotScript
