import RowAudit.Check.Violation

namespace RowAudit

@[ext]
structure Count where
  valid : Nat
  invalid : Nat
  deriving DecidableEq

structure Tally extends Count where
  violations : List Violation
  deriving DecidableEq

namespace Tally

def ofRows (found : List (List Violation)) : Tally where
  valid := found.countP List.isEmpty
  invalid := found.countP fun violations => !violations.isEmpty
  violations := found.flatten

def run (check : Nat → Row → List Violation) (rows : List Row) : Tally :=
  ofRows (rows.zipIdx.map fun (row, index) => check index row)

@[simp] theorem ofRows_nil : ofRows [] = ⟨⟨0, 0⟩, []⟩ := rfl

end Tally

end RowAudit
