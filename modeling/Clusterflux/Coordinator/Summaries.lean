import Clusterflux.Coordinator.Processes

/-!
# Listing process summaries

The summaries of a project are listed page by page, the newest first.  The cursor of
a page names the order number of its last summary.
-/

namespace Clusterflux

abbrev SummaryEntry := ProcessControlKey × StoredProcessSummary

/-! ## Cursors -/

def withoutPlus : List Char → List Char
  | '+' :: rest => rest
  | text => text

/-- A decimal number of 64 bits; a plus sign may stand before it. -/
def parseDecimal (text : List Char) : Option ℕ :=
  let digits := withoutPlus text
  if digits ≠ [] ∧ digits.all Char.isDigit ∧ Nat.ofDigitChars 10 digits 0 ≤ u64Max then
    some (Nat.ofDigitChars 10 digits 0)
  else none

def orderCursor (kind : String) (order : ℕ) : String := kind ++ ":" ++ toString order

def invalidCursor (expectedKind : String) : String :=
  "invalid " ++ expectedKind ++ " pagination cursor"

def parseOrderCursor (cursor : Option String) (expectedKind : String) : Except String (Option ℕ) :=
  match cursor with
  | none => .ok none
  | some cursor =>
    match splitOnce [':'] cursor.toList with
    | none => .error (invalidCursor expectedKind)
    | some (kind, order) =>
      if kind ≠ expectedKind.toList then .error (invalidCursor expectedKind)
      else match parseDecimal order with
        | none => .error (invalidCursor expectedKind)
        | some order => .ok (some order)

/-! ## Pages -/

namespace ProcessRegistry

variable (registry : ProcessRegistry) (tenant : TenantId) (project : ProjectId)

/-- The next summaries of a project below an order number, and whether there are
more. -/
def summariesPage (beforeOrder : Option ℕ) (limit : ℕ) : List SummaryEntry × Bool :=
  let stored := (registry.summaries.toList.filter fun (key, summary) =>
    decide (key.tenant = tenant ∧ key.project = project) &&
      beforeOrder.all (summary.order < ·)).mergeSort
        fun left right => decide (right.2.order ≤ left.2.order)
  (stored.take limit, decide (limit < stored.length))

/-- A page, and the cursor of the next one. -/
def listSummaries (cursor : Option String) (limit : ℕ) :
    Except String (List SummaryEntry × Option String) := do
  let beforeOrder ← parseOrderCursor cursor "process"
  let (stored, hasMore) := registry.summariesPage tenant project beforeOrder limit
  return (stored, if hasMore then
      stored.getLast?.map fun (_, summary) => orderCursor "process" summary.order
    else none)

end ProcessRegistry

end Clusterflux
