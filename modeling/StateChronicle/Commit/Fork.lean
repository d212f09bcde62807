import StateChronicle.Commit.Error
import StateChronicle.Domain.Commit

/-!
# Forks

Two commits fork when they claim the same parent and sequence under different ids.  The checks below are pure; keeping
the evidence of rejected commits is left to the platform.
-/

namespace StateChronicle.Commit

open StateChronicle.Core Domain Foundation

def detectFork (previous candidateA candidateB : Commit) : Except CommitError Unit :=
  rejectIf
    (candidateA.parentCommitId = some previous.commitId ∧ candidateB.parentCommitId = some previous.commitId ∧
      candidateA.sequence = candidateB.sequence ∧ candidateA.commitId ≠ candidateB.commitId)
    (.forkDetected previous.commitId.name candidateA.sequence)

def checkChainContinuity (previous next : Commit) : Except CommitError Unit := do
  rejectIf (next.parentCommitId ≠ some previous.commitId)
    (.chainGap previous.commitId.name (next.parentCommitId.map CommitId.name))
  -- no commit follows the last sequence number
  let expectedSequence ← okOr (checkedAdd previous.sequence 1)
    (.sequenceMismatch (Fin.ofNat _ (2 ^ 64 - 1)) next.sequence)
  rejectIf (next.sequence ≠ expectedSequence) (.sequenceMismatch expectedSequence next.sequence)

theorem checkChainContinuity_eq_ok {previous next : Commit} {u : Unit} :
    checkChainContinuity previous next = .ok u ↔
      next.parentCommitId = some previous.commitId ∧ next.sequence.val = previous.sequence.val + 1 := by
  have one : (1 : U64).val = 1 := rfl
  simp only [checkChainContinuity, Except.bind_eq_ok, rejectIf_eq_ok, okOr_eq_ok, checkedAdd_eq_some, not_not, one]
  constructor
  · rintro ⟨-, parent, expected, follows, rfl⟩
    exact ⟨parent, follows.symm⟩
  · rintro ⟨parent, follows⟩
    exact ⟨(), parent, next.sequence, follows.symm, rfl⟩

/-- Beside a commit with the same parent and sequence, only a commit with the same id is no fork. -/
theorem detectFork_eq_ok_of_contested {previous candidateA candidateB : Commit} {u : Unit}
    (parentA : candidateA.parentCommitId = some previous.commitId)
    (parentB : candidateB.parentCommitId = some previous.commitId)
    (contested : candidateA.sequence = candidateB.sequence) :
    detectFork previous candidateA candidateB = .ok u ↔ candidateA.commitId = candidateB.commitId := by
  simp only [detectFork, rejectIf_eq_ok, parentA, parentB, contested, true_and, ne_eq, not_not]

/-! ## Rewritten events -/

def validateNoEventRewrite (sha256 : List UInt8 → Vector UInt8 32) (eventBytes : Event → Option (List UInt8))
    (accepted candidate : Event) : Except CommitError Unit :=
  if accepted.eventId ≠ candidate.eventId then .ok ()
  else do
    let acceptedDigest ← (canonicalizeAndDigest sha256 (eventBytes accepted)).mapError CommitError.ofCore
    let candidateDigest ← (canonicalizeAndDigest sha256 (eventBytes candidate)).mapError CommitError.ofCore
    rejectIf (acceptedDigest ≠ candidateDigest) (.eventRewrite accepted.eventId.name)

end StateChronicle.Commit
