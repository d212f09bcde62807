import StateChronicle.Domain.State

/-!
# Errors of the commit layer
-/

namespace StateChronicle.Commit

open StateChronicle.Core Domain

inductive CommitError where
  | emptyBatch
  | domain (error : DomainError)
  | core (error : StateChronicleError)
  | invalidEvent (message : String)
  | mixedTenant
  | duplicateEventId (eventId : String)
  | duplicateCanonicalKey (resourceId : String) (version : Nat)
  | outOfOrder (resourceId : String) (version : Nat)
  | stateRootMismatch (expected actual : String)
  | eventRootMismatch
  | forkDetected (parent : String) (sequence : U64)
  | chainGap (expectedParent : String) (actualParent : Option String)
  | sequenceMismatch (expected actual : U64)
  | eventRewrite (eventId : String)
  | sizeLimitExceeded (name : String) (limit actual : Nat)
  | builderFieldMissing (field : String)
  | payloadDigestMismatch
  | store (message : String)
deriving DecidableEq, Repr

/-- Core errors are wrapped, exceeded limits excepted. -/
def CommitError.ofCore : StateChronicleError → CommitError
  | .sizeLimitExceeded name limit actual => .sizeLimitExceeded name limit actual
  | error => .core error

end StateChronicle.Commit
