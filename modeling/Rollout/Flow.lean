import Rollout.Datum.Access
import Rollout.Flow.Digest
import Rollout.Plan

/-!
# Flows and their buckets

A **flow** is the job that images are chosen for. Its **identity** is its name, after the name
of its project when it has one, and decides the **bucket** that it falls into: the leading
eight bytes of the identity's digest, taken as a number, are reduced to 1 to 100. The names are
kept as they were given; an identity that is no text has no digest.
-/

namespace Rollout

/-- The flow that an execution belongs to. -/
structure Flow where
  name : Datum
  project : Datum := .null
  /-- The execution's own id, which is only passed on. -/
  executionId : Datum := .null
  deriving DecidableEq, Repr

namespace Flow

/-- The name under which a flow falls into its bucket; an empty project counts as none. -/
def identity (flow : Flow) : Datum :=
  if flow.project.isTruthy then .text s!"{flow.project.display}.{flow.name.display}"
  else flow.name

/-- The number of bytes, the highest first. -/
def bigEndian (bytes : List UInt8) : Nat :=
  bytes.foldl (fun n b => 256 * n + b.toNat) 0

/-- The bucket of an identity. -/
def bucketOfText (identity : String) : Int :=
  (bigEndian ((Digest.digest (Text.encodeUtf8 identity.toList)).take 8) : Int) % bucketCount + 1

/-- The bucket that a flow falls into by its identity. -/
def bucket (flow : Flow) : Except Fault Int :=
  (flow.identity.toText "encode").map bucketOfText

end Flow

end Rollout
