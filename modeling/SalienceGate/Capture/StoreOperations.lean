import SalienceGate.Capture.StoreFeedback
import Mathlib

/-!
# The operations of the capture store

Besides appending and recording feedback, an operation registers or enrolls a connection, changes the state of one, or
deletes a session or the sessions of a project. A deletion is two transactions: the first marks what is to be deleted, the
second removes it, and leaves a tombstone for a session.

An `Operation` is one transaction, so an operation of the source that stops between its transactions, and any order of
several, is a list of operations.
-/

namespace SalienceGate

open Checked Stateful

variable [CaptureKey] [CaptureTags]

namespace CaptureStore

local instance lawfulKey : LawfulBEq SessionKey := inferInstance

/-! ## Connections -/

/-- `_TRANSITIONS`. -/
def transitions : CaptureConnectionState → List CaptureConnectionState
  | .pending => [.enabled]
  | .enabled => [.draining]
  | .draining => [.disabled]
  | .disabled => [.enabled, .deleting]
  | .deleting => []

/-- A connection is written. -/
def putConnection (connectionId : ComponentIdentifier) (connection : CaptureConnection) : StoreM Unit :=
  modify fun t => { t with store.connections := t.store.connections.set connectionId connection }

/-- `register_connection`, in its transaction: whether there was no such connection. `sameHost` says that the host version
is that of the row. -/
def registerConnection (connectionId : ComponentIdentifier) (projectDigest : Sha256Digest) (profile : CaptureProfile)
    (capabilityManifestDigest : Sha256Digest) (sameHost : Bool) : StoreM Bool := do
  let t ← get
  match t.store.connections.get? connectionId with
  | some existing => do
    raiseIf (existing.projectDigest ≠ projectDigest ∨ existing.profile ≠ profile
      ∨ existing.capabilityManifestDigest ≠ capabilityManifestDigest ∨ sameHost = false) CaptureStoreError.state
    pure false
  | none => do
    putConnection connectionId ⟨projectDigest, profile, capabilityManifestDigest, .pending⟩
    pure true

/-- The part of `enroll_global_child` that inserts the connection of a new child. -/
def enrollConnection (connectionId : ComponentIdentifier) (projectDigest : Sha256Digest) (profile : CaptureProfile)
    (capabilityManifestDigest : Sha256Digest) : StoreM Unit := do
  let t ← get
  raiseIf (connectionId ∈ t.store.connections) CaptureStoreError.integrity
  putConnection connectionId ⟨projectDigest, profile, capabilityManifestDigest, .enabled⟩

/-- `transition_connection`, in its transaction. -/
def transitionConnection (connectionId : ComponentIdentifier) (expected target : CaptureConnectionState) :
    StoreM Unit := do
  raiseIf (target ∉ transitions expected) CaptureStoreError.state
  let connection ← connectionRow connectionId
  raiseIf (connection.state ≠ expected) CaptureStoreError.state
  putConnection connectionId { connection with state := target }

/-! ## Deletions -/

/-- The first transaction of `_delete_session`: whether the session is there. -/
def markSession (key : SessionKey) : StoreM Bool := do
  let t ← get
  match t.store.sessions.get? key with
  | none => do
    raiseIf (key ∉ t.store.tombstones) CaptureStoreError.state
    pure false
  | some stored => do
    let connection ← connectionRow key.1
    verifyChain connection.profile.isTransport key stored
    let _ ← verifiedFeedbackRows key (t.store.feedbackOf key)
    if stored.session.state ≠ .deleting then do
      let _ ← updateSession key stored .deleting stored.session.eventCount stored.session.coverageDegraded
    pure true

/-- The second transaction of `_delete_session`: the rows of the session go with its own. -/
def purgeSession (key : SessionKey) : StoreM Unit := do
  let connection ← connectionRow key.1
  let t ← get
  match t.store.sessions.get? key with
  | none => raiseIf (key ∉ t.store.tombstones) CaptureStoreError.integrity
  | some stored => do
    raiseIf (stored.session.state ≠ .deleting) CaptureStoreError.integrity
    verifyChain connection.profile.isTransport key stored
    let _ ← verifiedFeedbackRows key (t.store.feedbackOf key)
    modify fun t => { t with
      store.sessions := t.store.sessions.erase key
      store.feedback := t.store.feedback.erase key
      store.tombstones := if key ∈ t.store.tombstones then t.store.tombstones else t.store.tombstones ++ [key] }

/-- The connections of a project. -/
def connectionsOf (store : CaptureStore) (projectDigest : Sha256Digest) : List (ComponentIdentifier × CaptureConnection) :=
  store.connections.items.filter fun entry => entry.2.projectDigest = projectDigest

/-- The first transaction of `_delete_project`. -/
def markProject (projectDigest : Sha256Digest) : StoreM Unit := do
  let t ← get
  raiseIf (∃ entry ∈ t.store.connectionsOf projectDigest, entry.2.state ≠ .disabled ∧ entry.2.state ≠ .deleting)
    CaptureStoreError.state
  modify fun t => { t with
    store.connections := t.store.connections.mapValues fun connection =>
      if connection.projectDigest = projectDigest then { connection with state := .deleting } else connection }

/-- The second transaction of `_delete_project`, for the connections that the first one found: the sessions and the
tombstones of a connection go with it. -/
def purgeProject (projectDigest : Sha256Digest) (connectionIds : List ComponentIdentifier) : StoreM Unit := do
  let t ← get
  let current := t.store.connectionsOf projectDigest
  raiseIf (current.map Prod.fst ≠ connectionIds) CaptureStoreError.state
  raiseIf (∃ entry ∈ current, entry.2.state ≠ .deleting) CaptureStoreError.state
  (t.store.sessions.items.filter fun entry => entry.1.1 ∈ connectionIds).forM fun entry => do
    let connection ← connectionRow entry.1.1
    verifyChain connection.profile.isTransport entry.1 entry.2
    let _ ← verifiedFeedbackRows entry.1 (t.store.feedbackOf entry.1)
  modify fun t => { t with
    store.connections := connectionIds.foldl Dict.erase t.store.connections
    store.sessions := (t.store.sessions.keys.filter fun key => key.1 ∈ connectionIds).foldl Dict.erase t.store.sessions
    store.feedback := (t.store.feedback.keys.filter fun key => key.1 ∈ connectionIds).foldl Dict.erase t.store.feedback
    store.tombstones := t.store.tombstones.filter fun key => key.1 ∉ connectionIds }

/-! ## Opening -/

/-- What `_verify_all_state` checks of a session: the number of its feedback rows. -/
def verifySession (entry : SessionKey × StoredSession) : StoreM ℕ := do
  let connection ← connectionRow entry.1.1
  verifyChain connection.profile.isTransport entry.1 entry.2
  let t ← get
  let rows ← verifiedFeedbackRows entry.1 (t.store.feedbackOf entry.1)
  pure (if rows = [] then 0 else rows.length + 1)

/-- `_verify_all_state`, of the connections and their sessions: a store is opened only if this accepts it. -/
def verifyAllState : StoreM Unit := do
  let t ← get
  let counts ← t.store.sessions.items.mapM verifySession
  raiseIf ((t.store.feedback.values.map List.length).sum ≠ counts.sum) CaptureStoreError.integrity

/-! ## Steps -/

/-- A transaction of an operation, with what it is called with. -/
inductive Operation where
  | register (connectionId : ComponentIdentifier) (projectDigest : Sha256Digest) (profile : CaptureProfile)
      (capabilityManifestDigest : Sha256Digest) (sameHost : Bool)
  | enroll (connectionId : ComponentIdentifier) (projectDigest : Sha256Digest) (profile : CaptureProfile)
      (capabilityManifestDigest : Sha256Digest)
  | transition (connectionId : ComponentIdentifier) (expected target : CaptureConnectionState)
  | append (intake : CaptureIntake) (source : CaptureAdmissionSource) (admittedAt : UtcDatetime)
  | appendTransportChunk (chunk : CaptureTransportChunk) (intakes : List CaptureIntake) (clock : ℕ → UtcDatetime)
  | markSessionHealth (key : SessionKey) (code : CaptureHealthCode)
  | recordFeedback (key : SessionKey) (label : CaptureFeedbackLabel) (projectDigest : Sha256Digest)
      (bound : CaptureConnection → Except CaptureStoreError Unit) (closedAt now : Datetime)
  | markSession (key : SessionKey)
  | purgeSession (key : SessionKey)
  | markProject (projectDigest : Sha256Digest)
  | purgeProject (projectDigest : Sha256Digest) (connectionIds : List ComponentIdentifier)

/-- The rows after an operation, in a process that verified the given heads before. -/
def perform (verified : Dict SessionKey CaptureHead) (store : CaptureStore) : Operation → CaptureStore
  | .register connectionId projectDigest profile capabilityManifestDigest sameHost =>
    (commit (registerConnection connectionId projectDigest profile capabilityManifestDigest sameHost) id verified
      store).2
  | .enroll connectionId projectDigest profile capabilityManifestDigest =>
    (commit (enrollConnection connectionId projectDigest profile capabilityManifestDigest) (fun _ => true) verified
      store).2
  | .transition connectionId expected target =>
    (commit (transitionConnection connectionId expected target) (fun _ => true) verified store).2
  | .append intake source admittedAt => (append intake source admittedAt verified store).2
  | .appendTransportChunk chunk intakes clock => (appendTransportChunk chunk intakes clock verified store).2
  | .markSessionHealth key code => (markSessionHealth key code verified store).2
  | .recordFeedback key label projectDigest bound closedAt now =>
    (commit (recordFeedback key label projectDigest bound closedAt now) (fun _ => true) verified store).2
  | .markSession key => (commit (CaptureStore.markSession key) id verified store).2
  | .purgeSession key => (commit (CaptureStore.purgeSession key) (fun _ => true) verified store).2
  | .markProject projectDigest => (commit (CaptureStore.markProject projectDigest) (fun _ => true) verified store).2
  | .purgeProject projectDigest connectionIds =>
    (commit (CaptureStore.purgeProject projectDigest connectionIds) (fun _ => true) verified store).2

/-- The store goes from one state to another in one transaction of some process. -/
def Step (store next : CaptureStore) : Prop := ∃ verified operation, perform verified store operation = next

/-- The states of a store that was created empty. -/
def Reached (store : CaptureStore) : Prop := Relation.ReflTransGen Step CaptureStore.empty store

end CaptureStore

end SalienceGate
