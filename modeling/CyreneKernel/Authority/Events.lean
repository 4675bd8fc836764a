import CyreneKernel.Authority.Model

/-!
# Semantic events of the authority

Every namespace has its own event source.  An event becomes visible only after the event store
accepted it; when an append is lost the stream is degraded, and a reader is told to take a new
snapshot.
-/

namespace CyreneKernel

open Lib

def operationEventHistoryCapacity : Nat := 256

/-- The event source of a namespace. -/
def AuthorityRuntime.semanticEventSourceFor (s : AuthorityRuntime) (ns : NamespaceId) :
    Identity where
  id :=
    if ns = default then "kernel/" ++ s.nodeId
    else "kernel/" ++ s.nodeId ++ "/namespace/" ++ ns.asStr
  generation := s.nodeEpoch

/-- The durable records of a source as events; they must be valid, of that source, and strictly
ordered. -/
def orderedEvents (ns : NamespaceId) (source : Identity) :
    Option Nat → List DurableEventRecord → Except Rejection (List Event)
  | _, [] => .ok []
  | previous, record :: records =>
    if record.ns ≠ ns.asStr ∨ record.event.source ≠ source ∨
        record.event.validate ≠ .ok () ∨ previous.any (record.event.sequence ≤ ·) then
      .error ⟨"EVENT_STORE_INVALID",
        "durable event history did not match the requested ordered source"⟩
    else
      (orderedEvents ns source (some record.event.sequence) records).map (record.event :: ·)

section Events

variable (env : Environment)

variable (ns : NamespaceId)

def eventHistoryFor (source : Identity) : Action (List Event) := do
  let outcome ← ask env.eventsForSource
  let durable ← liftExcept providerRejection outcome
  match durable with
  | some records => liftExcept id (orderedEvents ns source none records)
  | none =>
    let s ← get
    return ((s.semanticEvents[ns]?).map (·.events)).getD []

/-- The sequence number after `sequence`, unless the counter is exhausted. -/
def checkedSucc (sequence : Nat) : Option Nat :=
  if sequence < u64Max then some (sequence + 1) else none

/-- The history of a namespace, seeded from the event store when it is first used; `none` when the
stored history cannot be read. -/
def openHistory (source : Identity) : Action (Option NamespaceEventHistory) := do
  let s ← get
  match s.semanticEvents[ns]? with
  | some history => return some history
  | none =>
    match ← tryAction (eventHistoryFor env ns source) with
    | .error _ => return none
    | .ok events =>
      return some ⟨match events.getLast? with
        | none => some 1
        | some event => checkedSucc event.sequence, []⟩

def putHistory (history : NamespaceEventHistory) : Action Unit :=
  modify fun s => { s with semanticEvents := s.semanticEvents.insert ns history }

/-- Keep the most recent events. -/
def pushEvent (events : List Event) (event : Event) : List Event :=
  (if events.length = operationEventHistoryCapacity then events.drop 1 else events) ++ [event]

/-- Publish an event of a namespace.  Nothing is published when the stored history cannot be read,
when the stream is degraded, or when the event is invalid. -/
def publishSemanticEventIn (subject : Identity) (kind schemaId : String) : Action Unit := do
  let s ← get
  let source := s.semanticEventSourceFor ns
  let some history ← openHistory env ns source | return
  putHistory ns history
  let some sequence := history.nextSequence | return
  let observedAt ← ask env.now
  let event : Event :=
    { sequence := sequence, source := source, subject := subject, kind := kind
      observedAtUnixMs := observedAt, schemaId := schemaId, body := [] }
  if event.validate ≠ .ok () then return
  match ← ask env.appendEvent with
  | .error _ => putHistory ns { history with nextSequence := none }
  | .ok _ => putHistory ns ⟨checkedSucc sequence, pushEvent history.events event⟩

def AuthorityRuntime.inMemoryEventRange (s : AuthorityRuntime) (ns : NamespaceId) : Nat × Nat :=
  let events := ((s.semanticEvents[ns]?).map (·.events)).getD []
  ((events.head?.map (·.sequence)).getD 0, (events.getLast?.map (·.sequence)).getD 0)

def readEventsPage (cursor : EventCursor) (limit : Nat) : Action EventPage := do
  let s ← get
  let source := s.semanticEventSourceFor ns
  let (oldest, latest) := s.inMemoryEventRange ns
  if cursor.source ≠ source then
    return ⟨source, .sourceChanged, [], oldest, latest, cursor.sequence⟩
  if (s.semanticEvents[ns]?).any (·.nextSequence.isNone) then
    return ⟨source, .gap, [], oldest, latest, cursor.sequence⟩
  let history ← eventHistoryFor env ns source
  let oldest := (history.head?.map (·.sequence)).getD 0
  let latest := (history.getLast?.map (·.sequence)).getD 0
  let status := cursor.statusAgainst source oldest
  if status ≠ .current then
    return ⟨source, status, [], oldest, latest, cursor.sequence⟩
  let events := (history.filter (cursor.sequence < ·.sequence)).take limit
  return ⟨source, status, events, oldest, latest,
    (events.getLast?.map (·.sequence)).getD cursor.sequence⟩

end Events

end CyreneKernel
