import CyreneKernel.Contract.Artifact
import CyreneKernel.Lib.Collect

/-!
# Transfer plans

An artifact is transferred in parts.  A manifest says which parts it has, and a plan from which
source each of them comes; a source has a ticket that allows some parts and a number of bytes.

## Main results

* `TransferManifest.validate_eq_ok`, `TransferPlan.validate_eq_ok`: what is checked.
* `Tiles.countP_contains`: parts one after the other have every byte once.
-/

namespace CyreneKernel.Agent

open Lib

inductive TransferError
  | contract (message : String)
  | authorization (message : String)
deriving DecidableEq

def TransferError.text : TransferError → String
  | .contract message => "TRANSFER_CONTRACT_INVALID: " ++ message
  | .authorization message => "TRANSFER_AUTHORIZATION_FAILED: " ++ message

inductive TransferProtocol
  | httpsRangeV1
deriving DecidableEq

inductive ArtifactPeerKind
  | centralSeed
  | regionalCache
  | objectStoreGateway
  | desktopCache
  | nodeCache
  | generic
deriving DecidableEq

inductive ArtifactTransferPath
  | lanDirect
  | userProvidedObjectStore
deriving DecidableEq

/-- Range transfers need content. -/
def validateTransferArtifactRef (artifact : ArtifactRef) : Except TransferError Unit := do
  artifact.validate.mapError .contract
  failIf (artifact.sizeBytes = 0) (.contract "Artifact size must be positive for range transfer")

structure ArtifactPeer where
  peerId : String
  kind : ArtifactPeerKind
  authorized : Bool
  residency : String
  trustDomain : String
  classifications : BTreeSet String
  policyTags : BTreeSet String
  healthy : Bool
  latencyMs : Nat
  bandwidthMbps : Nat
  costMicrounits : Nat

def ArtifactPeer.validate (peer : ArtifactPeer) : Except TransferError Unit :=
  failIf (peer.peerId = "" ∨ peer.residency = "" ∨ peer.trustDomain = "")
    (.contract "Artifact Peer identity, residency, and trust domain are required")

structure ArtifactReplica where
  replicaId : String
  artifact : ArtifactRef
  peerId : String
  protocol : TransferProtocol
  locator : String
  region : Option String
  priority : Nat
  expiresAtUnixMs : Option Nat
deriving DecidableEq

/-- The locator is one of the secure Web. -/
def isHttps (locator : String) : Bool := "https://".toList.isPrefixOf locator.toList

def ArtifactReplica.validate (replica : ArtifactReplica) : Except TransferError Unit := do
  validateTransferArtifactRef replica.artifact
  failIf (replica.replicaId = "" ∨ replica.peerId = "" ∨ replica.protocol ≠ .httpsRangeV1 ∨
      isHttps replica.locator = false)
    (.contract "Artifact replica requires an identity and HTTPS locator")

/-! ### Parts -/

structure TransferPart where
  index : Nat
  start : Nat
  endExclusive : Nat
  digest : String
deriving DecidableEq

def TransferPart.sizeBytes (part : TransferPart) : Nat := part.endExclusive - part.start

def TransferPart.validate (part : TransferPart) : Except TransferError Unit := do
  failIf (part.endExclusive ≤ part.start) (.contract "Transfer part range must be non-empty")
  (validateDigest part.digest).mapError .contract

structure TransferManifest where
  artifact : ArtifactRef
  partSizeBytes : Nat
  parts : List TransferPart
deriving DecidableEq

/-- The loop over the parts; it returns where the last one ends. -/
def checkParts : List TransferPart → Nat → Nat → Except TransferError Nat
  | [], _, nextStart => .ok nextStart
  | part :: rest, expectedIndex, nextStart => do
    part.validate
    failIf (part.index ≠ expectedIndex % 2 ^ 32 ∨ part.start ≠ nextStart)
      (.contract "Transfer parts must be contiguous and ordered")
    checkParts rest (expectedIndex + 1) part.endExclusive

def TransferManifest.validate (manifest : TransferManifest) : Except TransferError Unit := do
  validateTransferArtifactRef manifest.artifact
  failIf (manifest.partSizeBytes = 0 ∨ manifest.parts = [])
    (.contract "Transfer manifest requires a positive part size and parts")
  let nextStart ← checkParts manifest.parts 0 0
  failIf (nextStart ≠ manifest.artifact.sizeBytes)
    (.contract "Transfer parts do not cover the Artifact size")

/-! ### Tickets -/

structure TransferTicket where
  ticketId : String
  artifact : ArtifactRef
  sourcePeerId : String
  destinationPeerId : String
  allowedParts : BTreeSet Nat
  expiresAtUnixMs : Nat
  maxBytes : Nat
  signature : String

def TransferTicket.validate (ticket : TransferTicket) : Except TransferError Unit := do
  validateTransferArtifactRef ticket.artifact
  failIf (ticket.ticketId = "" ∨ ticket.sourcePeerId = "" ∨ ticket.destinationPeerId = "" ∨
      ticket.allowedParts.isEmpty = true ∨ ticket.expiresAtUnixMs = 0 ∨ ticket.maxBytes = 0 ∨
      ticket.signature = "")
    (.contract "TransferTicket requires scope, expiry, byte limit, and signature")

/-- A ticket authorizes the transfer of a part. -/
def TransferTicket.Authorizes (ticket : TransferTicket) (artifact : ArtifactRef)
    (sourcePeerId destinationPeerId : String) (part : TransferPart) (nowUnixMs : Nat) : Prop :=
  ticket.artifact = artifact ∧ ticket.sourcePeerId = sourcePeerId ∧
    ticket.destinationPeerId = destinationPeerId ∧ part.index ∈ ticket.allowedParts ∧
    part.sizeBytes ≤ ticket.maxBytes ∧ nowUnixMs < ticket.expiresAtUnixMs

instance (ticket : TransferTicket) (artifact : ArtifactRef) (source destination : String)
    (part : TransferPart) (nowUnixMs : Nat) :
    Decidable (ticket.Authorizes artifact source destination part nowUnixMs) :=
  inferInstanceAs (Decidable (_ ∧ _))

/-- Check the signature of a ticket; `signature` signs it with the key of the verifier. -/
def verifyTicket (signature : TransferTicket → String) (ticket : TransferTicket) :
    Except TransferError Unit := do
  ticket.validate
  failIf (ticket.signature ≠ signature { ticket with signature := "" })
    (.authorization "TransferTicket signature is invalid")

/-! ### Plans -/

structure TransferSource where
  peer : ArtifactPeer
  replica : ArtifactReplica
  ticket : TransferTicket

def TransferSource.transferPath (source : TransferSource) : ArtifactTransferPath :=
  if source.peer.kind = .objectStoreGateway then .userProvidedObjectStore else .lanDirect

def validateTransferPath (path : ArtifactTransferPath) (peerKind : ArtifactPeerKind)
    (replica : ArtifactReplica) : Except TransferError Unit :=
  match path with
  | .lanDirect => failIf (peerKind = .objectStoreGateway)
      (.contract "ObjectStoreGateway cannot be routed as LAN_DIRECT")
  | .userProvidedObjectStore => do
    failIf (peerKind ≠ .objectStoreGateway)
      (.contract "user-provided object-store path requires ObjectStoreGateway")
    failIf (replica.expiresAtUnixMs = none)
      (.contract "user-provided object-store replicas require a short-lived URL")

structure TransferPartSource where
  partIndex : Nat
  peerId : String
  replicaId : String
deriving DecidableEq

structure TransferPlan where
  planId : String
  artifact : ArtifactRef
  destinationPeerId : String
  sources : List TransferSource
  partSources : List TransferPartSource

/-- A source is the one that a route names. -/
def TransferPartSource.Names (route : TransferPartSource) (source : TransferSource) : Prop :=
  source.peer.peerId = route.peerId ∧ source.replica.replicaId = route.replicaId

instance (route : TransferPartSource) (source : TransferSource) : Decidable (route.Names source) :=
  inferInstanceAs (Decidable (_ ∧ _))

def TransferPlan.source (plan : TransferPlan) (route : TransferPartSource) :
    Option TransferSource :=
  plan.sources.find? fun source => route.Names source

def TransferPlan.route (plan : TransferPlan) (partIndex : Nat) : Option TransferPartSource :=
  plan.partSources.find? (·.partIndex = partIndex)

/-- The parts that were routed, and the bytes of each ticket. -/
structure RouteTally where
  routed : BTreeSet Nat
  ticketBytes : BTreeMap String Nat

/-- A part is routed with a ticket. -/
def RouteTally.add (tally : RouteTally) (part : TransferPart) (partIndex : Nat)
    (ticket : TransferTicket) : RouteTally where
  routed := tally.routed.insert partIndex
  ticketBytes := tally.ticketBytes.insert ticket.ticketId
    (saturatingAdd (tally.ticketBytes[ticket.ticketId]?.getD 0) part.sizeBytes)

def RouteTally.bytesOf (tally : RouteTally) (ticket : TransferTicket) : Nat :=
  tally.ticketBytes[ticket.ticketId]?.getD 0

def TransferManifest.part (manifest : TransferManifest) (index : Nat) : Option TransferPart :=
  manifest.parts.find? (·.index = index)

/-- The loop over the routes. -/
def TransferPlan.checkRoutes (plan : TransferPlan) (manifest : TransferManifest)
    (nowUnixMs : Nat) : List TransferPartSource → RouteTally → Except TransferError Unit
  | [], _ => .ok ()
  | route :: rest, tally => do
    failIf (route.partIndex ∈ tally.routed) (.contract "TransferPlan routes each part exactly once")
    let part ← foundOr (manifest.part route.partIndex)
      (.contract "TransferPlan references an unknown part")
    let source ← foundOr (plan.source route)
      (.contract "TransferPlan references an unknown Peer replica")
    source.peer.validate
    source.replica.validate
    validateTransferPath source.transferPath source.peer.kind source.replica
    source.ticket.validate
    failIf (source.replica.expiresAtUnixMs.any (· ≤ nowUnixMs))
      (.authorization "Artifact replica expired before the planned transfer")
    failIf (source.replica.artifact ≠ plan.artifact ∨ source.replica.peerId ≠ source.peer.peerId ∨
        ¬ source.ticket.Authorizes plan.artifact route.peerId plan.destinationPeerId part nowUnixMs)
      (.authorization "TransferTicket does not authorize the planned part route")
    let tally := tally.add part route.partIndex source.ticket
    failIf (tally.bytesOf source.ticket > source.ticket.maxBytes)
      (.authorization "TransferTicket byte budget is exceeded")
    plan.checkRoutes manifest nowUnixMs rest tally

/-- The checks of a plan against the manifest of its artifact. -/
def TransferPlan.validate (plan : TransferPlan) (manifest : TransferManifest) (nowUnixMs : Nat) :
    Except TransferError Unit := do
  manifest.validate
  failIf (plan.planId = "" ∨ plan.destinationPeerId = "" ∨ plan.artifact ≠ manifest.artifact ∨
      plan.sources.isEmpty = true ∨ plan.partSources.length ≠ manifest.parts.length)
    (.contract "TransferPlan identity, destination, sources, and part routes are required")
  plan.checkRoutes manifest nowUnixMs plan.partSources ⟨∅, ∅⟩

/-! ### What is checked of the parts -/

/-- Parts one after the other. -/
inductive Tiles : Nat → List TransferPart → Nat → Prop
  | nil (start : Nat) : Tiles start [] start
  | cons {start stop : Nat} {part : TransferPart} {rest : List TransferPart}
      (hstart : part.start = start) (hsize : start < part.endExclusive)
      (hrest : Tiles part.endExclusive rest stop) : Tiles start (part :: rest) stop

/-- A byte of the artifact is in the part. -/
def TransferPart.Contains (part : TransferPart) (byte : Nat) : Prop :=
  part.start ≤ byte ∧ byte < part.endExclusive

instance (part : TransferPart) (byte : Nat) : Decidable (part.Contains byte) :=
  inferInstanceAs (Decidable (_ ∧ _))

theorem Tiles.start_lt_of_mem {start stop : Nat} {parts : List TransferPart}
    (h : Tiles start parts stop) {part : TransferPart} (hpart : part ∈ parts) :
    part.start < part.endExclusive := by
  induction h with
  | nil => cases hpart
  | cons hstart hsize _ ih =>
    rcases List.mem_cons.1 hpart with rfl | hpart
    · omega
    · exact ih hpart

/-- Parts one after the other have every byte once. -/
theorem Tiles.countP_contains {start stop : Nat} {parts : List TransferPart}
    (h : Tiles start parts stop) (byte : Nat) :
    start ≤ stop ∧
      parts.countP (·.Contains byte) = if start ≤ byte ∧ byte < stop then 1 else 0 := by
  induction h with
  | nil start =>
    refine ⟨Nat.le_refl _, ?_⟩
    rw [List.countP_nil, if_neg (by omega)]
  | @cons start stop part rest hstart hsize _ ih =>
    obtain ⟨hle, hcount⟩ := ih
    refine ⟨by omega, ?_⟩
    rw [List.countP_cons, hcount]
    simp only [TransferPart.Contains, decide_eq_true_eq, hstart]
    split
    · rw [if_neg (by omega), if_pos (by omega)]
    · split
      · rw [if_pos (by omega)]
      · rw [if_neg (by omega)]

/-- The parts are counted, and have well-formed digests. -/
def Numbered : Nat → List TransferPart → Prop
  | _, [] => True
  | index, part :: rest =>
    part.index = index % 2 ^ 32 ∧ isDigest part.digest = true ∧ Numbered (index + 1) rest

theorem Numbered.map_index {index : Nat} {parts : List TransferPart} (h : Numbered index parts)
    (hcount : index + parts.length ≤ 2 ^ 32) :
    parts.map (·.index) = List.range' index parts.length := by
  induction parts generalizing index with
  | nil => rfl
  | cons part rest ih =>
    rw [List.length_cons] at hcount
    rw [List.map_cons, List.length_cons, List.range'_succ, ih h.2.2 (by omega), h.1,
      Nat.mod_eq_of_lt (by omega)]

theorem TransferPart.validate_eq_ok {part : TransferPart} {u : Unit} :
    part.validate = .ok u ↔ part.start < part.endExclusive ∧ isDigest part.digest = true := by
  simp only [TransferPart.validate, except_bind_eq_ok, failIf_eq_ok, mapError_eq_ok,
    validateDigest_eq_ok, Nat.not_le, exists_unit]

theorem checkParts_eq_ok {parts : List TransferPart} {index start stop : Nat} :
    checkParts parts index start = .ok stop ↔ Tiles start parts stop ∧ Numbered index parts := by
  induction parts generalizing index start with
  | nil =>
    constructor
    · rintro ⟨⟩
      exact ⟨.nil _, trivial⟩
    · rintro ⟨⟨⟩, -⟩
      rfl
  | cons part rest ih =>
    simp only [checkParts, except_bind_eq_ok, failIf_eq_ok, TransferPart.validate_eq_ok, ih, not_or,
      not_not, exists_unit]
    constructor
    · rintro ⟨⟨hsize, hdigest⟩, ⟨hindex, hstart⟩, htiles, hnumbered⟩
      exact ⟨.cons hstart (hstart ▸ hsize) htiles, hindex, hdigest, hnumbered⟩
    · rintro ⟨htiles, hindex, hdigest, hnumbered⟩
      cases htiles with
      | cons hstart hsize hrest =>
        exact ⟨⟨hstart ▸ hsize, hdigest⟩, ⟨hindex, hstart⟩, hrest, hnumbered⟩

/-- The parts of a valid manifest are those of its artifact, one after the other. -/
theorem TransferManifest.validate_eq_ok {manifest : TransferManifest} {u : Unit} :
    manifest.validate = .ok u ↔ validateTransferArtifactRef manifest.artifact = .ok () ∧
      manifest.partSizeBytes ≠ 0 ∧ manifest.parts ≠ [] ∧
      Tiles 0 manifest.parts manifest.artifact.sizeBytes ∧ Numbered 0 manifest.parts := by
  simp only [TransferManifest.validate, except_bind_eq_ok, failIf_eq_ok, checkParts_eq_ok, not_or,
    not_not, exists_unit, exists_eq_right_right, and_assoc, ne_eq]

/-! ### What is checked of the routes -/

/-- What is checked of the source of a route, whatever the parts are. -/
structure RouteSource (plan : TransferPlan) (nowUnixMs : Nat) (route : TransferPartSource)
    (source : TransferSource) : Prop where
  found : plan.source route = some source
  peer : source.peer.validate = .ok ()
  replica : source.replica.validate = .ok ()
  path : validateTransferPath source.transferPath source.peer.kind source.replica = .ok ()
  ticket : source.ticket.validate = .ok ()
  current : ¬ source.replica.expiresAtUnixMs.any (· ≤ nowUnixMs)
  artifact : source.replica.artifact = plan.artifact
  peerId : source.replica.peerId = source.peer.peerId
  ticketArtifact : source.ticket.artifact = plan.artifact
  ticketSource : source.ticket.sourcePeerId = route.peerId
  ticketDestination : source.ticket.destinationPeerId = plan.destinationPeerId
  ticketCurrent : nowUnixMs < source.ticket.expiresAtUnixMs

def TransferPlan.ticketOf (plan : TransferPlan) (route : TransferPartSource) :
    Option TransferTicket :=
  (plan.source route).map (·.ticket)

/-- What is checked of the parts: no two routes are for one part, and the tickets allow the parts
and their bytes. -/
def Fits (manifest : TransferManifest) (ticketOf : TransferPartSource → Option TransferTicket) :
    List TransferPartSource → RouteTally → Prop
  | [], _ => True
  | route :: rest, tally => route.partIndex ∉ tally.routed ∧
    ∃ part ticket, manifest.part route.partIndex = some part ∧ ticketOf route = some ticket ∧
      part.index ∈ ticket.allowedParts ∧ part.sizeBytes ≤ ticket.maxBytes ∧
      (tally.add part route.partIndex ticket).bytesOf ticket ≤ ticket.maxBytes ∧
      Fits manifest ticketOf rest (tally.add part route.partIndex ticket)

/-- The routes are for different parts of the manifest. -/
theorem Fits.fresh {manifest : TransferManifest}
    {ticketOf : TransferPartSource → Option TransferTicket} {routes : List TransferPartSource}
    {tally : RouteTally} (h : Fits manifest ticketOf routes tally) :
    Fresh (·.partIndex) (· ∈ tally.routed) routes ∧
      ∀ route ∈ routes, route.partIndex ∈ manifest.parts.map (·.index) := by
  induction routes generalizing tally with
  | nil => simp [Fresh]
  | cons route rest ih =>
    obtain ⟨hnew, part, ticket, hpart, -, -, -, -, hrest⟩ := h
    obtain ⟨hfresh, hparts⟩ := ih hrest
    have hindex := List.find?_some hpart
    rw [decide_eq_true_eq] at hindex
    rw [fresh_cons, List.forall_mem_cons]
    refine ⟨⟨hnew, ?_⟩, ?_, hparts⟩
    · simpa only [RouteTally.add, BTreeSet.mem_insert] using hfresh
    · exact List.mem_map.2 ⟨part, List.mem_of_find?_eq_some hpart, hindex⟩

theorem Fits.congr {manifest : TransferManifest}
    {ticketOf ticketOf' : TransferPartSource → Option TransferTicket}
    {routes : List TransferPartSource} {tally : RouteTally}
    (h : Fits manifest ticketOf routes tally)
    (heq : ∀ route ∈ routes, ticketOf' route = ticketOf route) :
    Fits manifest ticketOf' routes tally := by
  induction routes generalizing tally with
  | nil => trivial
  | cons route rest ih =>
    obtain ⟨hrouted, part, ticket, hpart, hticket, hallowed, hsize, hbytes, hrest⟩ := h
    exact ⟨hrouted, part, ticket, hpart, (heq route List.mem_cons_self).trans hticket, hallowed,
      hsize, hbytes, ih hrest fun route hroute => heq route (List.mem_cons_of_mem _ hroute)⟩

variable {plan : TransferPlan} {manifest : TransferManifest} {nowUnixMs : Nat}

theorem TransferPlan.checkRoutes_eq_ok {routes : List TransferPartSource} {tally : RouteTally} :
    plan.checkRoutes manifest nowUnixMs routes tally = .ok () ↔
      (∀ route ∈ routes, ∃ source, RouteSource plan nowUnixMs route source) ∧
      Fits manifest plan.ticketOf routes tally := by
  induction routes generalizing tally with
  | nil => simp [checkRoutes, Fits]
  | cons route rest ih =>
    simp only [checkRoutes, except_bind_eq_ok, failIf_eq_ok, foundOr_eq_ok, ih, not_or, not_not,
      List.forall_mem_cons, Fits, Nat.not_lt, exists_unit]
    constructor
    · rintro ⟨hrouted, part, hpart, source, hsource, hpeer, hreplica, hpath, hticket, hcurrent,
        ⟨hartifact, hpeerId, hauthorizes⟩, hbytes, hrest, hfits⟩
      obtain ⟨hticketArtifact, hticketSource, hdestination, hallowed, hsize, hexpiry⟩ := hauthorizes
      have hroute : RouteSource plan nowUnixMs route source :=
        ⟨hsource, hpeer, hreplica, hpath, hticket, hcurrent, hartifact, hpeerId, hticketArtifact,
          hticketSource, hdestination, hexpiry⟩
      have hticketOf : plan.ticketOf route = some source.ticket := by
        rw [ticketOf, hsource, Option.map_some]
      exact ⟨⟨⟨source, hroute⟩, hrest⟩, hrouted, part, source.ticket, hpart, hticketOf, hallowed,
        hsize, hbytes, hfits⟩
    · rintro ⟨⟨⟨source, hroute⟩, hrest⟩, hrouted, part, ticket, hpart, hticketOf, hallowed, hsize,
        hbytes, hfits⟩
      rw [ticketOf, hroute.found, Option.map_some] at hticketOf
      obtain rfl := Option.some.inj hticketOf
      have hauthorizes : source.ticket.Authorizes plan.artifact route.peerId plan.destinationPeerId
          part nowUnixMs :=
        ⟨hroute.ticketArtifact, hroute.ticketSource, hroute.ticketDestination, hallowed, hsize,
          hroute.ticketCurrent⟩
      exact ⟨hrouted, part, hpart, source, hroute.found, hroute.peer, hroute.replica, hroute.path,
        hroute.ticket, hroute.current, ⟨hroute.artifact, hroute.peerId, hauthorizes⟩, hbytes, hrest,
        hfits⟩

/-- A plan is checked together with the manifest: its routes have sources, and the parts fit. -/
theorem TransferPlan.validate_eq_ok :
    plan.validate manifest nowUnixMs = .ok () ↔ manifest.validate = .ok () ∧
      (plan.planId ≠ "" ∧ plan.destinationPeerId ≠ "" ∧ plan.artifact = manifest.artifact ∧
        plan.sources.isEmpty ≠ true ∧ plan.partSources.length = manifest.parts.length) ∧
      (∀ route ∈ plan.partSources, ∃ source, RouteSource plan nowUnixMs route source) ∧
      Fits manifest plan.ticketOf plan.partSources ⟨∅, ∅⟩ := by
  simp only [TransferPlan.validate, except_bind_eq_ok, failIf_eq_ok, checkRoutes_eq_ok, not_or,
    not_not, exists_unit, ne_eq]

end CyreneKernel.Agent
