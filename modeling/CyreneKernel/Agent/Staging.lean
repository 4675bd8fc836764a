import CyreneKernel.Agent.Transfer
import CyreneKernel.Fabric.Payload
import Mathlib.Data.List.Nodup

/-!
# Staging of artifacts

The runtime agent receives a transfer as a message, and builds its own manifest and plan from it.
The message has the size of the parts and their digests, but not the parts; and the agent takes
every artifact for a generic one.

## Main results

* `buildParts_eq_ok`: the agent builds equal parts, if no offset exceeds 64 bits.
* `transferSession_valid_iff`: when the agent builds a valid plan for the artifact of the message.
* `parts_routed_once`: a valid manifest shares out the bytes of its artifact, and a valid plan has
  one route for each part.
-/

namespace CyreneKernel.Agent

open Lib Fabric

/-- The failures of the agent. -/
inductive RuntimeAgentError
  | configuration (message : String)
  | credentialRead (path message : String)
  | emptyCredential (path : String)
  | transport (message : String)
  | protocol (error : FabricContractError)
  | state (message : String)
  | artifact (message : String)
  | child (message : String)
  | outboxFull
deriving DecidableEq

/-- The parts of third parties: a ticket is read from its text, and signed with the key of the
agent. -/
structure TicketPorts where
  parse : String → Except String TransferTicket
  signature : TransferTicket → String

/-! ### What the agent builds -/

/-- The part of an artifact at an index; numbers of 64 and 32 bits wrap around. -/
def partAt (spec : ArtifactTransferSpec) (index : Nat) (digest : String) : TransferPart :=
  let start := index * spec.partSizeBytes % 2 ^ 64
  { index := index % 2 ^ 32
    start := start
    endExclusive := min ((start + spec.partSizeBytes) % 2 ^ 64) spec.sizeBytes
    digest := digest }

/-- The number of parts of a size that an artifact has. -/
def partCount (sizeBytes partSizeBytes : Nat) : Nat :=
  (sizeBytes + partSizeBytes - 1) / partSizeBytes

def buildParts (spec : ArtifactTransferSpec) : Except RuntimeAgentError (List TransferPart) := do
  failIf (spec.partDigests.length ≠ partCount spec.sizeBytes spec.partSizeBytes)
    (.artifact "part digest count does not cover Artifact size")
  return spec.partDigests.zipIdx.map fun (digest, index) => partAt spec index digest

/-- The path of a source, and the kind of peer that it has. -/
def sourcePath (nowUnixMs : Nat) (source : ArtifactTransferSource) :
    Except RuntimeAgentError (ArtifactPeerKind × ArtifactTransferPath) := do
  let path ← foundOr (WireTransferPath.fromNumber source.path)
    (.artifact "ARTIFACT_TRANSFER_PATH_INVALID: assignment source path is unknown")
  match path with
  | .lanDirect => return (.generic, .lanDirect)
  | .userProvidedObjectStore =>
    failIf (source.locatorExpiresAtUnixMs ≤ nowUnixMs) (.artifact
      "OBJECT_STORE_LOCATOR_EXPIRED: user-provided object-store URL is missing or expired")
    return (.objectStoreGateway, .userProvidedObjectStore)
  | .unspecified => throw (.artifact ("ARTIFACT_TRANSFER_PATH_UNSPECIFIED: assignment must name " ++
      "LAN_DIRECT or USER_PROVIDED_OBJECT_STORE; control Relay is not a bulk Artifact path"))

/-- The source that the agent builds when it has read the ticket. -/
def sourceWith (artifact : ArtifactRef) (source : ArtifactTransferSource)
    (kind : ArtifactPeerKind) (path : ArtifactTransferPath) (ticket : TransferTicket) :
    TransferSource where
  peer :=
    { peerId := source.peerId
      kind := kind
      authorized := true
      residency := "control-plane-authorized"
      trustDomain := "workspace"
      classifications := BTreeSet.insertList ∅ ["assigned"]
      policyTags := ∅
      healthy := true
      latencyMs := 0
      bandwidthMbps := 0
      costMicrounits := 0 }
  replica :=
    { replicaId := source.replicaId
      artifact := artifact
      peerId := source.peerId
      protocol := .httpsRangeV1
      locator := source.locator
      region := none
      priority := 0
      expiresAtUnixMs := some (match path with
        | .lanDirect => ticket.expiresAtUnixMs
        | .userProvidedObjectStore =>
          min ticket.expiresAtUnixMs source.locatorExpiresAtUnixMs) }
  ticket := ticket

def buildSource (ports : TicketPorts) (artifact : ArtifactRef) (nowUnixMs : Nat)
    (source : ArtifactTransferSource) : Except RuntimeAgentError TransferSource := do
  let (kind, path) ← sourcePath nowUnixMs source
  let ticket ← (ports.parse source.transferTicket).mapError .artifact
  (verifyTicket ports.signature ticket).mapError fun error => .artifact error.text
  return sourceWith artifact source kind path ticket

def buildTransferSources (ports : TicketPorts) (spec : ArtifactTransferSpec)
    (artifact : ArtifactRef) (nowUnixMs : Nat) :
    Except RuntimeAgentError (List TransferSource) := do
  failIf (spec.sources = []) (.artifact ("LAN_DIRECT_UNAVAILABLE_USER_OBJECT_STORE_REQUIRED: " ++
    "no reachable direct source or user-provided object-store candidate is available; " ++
    "supply a short-lived pre-signed HTTPS URL from a user-owned object store; " ++
    "Artifact bytes are never sent through the control Relay"))
  spec.sources.mapM (buildSource ports artifact nowUnixMs)

/-- The identity that the agent transfers. -/
def transferArtifact (spec : ArtifactTransferSpec) : ArtifactRef where
  uri := spec.artifactUri
  digest := spec.digest
  sizeBytes := spec.sizeBytes
  kind := .generic
  manifestDigest := manifestDigestFromProto spec.manifestDigest

/-- The hexadecimal digits of a digest. -/
def digestHex (digest : String) : Option String :=
  if (bytesOf digest).take 7 = bytesOf "sha256:" then some (String.ofList (digest.toList.drop 7))
  else none

/-- The session of a transfer, without its paths on the node. -/
structure TransferSession where
  sessionId : String
  manifest : TransferManifest
  plan : TransferPlan
  concurrency : Nat

/-- The session that the agent makes of a transfer; `nodeId` is its node. -/
def transferSession (ports : TicketPorts) (nodeId : String) (nowUnixMs : Nat)
    (spec : ArtifactTransferSpec) : Except RuntimeAgentError TransferSession := do
  let digestHex ← foundOr (digestHex spec.digest) (.artifact "invalid Artifact digest")
  let artifact := transferArtifact spec
  let parts ← buildParts spec
  let destinationPeerId :=
    if spec.destinationPeerId = "" then "node-cache-" ++ nodeId else spec.destinationPeerId
  let sources ← buildTransferSources ports spec artifact nowUnixMs
  let partSources := spec.partSources.map fun route =>
    ⟨route.partIndex, route.peerId, route.replicaId⟩
  return { sessionId := "artifact-" ++ digestHex
           manifest := ⟨artifact, spec.partSizeBytes, parts⟩
           plan := ⟨"plan-" ++ digestHex, artifact, destinationPeerId, sources, partSources⟩
           concurrency := 4 }

/-! ### Parts of one size -/

/-- The parts of an artifact that all have one size, up to the last. -/
def equalParts (sizeBytes partSizeBytes : Nat) (digests : List String) : List TransferPart :=
  digests.zipIdx.map fun (digest, index) =>
    ⟨index % 2 ^ 32, index * partSizeBytes, min ((index + 1) * partSizeBytes) sizeBytes, digest⟩

section Parts

variable {sizeBytes partSizeBytes : Nat}

/-- The parts reach the size, and the last one begins before it. -/
theorem partCount_spec (hsize : 0 < sizeBytes) (hpart : 0 < partSizeBytes) :
    0 < partCount sizeBytes partSizeBytes ∧
      sizeBytes ≤ partCount sizeBytes partSizeBytes * partSizeBytes ∧
      partCount sizeBytes partSizeBytes * partSizeBytes < sizeBytes + partSizeBytes := by
  have hlower := Nat.div_mul_le_self (sizeBytes + partSizeBytes - 1) partSizeBytes
  have hupper := Nat.lt_div_mul_add (a := sizeBytes + partSizeBytes - 1) hpart
  have hpos : 0 < (sizeBytes + partSizeBytes - 1) / partSizeBytes :=
    Nat.div_pos (by omega) hpart
  unfold partCount
  exact ⟨hpos, by omega, by omega⟩

variable {digests : List String} {k : Nat}

theorem tiles_zipIdx (hbefore : ∀ i, i < k + digests.length → i * partSizeBytes < sizeBytes)
    (hcover : sizeBytes ≤ (k + digests.length) * partSizeBytes) :
    Tiles (min (k * partSizeBytes) sizeBytes)
      ((digests.zipIdx k).map fun (digest, index) => ⟨index % 2 ^ 32, index * partSizeBytes,
        min ((index + 1) * partSizeBytes) sizeBytes, digest⟩) sizeBytes := by
  induction digests generalizing k with
  | nil =>
    rw [List.length_nil, Nat.add_zero] at hcover
    rw [Nat.min_eq_right hcover]
    exact .nil _
  | cons digest rest ih =>
    rw [List.length_cons] at hbefore hcover
    have hstart : k * partSizeBytes < sizeBytes := hbefore k (by omega)
    have hnext : (k + 1) * partSizeBytes = k * partSizeBytes + partSizeBytes := Nat.succ_mul _ _
    have hpart : 0 < partSizeBytes := by
      by_contra hzero
      have hzero : partSizeBytes = 0 := by omega
      rw [hzero, Nat.mul_zero] at hcover
      omega
    rw [Nat.min_eq_left (Nat.le_of_lt hstart)]
    have hend : k * partSizeBytes < min ((k + 1) * partSizeBytes) sizeBytes := by omega
    refine .cons rfl hend (ih (fun i hi => hbefore i (by omega)) ?_)
    rw [Nat.add_right_comm, Nat.add_assoc]
    exact hcover

/-- As many parts as the size needs are one after the other. -/
theorem tiles_equalParts (hsize : 0 < sizeBytes) (hpart : 0 < partSizeBytes)
    (hcount : digests.length = partCount sizeBytes partSizeBytes) :
    Tiles 0 (equalParts sizeBytes partSizeBytes digests) sizeBytes := by
  obtain ⟨hpos, hcover, hlast⟩ := partCount_spec hsize hpart
  rw [← hcount] at hpos hcover hlast
  have hbefore (i : Nat) (hi : i < 0 + digests.length) : i * partSizeBytes < sizeBytes := by
    have hle : (i + 1) * partSizeBytes ≤ digests.length * partSizeBytes :=
      Nat.mul_le_mul_right _ (by omega)
    rw [Nat.succ_mul] at hle
    omega
  have htiles := tiles_zipIdx hbefore (by rwa [Nat.zero_add])
  rwa [Nat.zero_mul, Nat.zero_min] at htiles

theorem map_digest_equalParts (digests : List String) :
    (equalParts sizeBytes partSizeBytes digests).map (·.digest) = digests := by
  rw [equalParts, List.map_map]
  exact List.zipIdx_map_fst 0 digests

theorem numbered_zipIdx (h : ∀ digest ∈ digests, isDigest digest = true) :
    Numbered k ((digests.zipIdx k).map fun (digest, index) => ⟨index % 2 ^ 32,
      index * partSizeBytes, min ((index + 1) * partSizeBytes) sizeBytes, digest⟩) := by
  induction digests generalizing k with
  | nil => trivial
  | cons digest rest ih =>
    rw [List.forall_mem_cons] at h
    exact ⟨rfl, h.1, ih h.2⟩

theorem isDigest_of_numbered {parts : List TransferPart} (h : Numbered k parts) :
    ∀ digest ∈ parts.map (·.digest), isDigest digest = true := by
  induction parts generalizing k with
  | nil => nofun
  | cons part rest ih =>
    rw [List.map_cons, List.forall_mem_cons]
    exact ⟨h.2.1, ih h.2.2⟩

end Parts

/-! ### What the agent builds of the parts -/

variable {spec : ArtifactTransferSpec}

theorem buildParts_eq_ok {parts : List TransferPart} :
    buildParts spec = .ok parts ↔
      spec.partDigests.length = partCount spec.sizeBytes spec.partSizeBytes ∧
      parts = spec.partDigests.zipIdx.map fun (digest, index) => partAt spec index digest := by
  simp only [buildParts, except_bind_eq_ok, except_pure_eq_ok, failIf_eq_ok, not_not, exists_unit,
    eq_comm (a := parts)]

/-- The agent builds equal parts if no offset exceeds 64 bits. -/
theorem map_partAt (h : spec.partDigests.length * spec.partSizeBytes < 2 ^ 64) :
    (spec.partDigests.zipIdx.map fun (digest, index) => partAt spec index digest) =
      equalParts spec.sizeBytes spec.partSizeBytes spec.partDigests := by
  refine List.map_congr_left fun entry hentry => ?_
  obtain ⟨digest, index⟩ := entry
  have hindex : index < spec.partDigests.length := (List.mem_zipIdx' hentry).1
  have hle : (index + 1) * spec.partSizeBytes ≤ spec.partDigests.length * spec.partSizeBytes :=
    Nat.mul_le_mul_right _ hindex
  have hnext : (index + 1) * spec.partSizeBytes =
      index * spec.partSizeBytes + spec.partSizeBytes := Nat.succ_mul _ _
  have hstart : index * spec.partSizeBytes % 2 ^ 64 = index * spec.partSizeBytes :=
    Nat.mod_eq_of_lt (by omega)
  have hend : (index * spec.partSizeBytes + spec.partSizeBytes) % 2 ^ 64 =
      (index + 1) * spec.partSizeBytes := by
    rw [Nat.mod_eq_of_lt (by omega), hnext]
  simp only [partAt, hstart, hend]

/-- An offset that exceeds 64 bits leaves the last part empty. -/
theorem offsets_lt_of_tiles (hsize : 0 < spec.sizeBytes) (hpart : 0 < spec.partSizeBytes)
    (hsizeMax : spec.sizeBytes ≤ u64Max) (hpartMax : spec.partSizeBytes ≤ u64Max)
    (hcount : spec.partDigests.length = partCount spec.sizeBytes spec.partSizeBytes)
    (htiles : Tiles 0 (spec.partDigests.zipIdx.map fun (digest, index) => partAt spec index digest)
      spec.sizeBytes) : spec.partDigests.length * spec.partSizeBytes < 2 ^ 64 := by
  obtain ⟨hpos, hcover, hlast⟩ := partCount_spec hsize hpart
  rw [← hcount] at hpos hcover hlast
  by_contra hlarge
  unfold u64Max at hsizeMax hpartMax
  -- the part at the last index
  obtain ⟨last, hlength⟩ : ∃ last, spec.partDigests.length = last + 1 :=
    ⟨spec.partDigests.length - 1, by omega⟩
  have hmem : (spec.partDigests.get ⟨last, by omega⟩, last) ∈ spec.partDigests.zipIdx :=
    List.mk_mem_zipIdx_iff_getElem?.2 (List.getElem?_eq_getElem _)
  have hlt := htiles.start_lt_of_mem (List.mem_map_of_mem hmem)
  rw [hlength, Nat.succ_mul] at hlarge hcover hlast
  have hstart : last * spec.partSizeBytes % 2 ^ 64 = last * spec.partSizeBytes :=
    Nat.mod_eq_of_lt (by omega)
  have hwrap : (last * spec.partSizeBytes + spec.partSizeBytes) % 2 ^ 64 =
      last * spec.partSizeBytes + spec.partSizeBytes - 2 ^ 64 := by
    rw [Nat.mod_eq_sub_mod (by omega), Nat.mod_eq_of_lt (by omega)]
  simp only [partAt, hstart, hwrap] at hlt
  omega

/-! ### Messages of plans -/

/-- The number of a path on the wire. -/
def pathNumber : ArtifactTransferPath → Int
  | .lanDirect => 1
  | .userProvidedObjectStore => 2

/-- A message carries a source. -/
structure EncodesSource (ports : TicketPorts) (source : TransferSource)
    (wire : ArtifactTransferSource) : Prop where
  peerId : wire.peerId = source.peer.peerId
  replicaId : wire.replicaId = source.replica.replicaId
  locator : wire.locator = source.replica.locator
  ticket : ports.parse wire.transferTicket = .ok source.ticket
  path : wire.path = pathNumber source.transferPath
  expiry : source.transferPath = .userProvidedObjectStore →
    wire.locatorExpiresAtUnixMs = source.replica.expiresAtUnixMs.getD 0

/-- A message carries a plan and a manifest. -/
structure Encodes (ports : TicketPorts) (plan : TransferPlan) (manifest : TransferManifest)
    (spec : ArtifactTransferSpec) : Prop where
  artifactUri : spec.artifactUri = plan.artifact.uri
  digest : spec.digest = plan.artifact.digest
  sizeBytes : spec.sizeBytes = plan.artifact.sizeBytes
  artifactKind : spec.artifactKind = plan.artifact.kind.value
  manifestDigest : spec.manifestDigest = plan.artifact.manifestDigest.getD ""
  partSizeBytes : spec.partSizeBytes = manifest.partSizeBytes
  partDigests : spec.partDigests = manifest.parts.map (·.digest)
  destinationPeerId : spec.destinationPeerId = plan.destinationPeerId
  partSources : spec.partSources =
    plan.partSources.map fun route => ⟨route.partIndex, route.peerId, route.replicaId⟩
  sources : List.Forall₂ (EncodesSource ports) plan.sources spec.sources

/-- The kind of peer that the agent takes for a path. -/
def peerKindOf : ArtifactTransferPath → ArtifactPeerKind
  | .lanDirect => .generic
  | .userProvidedObjectStore => .objectStoreGateway

/-- The source that the agent builds of a source that it was sent. -/
def rebuildSource (artifact : ArtifactRef) (source : TransferSource)
    (wire : ArtifactTransferSource) : TransferSource :=
  sourceWith artifact wire (peerKindOf source.transferPath) source.transferPath source.ticket

section Sources

variable {ports : TicketPorts} {artifact : ArtifactRef} {nowUnixMs : Nat} {source : TransferSource}
  {wire : ArtifactTransferSource} {sources : List TransferSource}
  {wires : List ArtifactTransferSource}

section

variable (h : EncodesSource ports source wire) (haccepted : checkSourcePath nowUnixMs wire = .ok ())

include h haccepted

theorem locatorExpiry_of_checkSourcePath (hpath : source.transferPath = .userProvidedObjectStore) :
    nowUnixMs < wire.locatorExpiresAtUnixMs := by
  simp only [checkSourcePath, h.path, hpath, pathNumber, except_bind_eq_ok, foundOr_eq_ok,
    failIf_eq_ok] at haccepted
  obtain ⟨path, hnumber, _, -, hcurrent⟩ := haccepted
  obtain rfl : .userProvidedObjectStore = path := Option.some.inj hnumber
  exact Nat.lt_of_not_le fun hle => hcurrent ⟨rfl, hle⟩

theorem sourcePath_eq :
    sourcePath nowUnixMs wire = .ok (peerKindOf source.transferPath, source.transferPath) := by
  have hexpiry := locatorExpiry_of_checkSourcePath h haccepted
  rw [sourcePath, h.path]
  cases hpath : source.transferPath with
  | lanDirect => rfl
  | userProvidedObjectStore =>
    have hcurrent : ¬ wire.locatorExpiresAtUnixMs ≤ nowUnixMs := Nat.not_le.2 (hexpiry hpath)
    simp only [pathNumber, WireTransferPath.fromNumber, foundOr, failIf, if_neg hcurrent]
    rfl

theorem buildSource_eq_ok {rebuilt : TransferSource} :
    buildSource ports artifact nowUnixMs wire = .ok rebuilt ↔
      verifyTicket ports.signature source.ticket = .ok () ∧
      rebuilt = rebuildSource artifact source wire := by
  have hbuild : buildSource ports artifact nowUnixMs wire =
      ((verifyTicket ports.signature source.ticket).mapError
        fun error => RuntimeAgentError.artifact error.text) >>= fun _ =>
          pure (rebuildSource artifact source wire) := by
    rw [buildSource, sourcePath_eq h haccepted, h.ticket]
    rfl
  simp only [hbuild, except_bind_eq_ok, mapError_eq_ok, except_pure_eq_ok, exists_unit,
    eq_comm (a := rebuilt)]

end

/-- The agent builds the sources when their tickets are signed. -/
theorem mapM_buildSource_eq_ok (h : List.Forall₂ (EncodesSource ports) sources wires)
    (haccepted : ∀ wire ∈ wires, checkSourcePath nowUnixMs wire = .ok ())
    {rebuilt : List TransferSource} :
    wires.mapM (buildSource ports artifact nowUnixMs) = .ok rebuilt ↔
      (∀ source ∈ sources, verifyTicket ports.signature source.ticket = .ok ()) ∧
      rebuilt = List.zipWith (rebuildSource artifact) sources wires := by
  induction h generalizing rebuilt with
  | nil =>
    rw [List.mapM_nil, except_pure_eq_ok, eq_comm]
    simp
  | cons hsource _ ih =>
    rw [List.forall_mem_cons] at haccepted
    simp only [List.mapM_cons, except_bind_eq_ok, except_pure_eq_ok,
      buildSource_eq_ok hsource haccepted.1, ih haccepted.2, List.forall_mem_cons,
      List.zipWith_cons_cons]
    constructor
    · rintro ⟨_, ⟨hverified, rfl⟩, _, ⟨hrest, rfl⟩, rfl⟩
      exact ⟨⟨hverified, hrest⟩, rfl⟩
    · rintro ⟨⟨hverified, hrest⟩, rfl⟩
      exact ⟨_, ⟨hverified, rfl⟩, _, ⟨hrest, rfl⟩, rfl⟩

theorem names_rebuildSource (h : EncodesSource ports source wire) (route : TransferPartSource) :
    route.Names (rebuildSource artifact source wire) ↔ route.Names source := by
  have hpeer : (rebuildSource artifact source wire).peer.peerId = source.peer.peerId := h.peerId
  have hreplica : (rebuildSource artifact source wire).replica.replicaId =
      source.replica.replicaId := h.replicaId
  rw [TransferPartSource.Names, hpeer, hreplica, TransferPartSource.Names]

/-- The source of a route is the one that was built of it. -/
theorem find?_zipWith_rebuildSource (h : List.Forall₂ (EncodesSource ports) sources wires)
    (artifact : ArtifactRef) (route : TransferPartSource) :
    (sources.find? (route.Names ·) = none →
      (List.zipWith (rebuildSource artifact) sources wires).find? (route.Names ·) = none) ∧
    ∀ source, sources.find? (route.Names ·) = some source → ∃ wire ∈ wires,
      EncodesSource ports source wire ∧
      (List.zipWith (rebuildSource artifact) sources wires).find? (route.Names ·) =
        some (rebuildSource artifact source wire) := by
  induction h with
  | nil => exact ⟨fun _ => rfl, fun source hsource => by cases hsource⟩
  | @cons source wire sources wires hsource _ ih =>
    rw [List.zipWith_cons_cons]
    simp only [List.find?_cons, names_rebuildSource hsource]
    by_cases hnames : route.Names source
    · rw [decide_eq_true hnames]
      constructor
      · intro hnone
        cases hnone
      · intro source' hsource'
        obtain rfl := Option.some.inj hsource'
        exact ⟨wire, List.mem_cons_self, hsource, rfl⟩
    · rw [decide_eq_false hnames]
      refine ⟨ih.1, fun source' hsource' => ?_⟩
      obtain ⟨wire', hwire', hencodes, hfound⟩ := ih.2 source' hsource'
      exact ⟨wire', List.mem_cons_of_mem _ hwire', hencodes, hfound⟩

theorem transferPath_rebuildSource (artifact : ArtifactRef) (source : TransferSource)
    (wire : ArtifactTransferSource) :
    (rebuildSource artifact source wire).transferPath = source.transferPath := by
  have hkind : (rebuildSource artifact source wire).peer.kind =
      peerKindOf source.transferPath := rfl
  rw [TransferSource.transferPath, hkind]
  cases source.transferPath with
  | lanDirect => rfl
  | userProvidedObjectStore => rfl

/-- A source that passes the checks of the plan passes them when the agent has built it. -/
theorem RouteSource.rebuild {plan plan' : TransferPlan} {route : TransferPartSource}
    (h : RouteSource plan nowUnixMs route source) (hencodes : EncodesSource ports source wire)
    (haccepted : checkSourcePath nowUnixMs wire = .ok ()) (hcomplete : wire.IsComplete)
    (hartifact : plan'.artifact = plan.artifact)
    (hvalid : validateTransferArtifactRef plan.artifact = .ok ())
    (hdestination : plan'.destinationPeerId = plan.destinationPeerId)
    (hfound : plan'.source route = some (rebuildSource plan.artifact source wire)) :
    RouteSource plan' nowUnixMs route (rebuildSource plan.artifact source wire) where
  found := hfound
  peer := by
    refine failIf_eq_ok.2 ?_
    rintro (hempty | hempty | hempty)
    · exact hcomplete.1 hempty
    · exact (by decide : "control-plane-authorized" ≠ "") hempty
    · exact (by decide : "workspace" ≠ "") hempty
  replica := by
    refine except_bind_eq_ok.2 ⟨(), hvalid, failIf_eq_ok.2 ?_⟩
    obtain ⟨hpeer, hreplica, hlocator, -⟩ := hcomplete
    rintro (hempty | hempty | hprotocol | hplain)
    · exact hreplica hempty
    · exact hpeer hempty
    · exact hprotocol rfl
    · exact Bool.false_ne_true (hplain.symm.trans hlocator)
  path := by
    rw [transferPath_rebuildSource]
    cases hpath : source.transferPath with
    | lanDirect => simp [rebuildSource, hpath, sourceWith, peerKindOf, validateTransferPath]
    | userProvidedObjectStore =>
      rw [validateTransferPath, except_bind_eq_ok]
      simp [rebuildSource, hpath, sourceWith, peerKindOf]
  ticket := h.ticket
  current := by
    have hcurrent := h.ticketCurrent
    have hexpiry := locatorExpiry_of_checkSourcePath hencodes haccepted
    cases hpath : source.transferPath with
    | lanDirect => simpa [rebuildSource, hpath, sourceWith] using hcurrent
    | userProvidedObjectStore =>
      simpa [rebuildSource, hpath, sourceWith] using ⟨hcurrent, hexpiry hpath⟩
  artifact := hartifact.symm
  peerId := rfl
  ticketArtifact := h.ticketArtifact.trans hartifact.symm
  ticketSource := h.ticketSource
  ticketDestination := h.ticketDestination.trans hdestination.symm
  ticketCurrent := h.ticketCurrent

end Sources

/-! ### The plan that the agent builds -/

/-- The agent builds parts that have every byte once and the digests of the manifest, and a plan for
the artifact of the message that is valid. -/
def Rebuilds (ports : TicketPorts) (nodeId : String) (nowUnixMs : Nat)
    (manifest : TransferManifest) (spec : ArtifactTransferSpec) : Prop :=
  ∃ session, transferSession ports nodeId nowUnixMs spec = .ok session ∧
    (∀ byte, session.manifest.parts.countP (·.Contains byte) =
      if byte < spec.sizeBytes then 1 else 0) ∧
    session.manifest.parts.map (·.digest) = manifest.parts.map (·.digest) ∧
    session.plan.validate session.manifest nowUnixMs = .ok () ∧
    artifactRefFromTransferSpec spec = .ok session.plan.artifact

/-- The manifest of a plan with parts of one size. -/
def equalManifest (plan : TransferPlan) (manifest : TransferManifest) : TransferManifest where
  artifact := plan.artifact
  partSizeBytes := manifest.partSizeBytes
  parts := equalParts plan.artifact.sizeBytes manifest.partSizeBytes
    (manifest.parts.map (·.digest))

/-- The plans that the agent can build: the artifact is generic, the tickets are signed, there are
as many parts as parts of one size, their offsets have 64 bits, and the tickets allow their
bytes. -/
structure Rebuildable (ports : TicketPorts) (nowUnixMs : Nat) (plan : TransferPlan)
    (manifest : TransferManifest) : Prop where
  kind : plan.artifact.kind = .generic
  tickets : ∀ source ∈ plan.sources, verifyTicket ports.signature source.ticket = .ok ()
  count : manifest.parts.length = partCount plan.artifact.sizeBytes manifest.partSizeBytes
  offsets : manifest.parts.length * manifest.partSizeBytes < 2 ^ 64
  budgets : Fits (equalManifest plan manifest) plan.ticketOf plan.partSources ⟨∅, ∅⟩

section Plans

variable {ports : TicketPorts} {nodeId : String} {nowUnixMs : Nat} {plan : TransferPlan}
  {manifest : TransferManifest}

section

variable (h : Encodes ports plan manifest spec) (hvalid : plan.artifact.validate = .ok ())

include h hvalid

/-- The artifact of the message is that of the plan. -/
theorem artifactRefFromTransferSpec_eq : artifactRefFromTransferSpec spec = .ok plan.artifact := by
  have hkind := ArtifactRef.kind_of_validate hvalid
  have hdigest := manifestDigestFromProto_getD (ArtifactRef.manifestDigest_of_validate hvalid)
  rw [artifactRefFromTransferSpec, h.artifactKind, artifactKindFromProto, hkind, h.artifactUri,
    h.digest, h.sizeBytes, h.manifestDigest, hdigest]
  change ((plan.artifact.validate.mapError _) >>= fun _ => pure plan.artifact) = _
  rw [hvalid]
  rfl

/-- The agent takes the artifact for a generic one. -/
theorem transferArtifact_eq : transferArtifact spec = { plan.artifact with kind := .generic } := by
  have hdigest := manifestDigestFromProto_getD (ArtifactRef.manifestDigest_of_validate hvalid)
  rw [transferArtifact, h.artifactUri, h.digest, h.sizeBytes, h.manifestDigest, hdigest]

end

theorem digestHex_of_isDigest {digest : String} (h : isDigest digest = true) :
    ∃ hex, digestHex digest = some hex := by
  rw [isDigest, Bool.and_eq_true, Bool.and_eq_true, beq_iff_eq] at h
  exact ⟨_, if_pos h.1.1⟩

/-- The session that the agent makes of an accepted message. -/
def rebuiltSession (plan : TransferPlan) (spec : ArtifactTransferSpec) (hex : String) :
    TransferSession where
  sessionId := "artifact-" ++ hex
  manifest := ⟨transferArtifact spec, spec.partSizeBytes,
    spec.partDigests.zipIdx.map fun (digest, index) => partAt spec index digest⟩
  plan := ⟨"plan-" ++ hex, transferArtifact spec, plan.destinationPeerId,
    List.zipWith (rebuildSource (transferArtifact spec)) plan.sources spec.sources,
    plan.partSources⟩
  concurrency := 4

theorem transferSession_eq_ok (h : Encodes ports plan manifest spec)
    (haccepted : TransferAccepted nowUnixMs spec) {session : TransferSession} :
    transferSession ports nodeId nowUnixMs spec = .ok session ↔
      (∀ source ∈ plan.sources, verifyTicket ports.signature source.ticket = .ok ()) ∧
      spec.partDigests.length = partCount spec.sizeBytes spec.partSizeBytes ∧
      ∃ hex, session = rebuiltSession plan spec hex ∧ digestHex spec.digest = some hex := by
  have hroutes : (spec.partSources.map fun route =>
      (⟨route.partIndex, route.peerId, route.replicaId⟩ : TransferPartSource)) =
      plan.partSources := by
    rw [h.partSources, List.map_map]
    exact List.map_id _
  simp only [transferSession, buildTransferSources, except_bind_eq_ok, except_pure_eq_ok,
    foundOr_eq_ok, failIf_eq_ok, buildParts_eq_ok, mapM_buildSource_eq_ok h.sources haccepted.paths,
    if_neg haccepted.destination, hroutes]
  constructor
  · rintro ⟨hex, hhex, _, ⟨hcount, rfl⟩, _, ⟨_, -, htickets, rfl⟩, rfl⟩
    refine ⟨htickets, hcount, hex, ?_, hhex⟩
    rw [rebuiltSession, h.destinationPeerId]
  · rintro ⟨htickets, hcount, hex, rfl, hhex⟩
    refine ⟨hex, hhex, _, ⟨hcount, rfl⟩, _, ⟨(), haccepted.sources, htickets, rfl⟩, ?_⟩
    rw [rebuiltSession, h.destinationPeerId]

/-- The checks of the sources pass for the rebuilt plan as they do for the plan. -/
theorem validate_rebuilt_iff {manifest' : TransferManifest} (hex : String)
    (h : Encodes ports plan manifest spec) (haccepted : TransferAccepted nowUnixMs spec)
    (hartifact : transferArtifact spec = plan.artifact)
    (hplan : plan.validate manifest nowUnixMs = .ok ()) :
    (rebuiltSession plan spec hex).plan.validate manifest' nowUnixMs = .ok () ↔
      plan.validate manifest' nowUnixMs = .ok () := by
  obtain ⟨hmanifest, ⟨hplanId, hdestination, hartifact', hsources, -⟩, hroutes, -⟩ :=
    TransferPlan.validate_eq_ok.1 hplan
  have hvalid := (TransferManifest.validate_eq_ok.1 hmanifest).1
  rw [← hartifact'] at hvalid
  have hfind (route : TransferPartSource) :=
    find?_zipWith_rebuildSource h.sources (transferArtifact spec) route
  have hrebuilt (route : TransferPartSource) (hroute : route ∈ plan.partSources) :
      ∃ source, RouteSource (rebuiltSession plan spec hex).plan nowUnixMs route source := by
    obtain ⟨source, hsource⟩ := hroutes route hroute
    obtain ⟨wire, hwire, hencodes, hfound⟩ := (hfind route).2 source hsource.found
    rw [hartifact] at hfound
    refine ⟨_, hsource.rebuild hencodes (haccepted.paths wire hwire) (haccepted.complete wire hwire)
      hartifact hvalid rfl ?_⟩
    rw [← hfound, ← hartifact]
    rfl
  have htickets (route : TransferPartSource) :
      (rebuiltSession plan spec hex).plan.ticketOf route = plan.ticketOf route := by
    obtain ⟨hnone, hsome⟩ := hfind route
    cases hfound : plan.source route with
    | none =>
      rw [TransferPlan.ticketOf, TransferPlan.ticketOf, hfound]
      exact congrArg (Option.map _) (hnone hfound)
    | some source =>
      obtain ⟨wire, -, -, hfound'⟩ := hsome source hfound
      rw [TransferPlan.ticketOf, TransferPlan.ticketOf, hfound]
      have hmap := congrArg (Option.map TransferSource.ticket) hfound'
      exact hmap
  have hnamed : "plan-" ++ hex ≠ "" := fun hempty => by
    have hlength := congrArg String.length hempty
    exact absurd hlength (by simp)
  have hnonempty : (rebuiltSession plan spec hex).plan.sources.isEmpty ≠ true := by
    intro hempty
    rcases List.zipWith_eq_nil_iff.1 (List.isEmpty_iff.1 hempty) with hnil | hnil
    · exact hsources (List.isEmpty_iff.2 hnil)
    · exact haccepted.sources hnil
  rw [TransferPlan.validate_eq_ok, TransferPlan.validate_eq_ok]
  constructor
  · rintro ⟨hmanifest', ⟨-, -, hsame, -, hlength⟩, -, hfits⟩
    exact ⟨hmanifest', ⟨hplanId, hdestination, hartifact ▸ hsame, hsources, hlength⟩, hroutes,
      hfits.congr fun route _ => (htickets route).symm⟩
  · rintro ⟨hmanifest', ⟨-, -, hsame, -, hlength⟩, -, hfits⟩
    exact ⟨hmanifest', ⟨hnamed, hdestination, hartifact.trans hsame, hnonempty, hlength⟩, hrebuilt,
      hfits.congr fun route _ => htickets route⟩

/-- With parts of one size, a plan remains valid if its tickets allow their bytes. -/
theorem validate_equalManifest_iff (hplan : plan.validate manifest nowUnixMs = .ok ())
    (hcount : manifest.parts.length = partCount plan.artifact.sizeBytes manifest.partSizeBytes) :
    plan.validate (equalManifest plan manifest) nowUnixMs = .ok () ↔
      Fits (equalManifest plan manifest) plan.ticketOf plan.partSources ⟨∅, ∅⟩ := by
  obtain ⟨hmanifest, ⟨hplanId, hdestination, hartifact, hsources, hlength⟩, hroutes, -⟩ :=
    TransferPlan.validate_eq_ok.1 hplan
  obtain ⟨hvalid, hpartSize, hparts, -, hnumbered⟩ := TransferManifest.validate_eq_ok.1 hmanifest
  rw [← hartifact] at hvalid
  obtain ⟨_, -, hcontent⟩ := except_bind_eq_ok.1 hvalid
  have hlengths : (equalManifest plan manifest).parts.length = manifest.parts.length := by
    rw [equalManifest, equalParts, List.length_map, List.length_zipIdx, List.length_map]
  have hequal : (equalManifest plan manifest).validate = .ok () := by
    refine TransferManifest.validate_eq_ok.2 ⟨hvalid, hpartSize, ?_, ?_, ?_⟩
    · intro hnil
      rw [hnil] at hlengths
      exact hparts (List.length_eq_zero_iff.1 hlengths.symm)
    · refine tiles_equalParts (Nat.pos_of_ne_zero (failIf_eq_ok.1 hcontent))
        (Nat.pos_of_ne_zero hpartSize) ?_
      rw [List.length_map, hcount]
    · exact numbered_zipIdx (isDigest_of_numbered hnumbered)
  rw [TransferPlan.validate_eq_ok]
  exact ⟨fun h => h.2.2.2, fun h => ⟨hequal, ⟨hplanId, hdestination, rfl, hsources,
    hlength.trans hlengths.symm⟩, hroutes, h⟩⟩

/-- The agent builds a valid plan for the artifact of the message exactly for the plans that it can
build. -/
theorem transferSession_valid_iff {expectedRuntime runtime : Identity} {assignment : WireAssignment}
    (hplan : plan.validate manifest nowUnixMs = .ok ()) (h : Encodes ports plan manifest spec)
    (hspec : spec ∈ assignment.artifacts)
    (haccepted : validateAssignmentPayload expectedRuntime assignment nowUnixMs = .ok runtime)
    (hsize : spec.sizeBytes ≤ u64Max) (hpartSize : spec.partSizeBytes ≤ u64Max) :
    Rebuilds ports nodeId nowUnixMs manifest spec ↔ Rebuildable ports nowUnixMs plan manifest := by
  have haccepted := transferAccepted_of_mem haccepted hspec
  obtain ⟨hmanifest, ⟨-, -, hartifact, -, -⟩, -, -⟩ := TransferPlan.validate_eq_ok.1 hplan
  obtain ⟨hvalid, -, -, -, hnumbered⟩ := TransferManifest.validate_eq_ok.1 hmanifest
  rw [← hartifact] at hvalid
  obtain ⟨_, hvalid, -⟩ := except_bind_eq_ok.1 hvalid
  rw [mapError_eq_ok] at hvalid
  have hidentity := artifactRefFromTransferSpec_eq h hvalid
  have htransfer := transferArtifact_eq h hvalid
  have hlength : spec.partDigests.length = manifest.parts.length := by
    rw [h.partDigests, List.length_map]
  have hcount : spec.partDigests.length = partCount spec.sizeBytes spec.partSizeBytes ↔
      manifest.parts.length = partCount plan.artifact.sizeBytes manifest.partSizeBytes := by
    rw [hlength, h.sizeBytes, h.partSizeBytes]
  have hparts (hoffsets : spec.partDigests.length * spec.partSizeBytes < 2 ^ 64)
      (hgeneric : transferArtifact spec = plan.artifact) (hex : String) :
      (rebuiltSession plan spec hex).manifest = equalManifest plan manifest := by
    rw [rebuiltSession, map_partAt hoffsets, hgeneric, h.sizeBytes, h.partSizeBytes, h.partDigests]
    rfl
  constructor
  · rintro ⟨session, hsession, -, -, hvalidated, hidentity'⟩
    obtain ⟨htickets, hcounted, hex, rfl, -⟩ := (transferSession_eq_ok h haccepted).1 hsession
    have hgeneric : transferArtifact spec = plan.artifact :=
      Except.ok.inj (hidentity'.symm.trans hidentity)
    have htiles := (TransferManifest.validate_eq_ok.1
      (TransferPlan.validate_eq_ok.1 hvalidated).1).2.2.2.1
    have hoffsets := offsets_lt_of_tiles (Nat.pos_of_ne_zero haccepted.sizes.1)
      (Nat.pos_of_ne_zero haccepted.sizes.2) hsize hpartSize hcounted htiles
    have hequal := (validate_rebuilt_iff hex h haccepted hgeneric hplan).1 hvalidated
    rw [hparts hoffsets hgeneric] at hequal
    refine ⟨?_, htickets, hcount.1 hcounted, ?_,
      (validate_equalManifest_iff hplan (hcount.1 hcounted)).1 hequal⟩
    · exact congrArg ArtifactRef.kind (hgeneric.symm.trans htransfer)
    · rwa [hlength, h.partSizeBytes] at hoffsets
  · rintro ⟨hkind, htickets, hcounted, hoffsets, hbudgets⟩
    have hequal := (validate_equalManifest_iff hplan hcounted).2 hbudgets
    have hgeneric : transferArtifact spec = plan.artifact := by rw [htransfer, ← hkind]
    rw [← hlength, ← h.partSizeBytes] at hoffsets
    obtain ⟨hex, hhex⟩ := digestHex_of_isDigest haccepted.digest
    have hsession : transferSession ports nodeId nowUnixMs spec =
        .ok (rebuiltSession plan spec hex) :=
      (transferSession_eq_ok h haccepted).2 ⟨htickets, hcount.2 hcounted, hex, rfl, hhex⟩
    rw [← hparts hoffsets hgeneric hex] at hequal
    have hvalidated := (validate_rebuilt_iff hex h haccepted hgeneric hplan).2 hequal
    have htiles : Tiles 0 (rebuiltSession plan spec hex).manifest.parts spec.sizeBytes :=
      (TransferManifest.validate_eq_ok.1 (TransferPlan.validate_eq_ok.1 hvalidated).1).2.2.2.1
    refine ⟨_, hsession, fun byte => ?_, ?_, hvalidated,
      hidentity.trans (congrArg Except.ok hgeneric.symm)⟩
    · have hcontains := (htiles.countP_contains byte).2
      simpa using hcontains
    · rw [hparts hoffsets hgeneric]
      exact map_digest_equalParts _

end Plans

/-! ### A transfer -/

/-- A digest of zeros, or of ones. -/
def stagedDigest (digit : Char) : String := "sha256:" ++ String.ofList (List.replicate 64 digit)

variable (kind : String)

/-- An artifact of four bytes. -/
def stagedArtifact : ArtifactRef where
  uri := "artifact://sha256/" ++ String.ofList (List.replicate 64 '0')
  digest := stagedDigest '0'
  sizeBytes := 4
  kind := ⟨kind⟩
  manifestDigest := none

/-- The signature of the ticket for the two kinds of the samples, with a key of 32 bytes `7`. -/
def stagedSignature : String :=
  if kind = "generic" then "sha256:2e8647230e976bde9f0dff3aef4166be4a1d04984049c9a48916c7fe5527c421"
  else "sha256:26d05e33070769df805244385f7f21e5c5d09735ac142011b18b6826adeda9be"

def stagedTicket : TransferTicket :=
  ⟨"ticket-1", stagedArtifact kind, "seed-1", "node-cache-1", BTreeSet.insertList ∅ [0, 1], 5000, 4,
    stagedSignature kind⟩

/-- The text of a ticket. -/
def ticketText (ticket : TransferTicket) : String :=
  "\x7b\"ticket_id\":\"" ++ ticket.ticketId ++ "\",\"artifact\":\x7b\"uri\":\"" ++
    ticket.artifact.uri ++ "\",\"digest\":\"" ++ ticket.artifact.digest ++ "\",\"size_bytes\":" ++
    toString ticket.artifact.sizeBytes ++ ",\"kind\":\"" ++ ticket.artifact.kind.value ++
    "\"\x7d,\"source_peer_id\":\"" ++ ticket.sourcePeerId ++ "\",\"destination_peer_id\":\"" ++
    ticket.destinationPeerId ++ "\",\"allowed_parts\":[" ++
    ",".intercalate (ticket.allowedParts.toList.map toString) ++ "],\"expires_at_unix_ms\":" ++
    toString ticket.expiresAtUnixMs ++ ",\"max_bytes\":" ++ toString ticket.maxBytes ++
    ",\"signature\":\"" ++ ticket.signature ++ "\"\x7d"

def stagedWire : ArtifactTransferSource :=
  ⟨"seed-1", "replica-1", "https://artifact.example/blob", ticketText (stagedTicket kind), 1, 0⟩

/-- Two parts from one seed. -/
def stagedPlan : TransferPlan where
  planId := "plan-1"
  artifact := stagedArtifact kind
  destinationPeerId := "node-cache-1"
  sources :=
    [sourceWith (stagedArtifact kind) (stagedWire kind) .centralSeed .lanDirect (stagedTicket kind)]
  partSources := [⟨0, "seed-1", "replica-1"⟩, ⟨1, "seed-1", "replica-1"⟩]

def stagedManifest : TransferManifest :=
  ⟨stagedArtifact kind, 2, [⟨0, 0, 2, stagedDigest '1'⟩, ⟨1, 2, 4, stagedDigest '2'⟩]⟩

def stagedSpec : ArtifactTransferSpec where
  artifactUri := (stagedArtifact kind).uri
  digest := stagedDigest '0'
  sizeBytes := 4
  manifestDigest := ""
  replicaUri := ""
  partSizeBytes := 2
  partDigests := [stagedDigest '1', stagedDigest '2']
  sources := [stagedWire kind]
  partSources := [⟨0, "seed-1", "replica-1"⟩, ⟨1, "seed-1", "replica-1"⟩]
  destinationPeerId := "node-cache-1"
  artifactKind := kind

/-- Only the ticket of the sample can be read, and it is the only one that is signed. -/
def stagedPorts : TicketPorts where
  parse text :=
    if text = ticketText (stagedTicket kind) then .ok (stagedTicket kind) else .error
      "expected value"
  signature ticket :=
    if ticketText ticket = ticketText { stagedTicket kind with signature := "" } then
      stagedSignature kind
    else ""

def stagedAssignment : WireAssignment where
  assignmentId := "assignment-1"
  runtime := some ⟨some ⟨"runtime-1", 1⟩⟩
  operation := some ⟨"operation-1", 1⟩
  attemptId := "attempt-1"
  lease := none
  workloadIdentity := some ⟨some ⟨"workload-1", 1⟩, some ⟨some ⟨"runtime-1", 1⟩⟩, some ⟨30, 0⟩⟩
  profile := some ⟨stagedDigest '3', stagedDigest '4'⟩
  desiredState := 1
  artifacts := [stagedSpec kind]
  localArtifacts := []

theorem encodesSource_stagedWire :
    EncodesSource (stagedPorts kind)
      (sourceWith (stagedArtifact kind) (stagedWire kind) .centralSeed .lanDirect
        (stagedTicket kind))
      (stagedWire kind) where
  peerId := rfl
  replicaId := rfl
  locator := rfl
  ticket := by simp [stagedPorts, stagedWire, sourceWith]
  path := rfl
  expiry := nofun

theorem encodes_stagedSpec :
    Encodes (stagedPorts kind) (stagedPlan kind) (stagedManifest kind) (stagedSpec kind) :=
  ⟨rfl, rfl, rfl, rfl, rfl, rfl, rfl, rfl, rfl, .cons (encodesSource_stagedWire kind) .nil⟩

/-- A generic artifact is transferred. -/
theorem rebuilds_generic :
    Rebuilds (stagedPorts "generic") "node-1" 1000 (stagedManifest "generic")
      (stagedSpec "generic") := by
  have hplan : (stagedPlan "generic").validate (stagedManifest "generic") 1000 = .ok () := by
    decide +kernel
  have haccepted : validateAssignmentPayload ⟨"runtime-1", 1⟩ (stagedAssignment "generic") 1000 =
      .ok ⟨"runtime-1", 1⟩ := by decide +kernel
  have hcount : (stagedManifest "generic").parts.length = partCount 4 2 := by decide
  have htickets : verifyTicket (stagedPorts "generic").signature (stagedTicket "generic") =
      .ok () := by decide +kernel
  have hbudgets := (validate_equalManifest_iff hplan hcount).1 (by decide +kernel)
  exact (transferSession_valid_iff hplan (encodes_stagedSpec _) List.mem_cons_self haccepted
    (by decide) (by decide)).2
      ⟨rfl, List.forall_mem_singleton.2 htickets, hcount, by decide, hbudgets⟩

/-- An artifact of another kind is taken for a generic one, for which its ticket is not valid. -/
theorem not_rebuilds_producer_kind :
    (stagedPlan "producer.bundle.v2").validate (stagedManifest "producer.bundle.v2") 1000 =
        .ok () ∧
      Encodes (stagedPorts "producer.bundle.v2") (stagedPlan "producer.bundle.v2")
        (stagedManifest "producer.bundle.v2") (stagedSpec "producer.bundle.v2") ∧
      stagedSpec "producer.bundle.v2" ∈ (stagedAssignment "producer.bundle.v2").artifacts ∧
      validateAssignmentPayload ⟨"runtime-1", 1⟩ (stagedAssignment "producer.bundle.v2") 1000 =
        .ok ⟨"runtime-1", 1⟩ ∧
      ¬ Rebuilds (stagedPorts "producer.bundle.v2") "node-1" 1000
        (stagedManifest "producer.bundle.v2") (stagedSpec "producer.bundle.v2") := by
  refine ⟨by decide +kernel, encodes_stagedSpec _, List.mem_cons_self, by decide +kernel, ?_⟩
  rintro ⟨session, hsession, -, -, hvalid, -⟩
  have hrefused : (transferSession (stagedPorts "producer.bundle.v2") "node-1" 1000
      (stagedSpec "producer.bundle.v2")).toOption.map
        (fun session => session.plan.validate session.manifest 1000) =
      some (.error (.authorization
        "TransferTicket does not authorize the planned part route")) := by decide +kernel
  rw [hsession] at hrefused
  cases (Option.some.inj hrefused).symm.trans hvalid

/-! ### The routes of a plan -/

/-- The parts of a valid manifest are counted from zero and share out the bytes of the artifact.  A
plan that is valid with it has one route for each of them, to a source of the plan. -/
theorem parts_routed_once (manifest : TransferManifest) (hcount : manifest.parts.length < 2 ^ 32)
    (hvalid : manifest.validate = .ok ()) :
    manifest.parts.map (·.index) = List.range manifest.parts.length ∧
    Tiles 0 manifest.parts manifest.artifact.sizeBytes ∧
    (∀ part ∈ manifest.parts, part.start < part.endExclusive) ∧
    (∀ byte, manifest.parts.countP (·.Contains byte) =
      if byte < manifest.artifact.sizeBytes then 1 else 0) ∧
    ∀ (plan : TransferPlan) (nowUnixMs : Nat), plan.validate manifest nowUnixMs = .ok () →
      ∀ part ∈ manifest.parts, ∃ route source,
        plan.partSources.filter (·.partIndex = part.index) = [route] ∧
        plan.route part.index = some route ∧ plan.source route = some source ∧
        source ∈ plan.sources := by
  obtain ⟨-, -, -, htiles, hnumbered⟩ := TransferManifest.validate_eq_ok.1 hvalid
  have hindices : manifest.parts.map (·.index) = List.range manifest.parts.length := by
    rw [hnumbered.map_index (by omega), List.range_eq_range']
  refine ⟨hindices, htiles, fun part => htiles.start_lt_of_mem, fun byte => ?_,
    fun plan nowUnixMs hplan part hpart => ?_⟩
  · simpa only [Nat.zero_le, true_and] using (htiles.countP_contains byte).2
  · obtain ⟨-, ⟨-, -, -, -, hlength⟩, hsources, hfits⟩ := TransferPlan.validate_eq_ok.1 hplan
    obtain ⟨⟨-, hnodup⟩, hparts⟩ := hfits.fresh
    -- as many different indices as there are parts
    have hperm : (plan.partSources.map (·.partIndex)).Perm (manifest.parts.map (·.index)) :=
      (List.subperm_of_subset hnodup (List.forall_mem_map.2 hparts)).perm_of_length_le
        (by rw [List.length_map, List.length_map, hlength])
    have hone := List.count_eq_one_of_mem hnodup (hperm.mem_iff.2 (List.mem_map_of_mem hpart))
    rw [List.count, List.countP_map, List.countP_eq_length_filter, List.length_eq_one_iff] at hone
    obtain ⟨route, hroute⟩ := hone
    have hfound : plan.route part.index = some route := by
      rw [TransferPlan.route, ← List.head?_filter]
      exact congrArg List.head? hroute
    have hmem : route ∈ plan.partSources := List.mem_of_find?_eq_some hfound
    obtain ⟨source, hsource⟩ := hsources route hmem
    exact ⟨route, source, hroute, hfound, hsource.found, List.mem_of_find?_eq_some hsource.found⟩

theorem parts_routed_once_staged :
    (stagedPlan "generic").validate (stagedManifest "generic") 1000 = .ok () ∧
      ∃ route, (stagedPlan "generic").route 1 = some route := by
  have hplan : (stagedPlan "generic").validate (stagedManifest "generic") 1000 = .ok () := by
    decide +kernel
  obtain ⟨-, -, -, -, hrouted⟩ :=
    parts_routed_once (stagedManifest "generic") (by decide) (by decide +kernel)
  obtain ⟨route, -, -, hroute, -⟩ :=
    hrouted _ _ hplan _ (List.mem_cons_of_mem _ List.mem_cons_self)
  exact ⟨hplan, route, hroute⟩

end CyreneKernel.Agent
