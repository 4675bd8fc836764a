import CyreneKernel.Contract.Artifact

/-!
# The catalog of connector operations

An authority grants the operations of its built-in lists, or those of a manifest whose digest was
approved.  The connector operator may request every operation of the catalog.  The two automation
roles belong to ordinary members, and a manifest cannot give them more than the built-in lists do.

The hash of the bytes and their decoding are parameters.

## Main definitions

* `ConnectorOperationCatalog`, `fromApprovedManifest`.
* `RawManifest.Lists`: the pairs that a manifest lists.

## Main results

* `fromApprovedManifest_widens_no_role`
-/

namespace CyreneKernel.Connector

open Lib

/-! ### The built-in lists -/

def navigatorConnectorOperatorRole : String := "navigator.connector.operator.v1"

def navigatorAutomationViewerRole : String := "navigator.automation.viewer.v1"

def navigatorOfficeTaskWriterRole : String := "navigator.office.task_writer.v1"

def supportedConnectorOperationIds : List String :=
  ["azure_devops.observations.poll", "bilibili.auth.qr.begin", "bilibili.auth.qr.status",
    "bilibili.comment.create", "bilibili.comments.list", "bilibili.dm.list", "bilibili.dm.read",
    "bilibili.dm.send", "bilibili.dynamic.read", "bilibili.dynamic.publish",
    "bilibili.dynamics.list", "bilibili.search", "bilibili.user.find", "bilibili.video.read",
    "cloud.operation.cancel", "cloud.operation.logs.read", "cloud.operation.status.read",
    "cloud.provider.health.read", "cloud.resource.create", "cloud.resource.delete",
    "cloud.resource.deploy", "cloud.resource.get", "cloud.resource.restart", "cloud.resource.start",
    "cloud.resource.stop", "cloud.resource.update", "cloud.resources.list",
    "cloud.vendor.cli.execute", "computer.command.execute", "computer.directory.list",
    "computer.file.read", "computer.file.write", "github.actions.job.logs.read",
    "github.actions.jobs.list", "github.actions.rerun_failed", "github.actions.runs.list",
    "github.branch.create", "github.branch.delete", "github.branch.get", "github.branches.list",
    "github.ci.status", "github.file.commit", "github.file.get", "github.issue.comment.create",
    "github.issue.get", "github.issue.state.update", "github.issues.search",
    "github.pull_request.draft.create", "github.pull_request.draft.find", "github.pull_request.get",
    "github.pull_requests.list", "github.repository.get", "github.repository.list",
    "github.vendor.cli.execute", "huggingface.datasets.list", "huggingface.file.download",
    "huggingface.file.upload", "huggingface.models.list", "huggingface.repo.get",
    "huggingface.spaces.list", "huggingface.vendor.cli.execute", "msteams.message.reply",
    "microsoft_graph.calendar.calendars.list", "microsoft_graph.calendar.event.create",
    "microsoft_graph.calendar.event.delete", "microsoft_graph.calendar.event.get",
    "microsoft_graph.calendar.event.update", "microsoft_graph.calendar.events.list",
    "microsoft_graph.calendar.freebusy.get", "microsoft_graph.mail.draft.create",
    "microsoft_graph.mail.draft.delete", "microsoft_graph.mail.draft.update",
    "microsoft_graph.mail.drafts.list", "microsoft_graph.mail.folders.list",
    "microsoft_graph.mail.message.get", "microsoft_graph.mail.message.send",
    "microsoft_graph.mail.messages.list", "microsoft_graph.planner.plan.get",
    "microsoft_graph.planner.plans.list", "microsoft_graph.planner.task.create",
    "microsoft_graph.planner.task.get", "microsoft_graph.planner.task.update",
    "microsoft_graph.planner.tasks.list", "microsoft_graph.sharepoint.drive.items.list",
    "microsoft_graph.sharepoint.drives.list", "microsoft_graph.sharepoint.list.get",
    "microsoft_graph.sharepoint.list.items.delta", "microsoft_graph.sharepoint.site.get",
    "microsoft_graph.todo.lists.list", "microsoft_graph.todo.task.create",
    "microsoft_graph.todo.task.delete", "microsoft_graph.todo.task.get",
    "microsoft_graph.todo.task.update", "microsoft_graph.todo.tasks.list"]

def automationViewerConnectorOperationIds : List String :=
  ["microsoft_graph.planner.plan.get", "microsoft_graph.planner.tasks.list",
    "microsoft_graph.planner.task.get", "microsoft_graph.sharepoint.site.get",
    "microsoft_graph.sharepoint.list.get", "microsoft_graph.sharepoint.list.items.delta"]

def officeTaskWriterConnectorOperationIds : List String :=
  ["microsoft_graph.planner.plan.get", "microsoft_graph.planner.plans.list",
    "microsoft_graph.planner.tasks.list", "microsoft_graph.planner.task.get",
    "microsoft_graph.planner.task.create", "microsoft_graph.planner.task.update",
    "microsoft_graph.sharepoint.site.get", "microsoft_graph.sharepoint.list.get",
    "microsoft_graph.sharepoint.list.items.delta", "microsoft_graph.sharepoint.drives.list",
    "microsoft_graph.sharepoint.drive.items.list", "microsoft_graph.todo.lists.list",
    "microsoft_graph.todo.tasks.list", "microsoft_graph.todo.task.get",
    "microsoft_graph.todo.task.create", "microsoft_graph.todo.task.update",
    "microsoft_graph.todo.task.delete"]

def automationTransportConnectorOperationIds : List String :=
  ["msteams.message.reply"]

/-- The part of an operation id before its first dot. -/
def namespaceOf (operationId : String) : String :=
  String.ofList (operationId.toList.takeWhile (· ≠ '.'))

section BuiltIn

variable (providerId operationId : String)

def isSupportedConnectorOperation : Bool :=
  if operationId ∉ supportedConnectorOperationIds ∨ '.' ∉ operationId.toList then false
  else match namespaceOf operationId with
    | "github" | "bilibili" | "huggingface" | "msteams" | "computer" | "azure_devops"
    | "microsoft_graph" => providerId = namespaceOf operationId
    | "cloud" =>
      if operationId = "cloud.resource.restart" then providerId = "runpod"
      else providerId ∈ ["azure", "gcp", "runpod"]
    | _ => false

def isAutomationViewerConnectorOperation : Bool :=
  operationId ∈ automationViewerConnectorOperationIds ∧
    isSupportedConnectorOperation providerId operationId

def isOfficeTaskWriterConnectorOperation : Bool :=
  providerId = "microsoft_graph" ∧ operationId ∈ officeTaskWriterConnectorOperationIds ∧
    isSupportedConnectorOperation providerId operationId

def isAutomationTransportConnectorOperation : Bool :=
  providerId = "msteams" ∧ operationId ∈ automationTransportConnectorOperationIds ∧
    isSupportedConnectorOperation providerId operationId

end BuiltIn

/-! ### Manifests -/

inductive ConnectorCatalogError
  | approvedDigestInvalid
  | tooLarge
  | digestMismatch
  | malformed
  | unsupportedSchema
  | roleNameChanged
  | empty
  | operationRefused (operationId reason : String)
deriving DecidableEq

structure RawRoleNames where
  automationViewer : String
  officeTaskWriter : String
  operator : String

structure RawOperation where
  operationId : String
  providerIds : List String
  roles : List String
  automationTransport : Bool
  mutating : Option Bool

structure RawManifest where
  schemaVersion : String
  roles : RawRoleNames
  operations : List RawOperation

structure ManifestOperation where
  providerIds : BTreeSet String
  automationViewer : Bool
  officeTaskWriter : Bool

structure ApprovedManifest where
  digest : String
  operations : BTreeMap String ManifestOperation

/-- Without an approved manifest, the built-in lists apply. -/
structure ConnectorOperationCatalog where
  approved : Option ApprovedManifest

def providerServesNamespace (providerId ns : String) : Bool :=
  if ns = "cloud" then providerId ∈ ["azure", "gcp", "runpod"] else providerId = ns

def validOperationId (value : String) : Bool :=
  (bytesOf value).length ≤ 256 ∧ (bytesOf value).head?.any isAsciiLowercase ∧
    '.' ∈ value.toList ∧ (value.toList.splitOn '.').all fun part =>
      part ≠ [] ∧ (bytesOf (String.ofList part)).all fun byte =>
        isAsciiLowercase byte || isAsciiDigit byte || byte == 95

/-- The roles of a row are known and named once. -/
def acceptRoles : List String → BTreeSet String → Except String (BTreeSet String)
  | [], roles => .ok roles
  | role :: rest, roles => do
    failIf (role ∉ ["operator", "automationViewer", "officeTaskWriter"]) "it names an unknown role"
    failIf (role ∈ roles) "it repeats a role"
    acceptRoles rest (roles.insert role)

def acceptOperation (row : RawOperation) : Except String ManifestOperation := do
  failIf (validOperationId row.operationId = false) "the operation ID is malformed"
  let providerIds := BTreeSet.insertList ∅ row.providerIds
  failIf (providerIds.isEmpty ∨ providerIds.size ≠ row.providerIds.length)
    "the provider list is empty or repeats a provider"
  failIf (∃ providerId ∈ providerIds.toList,
      providerServesNamespace providerId (namespaceOf row.operationId) = false)
    "a provider is outside the operation's namespace"
  let roles ← acceptRoles row.roles ∅
  failIf ("operator" ∉ roles) "the connector operator role is missing"
  let isTransport : Bool := row.operationId ∈ automationTransportConnectorOperationIds
  failIf (row.automationTransport ≠ isTransport) "its transport flag differs from Platform's list"
  let automationViewer : Bool := "automationViewer" ∈ roles
  let officeTaskWriter : Bool := "officeTaskWriter" ∈ roles
  failIf (isTransport = false ∧ automationViewer ∧
      row.operationId ∉ automationViewerConnectorOperationIds)
    "it widens the automation viewer role"
  failIf (isTransport = false ∧ automationViewer ∧ row.mutating ≠ some false)
    "it gives the automation viewer role an operation that isn't read-only"
  failIf (isTransport = false ∧ officeTaskWriter ∧
      row.operationId ∉ officeTaskWriterConnectorOperationIds)
    "it widens the office task writer role"
  return ⟨providerIds, automationViewer, officeTaskWriter⟩

/-- Read the rows one after the other. -/
def acceptOperations : List RawOperation → BTreeMap String ManifestOperation →
    Except ConnectorCatalogError (BTreeMap String ManifestOperation)
  | [], operations => .ok operations
  | row :: rest, operations => do
    let operation ← (acceptOperation row).mapError (.operationRefused row.operationId)
    failIf (operations.contains row.operationId)
      (.operationRefused row.operationId "the operation is listed twice")
    acceptOperations rest (operations.insert row.operationId operation)

def encodeHex (bytes : List UInt8) : String :=
  let digit (n : Nat) := "0123456789abcdef".toList.getD n '0'
  String.ofList (bytes.flatMap fun byte : UInt8 =>
    [digit (byte.toNat / 16), digit (byte.toNat % 16)])

namespace ConnectorOperationCatalog

def builtin : ConnectorOperationCatalog := ⟨none⟩

section Manifest

variable (sha256 : List UInt8 → List UInt8) (fromSlice : List UInt8 → Option RawManifest)

/-- The catalog of a manifest with the approved digest. -/
def fromApprovedManifest (bytes : List UInt8) (approvedDigest : String) :
    Except ConnectorCatalogError ConnectorOperationCatalog := do
  failIf (isDigest approvedDigest = false) .approvedDigestInvalid
  failIf (bytes.length > 1024 * 1024) .tooLarge
  let digest := "sha256:" ++ encodeHex (sha256 bytes)
  failIf (digest ≠ approvedDigest) .digestMismatch
  let manifest ← foundOr (fromSlice bytes) .malformed
  failIf (manifest.schemaVersion ≠ "cyrene.connector-operations.v1") .unsupportedSchema
  failIf (manifest.roles.operator ≠ navigatorConnectorOperatorRole ∨
      manifest.roles.automationViewer ≠ navigatorAutomationViewerRole ∨
      manifest.roles.officeTaskWriter ≠ navigatorOfficeTaskWriterRole)
    .roleNameChanged
  failIf (manifest.operations = []) .empty
  let operations ← acceptOperations manifest.operations ∅
  return ⟨some ⟨digest, operations⟩⟩

end Manifest

end ConnectorOperationCatalog

def ApprovedManifest.operation (approved : ApprovedManifest) (providerId operationId : String) :
    Option ManifestOperation :=
  approved.operations[operationId]?.filter (providerId ∈ ·.providerIds)

namespace ConnectorOperationCatalog

variable (catalog : ConnectorOperationCatalog) (roles : BTreeSet String)
  (providerId operationId : String)

def isSupported : Bool :=
  match catalog.approved with
  | none => isSupportedConnectorOperation providerId operationId
  | some approved => (approved.operation providerId operationId).isSome

/-- The roles of a caller allow an operation of a provider. -/
def roleAllows : Bool :=
  match catalog.approved with
  | none => navigatorConnectorOperatorRole ∈ roles ∨
      isAutomationViewerConnectorOperation providerId operationId ∧
        navigatorAutomationViewerRole ∈ roles ∨
      isOfficeTaskWriterConnectorOperation providerId operationId ∧
        navigatorOfficeTaskWriterRole ∈ roles ∨
      isAutomationTransportConnectorOperation providerId operationId ∧
        (navigatorAutomationViewerRole ∈ roles ∨ navigatorOfficeTaskWriterRole ∈ roles)
  | some approved => (approved.operation providerId operationId).any fun operation =>
      navigatorConnectorOperatorRole ∈ roles ∨
        operation.automationViewer ∧ navigatorAutomationViewerRole ∈ roles ∨
        operation.officeTaskWriter ∧ navigatorOfficeTaskWriterRole ∈ roles

end ConnectorOperationCatalog

/-! ### What an accepted manifest allows -/

/-- A manifest lists a provider for an operation. -/
def RawManifest.Lists (manifest : RawManifest) (providerId operationId : String) : Prop :=
  ∃ row ∈ manifest.operations, row.operationId = operationId ∧ providerId ∈ row.providerIds

section Accepted

variable {row : RawOperation} {rows : List RawOperation} {operation : ManifestOperation}
  {operations operations' : BTreeMap String ManifestOperation} {providerId operationId : String}
  {roles : BTreeSet String}

/-- The providers of an accepted row serve its operation, and a row for one of the roles of members
is in the built-in list of the role. -/
structure Accepts (row : RawOperation) (operation : ManifestOperation) : Prop where
  providers : ∀ providerId, providerId ∈ operation.providerIds ↔ providerId ∈ row.providerIds
  serves : ∀ providerId ∈ operation.providerIds,
    providerServesNamespace providerId (namespaceOf row.operationId) = true
  viewer : operation.automationViewer → row.operationId ∉ automationTransportConnectorOperationIds →
    row.operationId ∈ automationViewerConnectorOperationIds
  writer : operation.officeTaskWriter → row.operationId ∉ automationTransportConnectorOperationIds →
    row.operationId ∈ officeTaskWriterConnectorOperationIds

theorem accepts_of_acceptOperation (h : acceptOperation row = .ok operation) :
    Accepts row operation := by
  simp only [acceptOperation, except_bind_eq_ok, failIf_eq_ok, except_pure_eq_ok, not_exists,
    not_and, Bool.not_eq_false, decide_eq_false_iff_not, decide_eq_true_eq, not_not,
    Std.ExtTreeSet.mem_toList] at h
  obtain ⟨-, -, -, -, -, hserves, roles, -, -, -, -, -, -, hviewer, -, -, -, hwriter, rfl⟩ := h
  refine ⟨by simp, hserves, fun hrole htransport => ?_, fun hrole htransport => ?_⟩
  · exact hviewer htransport (of_decide_eq_true hrole)
  · exact hwriter htransport (of_decide_eq_true hrole)

/-- All rows are accepted, and the operations are those of the rows. -/
theorem getElem?_of_acceptOperations (h : acceptOperations rows operations = .ok operations') :
    (∀ row ∈ rows, ∃ operation, acceptOperation row = .ok operation) ∧
      ∀ operationId operation, operations'[operationId]? = some operation ↔
        operations[operationId]? = some operation ∨
          ∃ row ∈ rows, row.operationId = operationId ∧ acceptOperation row = .ok operation := by
  induction rows generalizing operations with
  | nil =>
    obtain rfl := Except.ok.inj h
    simp only [List.not_mem_nil, false_implies, implies_true, false_and, exists_false, or_false,
      true_and, iff_self]
  | cons row rest ih =>
    simp only [acceptOperations, except_bind_eq_ok, mapError_eq_ok, failIf_eq_ok] at h
    obtain ⟨accepted, haccepted, -, hnew, hrest⟩ := h
    have hnone := Std.ExtTreeMap.getElem?_eq_none hnew
    obtain ⟨hall, hoperations⟩ := ih hrest
    refine ⟨List.forall_mem_cons.2 ⟨⟨accepted, haccepted⟩, hall⟩, fun operationId operation => ?_⟩
    rw [hoperations, BTreeMap.getElem?_insert, List.exists_mem_cons_iff]
    by_cases heq : row.operationId = operationId
    · rw [if_pos heq, ← heq, hnone, haccepted]
      simp only [Option.some.injEq, Except.ok.injEq, reduceCtorEq, true_and, false_or]
    · rw [if_neg heq]
      simp only [heq, false_and, false_or]

/-- The operations for members are in the built-in lists, each of one provider. -/
theorem supported_of_mem_lists :
    (∀ id ∈ automationTransportConnectorOperationIds,
      namespaceOf id = "msteams" ∧ isSupportedConnectorOperation "msteams" id) ∧
    ∀ id ∈ automationViewerConnectorOperationIds ++ officeTaskWriterConnectorOperationIds,
      namespaceOf id = "microsoft_graph" ∧ isSupportedConnectorOperation "microsoft_graph" id := by
  decide +kernel

/-- A member may request the operation of an accepted row by the built-in lists. -/
theorem Accepts.roleAllows_builtin (h : Accepts row operation)
    (hprovider : providerId ∈ operation.providerIds)
    (hroles : operation.automationViewer ∧ navigatorAutomationViewerRole ∈ roles ∨
      operation.officeTaskWriter ∧ navigatorOfficeTaskWriterRole ∈ roles) :
    isSupportedConnectorOperation providerId row.operationId ∧
      ConnectorOperationCatalog.builtin.roleAllows roles providerId row.operationId := by
  have hserves := h.serves providerId hprovider
  have hone {provider : String} (hne : provider ≠ "cloud")
      (hns : namespaceOf row.operationId = provider) : providerId = provider := by
    rw [providerServesNamespace, hns, if_neg hne] at hserves
    exact of_decide_eq_true hserves
  simp only [ConnectorOperationCatalog.roleAllows, ConnectorOperationCatalog.builtin,
    isAutomationViewerConnectorOperation, isOfficeTaskWriterConnectorOperation,
    isAutomationTransportConnectorOperation, decide_eq_true_eq]
  by_cases htransport : row.operationId ∈ automationTransportConnectorOperationIds
  · obtain ⟨hns, hsupported⟩ := supported_of_mem_lists.1 _ htransport
    obtain rfl := hone (by decide) hns
    have hmember := hroles.imp And.right And.right
    exact ⟨hsupported, .inr (.inr (.inr ⟨⟨rfl, htransport, hsupported⟩, hmember⟩))⟩
  · rcases hroles with ⟨hviewer, hrole⟩ | ⟨hwriter, hrole⟩
    · have hmem := h.viewer hviewer htransport
      obtain ⟨hns, hsupported⟩ := supported_of_mem_lists.2 _ (List.mem_append_left _ hmem)
      obtain rfl := hone (by decide) hns
      exact ⟨hsupported, .inr (.inl ⟨⟨hmem, hsupported⟩, hrole⟩)⟩
    · have hmem := h.writer hwriter htransport
      obtain ⟨hns, hsupported⟩ := supported_of_mem_lists.2 _ (List.mem_append_right _ hmem)
      obtain rfl := hone (by decide) hns
      exact ⟨hsupported, .inr (.inr (.inl ⟨⟨rfl, hmem, hsupported⟩, hrole⟩))⟩

end Accepted

open ConnectorOperationCatalog

section Approved

variable {sha256 : List UInt8 → List UInt8} {fromSlice : List UInt8 → Option RawManifest}
  {bytes : List UInt8} {approvedDigest : String} {catalog : ConnectorOperationCatalog}

/-- The catalog of a manifest has the operations of its rows, all of which are accepted. -/
theorem exists_of_fromApprovedManifest
    (h : fromApprovedManifest sha256 fromSlice bytes approvedDigest = .ok catalog) :
    ∃ manifest approved, fromSlice bytes = some manifest ∧ catalog = ⟨some approved⟩ ∧
      (∀ row ∈ manifest.operations, ∃ operation, acceptOperation row = .ok operation) ∧
      ∀ operationId operation, approved.operations[operationId]? = some operation ↔
        ∃ row ∈ manifest.operations, row.operationId = operationId ∧
          acceptOperation row = .ok operation := by
  simp only [fromApprovedManifest, except_bind_eq_ok, failIf_eq_ok, foundOr_eq_ok,
    except_pure_eq_ok] at h
  obtain ⟨-, -, -, -, -, -, manifest, hmanifest, -, -, -, -, -, -, operations, hrows, rfl⟩ := h
  obtain ⟨hall, hoperations⟩ := getElem?_of_acceptOperations hrows
  refine ⟨manifest, _, hmanifest, rfl, hall, fun operationId operation => ?_⟩
  simp only [hoperations, Std.ExtTreeMap.getElem?_empty, reduceCtorEq, false_or]

/-- An accepted manifest gives no role but that of the connector operator anything beyond the
built-in lists, and the connector operator the pairs that it lists. -/
theorem fromApprovedManifest_widens_no_role
    (h : fromApprovedManifest sha256 fromSlice bytes approvedDigest = .ok catalog)
    (roles : BTreeSet String) (providerId operationId : String) :
    (navigatorConnectorOperatorRole ∉ roles → catalog.isSupported providerId operationId →
      catalog.roleAllows roles providerId operationId →
        builtin.isSupported providerId operationId ∧
          builtin.roleAllows roles providerId operationId) ∧
    (navigatorConnectorOperatorRole ∈ roles →
      (catalog.roleAllows roles providerId operationId ↔
        ∃ manifest, fromSlice bytes = some manifest ∧ manifest.Lists providerId operationId)) := by
  obtain ⟨manifest, approved, hmanifest, rfl, hall, hoperations⟩ := exists_of_fromApprovedManifest h
  have hallows : ConnectorOperationCatalog.roleAllows ⟨some approved⟩ roles providerId operationId ↔
      ∃ operation row, row ∈ manifest.operations ∧ row.operationId = operationId ∧
        acceptOperation row = .ok operation ∧ providerId ∈ operation.providerIds ∧
          (navigatorConnectorOperatorRole ∈ roles ∨
            operation.automationViewer ∧ navigatorAutomationViewerRole ∈ roles ∨
            operation.officeTaskWriter ∧ navigatorOfficeTaskWriterRole ∈ roles) := by
    simp only [roleAllows, ApprovedManifest.operation, Option.any_eq_true,
      Option.filter_eq_some_iff, hoperations, decide_eq_true_eq, ← exists_and_right, and_assoc]
  constructor
  · intro hmember _ hrole
    obtain ⟨operation, row, hrow, rfl, haccepted, hprovider, hroles⟩ := hallows.1 hrole
    exact (accepts_of_acceptOperation haccepted).roleAllows_builtin hprovider
      (hroles.resolve_left hmember)
  · intro hoperator
    rw [hallows]
    constructor
    · rintro ⟨operation, row, hrow, hid, haccepted, hprovider, -⟩
      exact ⟨manifest, hmanifest, row, hrow, hid,
        ((accepts_of_acceptOperation haccepted).providers _).1 hprovider⟩
    · rintro ⟨_, hsame, row, hrow, hid, hprovider⟩
      obtain rfl := Option.mem_unique hmanifest hsame
      obtain ⟨operation, haccepted⟩ := hall row hrow
      exact ⟨operation, row, hrow, hid, haccepted,
        ((accepts_of_acceptOperation haccepted).providers _).2 hprovider, .inl hoperator⟩

end Approved

/-! ### A sample -/

/-- Members may answer a message, and the operator may also list the items of a provider that the
built-in lists do not know. -/
def demoManifest : RawManifest :=
  ⟨"cyrene.connector-operations.v1",
    ⟨navigatorAutomationViewerRole, navigatorOfficeTaskWriterRole, navigatorConnectorOperatorRole⟩,
    [⟨"msteams.message.reply", ["msteams"], ["operator", "automationViewer"], true, none⟩,
      ⟨"demo.items.list", ["demo"], ["operator"], false, none⟩]⟩

/-- The file of the manifest. -/
def demoBytes : List UInt8 :=
  bytesOf ("\x7b\"schemaVersion\":\"cyrene.connector-operations.v1\",\"roles\":\x7b" ++
    "\"automationViewer\":\"navigator.automation.viewer.v1\"," ++
    "\"officeTaskWriter\":\"navigator.office.task_writer.v1\"," ++
    "\"operator\":\"navigator.connector.operator.v1\"\x7d,\"operations\":[\x7b" ++
    "\"operationId\":\"msteams.message.reply\",\"providerIds\":[\"msteams\"]," ++
    "\"roles\":[\"operator\",\"automationViewer\"],\"automationTransport\":true\x7d,\x7b" ++
    "\"operationId\":\"demo.items.list\",\"providerIds\":[\"demo\"]," ++
    "\"roles\":[\"operator\"],\"automationTransport\":false\x7d]\x7d")

/-- SHA-256, on the file of the manifest. -/
def demoSha256 (bytes : List UInt8) : List UInt8 :=
  if bytes = demoBytes then
    [46, 215, 188, 252, 109, 61, 18, 69, 184, 219, 239, 52, 30, 36, 209, 224,
      228, 210, 0, 92, 97, 185, 66, 1, 98, 22, 99, 180, 122, 8, 226, 46]
  else []

def demoFromSlice (bytes : List UInt8) : Option RawManifest :=
  if bytes = demoBytes then some demoManifest else none

def demoDigest : String := "sha256:2ed7bcfc6d3d1245b8dbef341e24d1e0e4d2005c61b94201621663b47a08e22e"

/-- The manifest lets a member do what the built-in lists allow, and the operator what it lists. -/
theorem fromApprovedManifest_widens_no_role_demo :
    ∃ catalog, fromApprovedManifest demoSha256 demoFromSlice demoBytes demoDigest = .ok catalog ∧
      builtin.roleAllows (BTreeSet.insertList ∅ [navigatorAutomationViewerRole]) "msteams"
        "msteams.message.reply" ∧
      catalog.roleAllows (BTreeSet.insertList ∅ [navigatorConnectorOperatorRole]) "demo"
        "demo.items.list" ∧
      builtin.isSupported "demo" "demo.items.list" = false := by
  have hmember : (fromApprovedManifest demoSha256 demoFromSlice demoBytes demoDigest).toOption.any
      (fun catalog => catalog.isSupported "msteams" "msteams.message.reply" &&
        catalog.roleAllows (BTreeSet.insertList ∅ [navigatorAutomationViewerRole]) "msteams"
          "msteams.message.reply") = true := by
    decide +kernel
  cases hok : fromApprovedManifest demoSha256 demoFromSlice demoBytes demoDigest with
  | error e => rw [hok] at hmember; cases hmember
  | ok catalog =>
    rw [hok] at hmember
    obtain ⟨hsupported, hallows⟩ := Bool.and_eq_true_iff.1 hmember
    have hbuiltin := (fromApprovedManifest_widens_no_role hok _ _ _).1
      (by decide +kernel) hsupported
      hallows
    refine ⟨catalog, rfl, hbuiltin.2, ?_, by decide +kernel⟩
    refine ((fromApprovedManifest_widens_no_role hok _ _ _).2 (by decide +kernel)).2 ?_
    exact ⟨demoManifest, if_pos rfl, _, .tail _ (.head _), rfl, .head _⟩

end CyreneKernel.Connector
