import CyreneKernel.Contract.Lifecycle

/-!
# Provider snapshots

The complete observation a provider publishes: its resources, the workers it runs and the
endpoints they expose, with the interval in which the observation counts.
-/

namespace CyreneKernel

open Lib

/-- The authenticated caller of an action. -/
structure Principal where
  identity : Identity
deriving DecidableEq

def maxWorkersPerSnapshot : Nat := 4096

def maxEndpointsPerSnapshot : Nat := 4096

structure ProviderSnapshot where
  provider : Identity
  snapshotGeneration : Nat
  resources : List Resource
  workers : List Worker
  endpoints : List Endpoint
  sampledAtUnixMs : Nat
  expiresAtUnixMs : Nat
deriving DecidableEq

namespace ProviderSnapshot

/-- Validate the parts of one kind: each one, its provider, and that no id occurs twice. -/
def validateParts {α : Type} (provider : Identity) (validate : α → Except ContractError Unit)
    (providerOf : α → Identity) (idOf : α → String) (mismatch duplicate : ContractError)
    (parts : List α) : Except ContractError Unit :=
  validateDistinct idOf
    (fun part => do
      validate part
      if providerOf part ≠ provider then throw mismatch)
    duplicate parts ∅

def validate (snapshot : ProviderSnapshot) : Except ContractError Unit := do
  snapshot.provider.validate
  if snapshot.snapshotGeneration = 0 then
    throw ⟨"SNAPSHOT_GENERATION_INVALID", "provider snapshot generation must be non-zero"⟩
  if snapshot.expiresAtUnixMs ≤ snapshot.sampledAtUnixMs then
    throw ⟨"SNAPSHOT_EXPIRY_INVALID", "provider snapshot expiry must be after sampling time"⟩
  validateTimestamp "provider snapshot sample time" snapshot.sampledAtUnixMs
  validateTimestamp "provider snapshot expiry" snapshot.expiresAtUnixMs
  if snapshot.resources.length > maxResourcesPerSnapshot then
    throw ⟨"RESOURCE_LIMIT_EXCEEDED", "provider snapshot has too many resources"⟩
  validateParts snapshot.provider Resource.validate (·.provider) (·.identity.id)
    ⟨"RESOURCE_PROVIDER_MISMATCH", "resource provider does not match snapshot provider"⟩
    ⟨"RESOURCE_IDENTITY_DUPLICATE", "provider snapshot contains a duplicate resource identity"⟩
    snapshot.resources
  if snapshot.workers.length > maxWorkersPerSnapshot then
    throw ⟨"WORKER_LIMIT_EXCEEDED", "provider snapshot has too many workers"⟩
  validateParts snapshot.provider Worker.validate (·.provider) (·.identity.id)
    ⟨"WORKER_PROVIDER_MISMATCH", "worker provider does not match snapshot provider"⟩
    ⟨"WORKER_IDENTITY_DUPLICATE", "provider snapshot contains a duplicate worker identity"⟩
    snapshot.workers
  if snapshot.endpoints.length > maxEndpointsPerSnapshot then
    throw ⟨"ENDPOINT_LIMIT_EXCEEDED", "provider snapshot has too many endpoints"⟩
  validateParts snapshot.provider Endpoint.validate (·.provider) (·.identity.id)
    ⟨"ENDPOINT_PROVIDER_MISMATCH", "endpoint provider does not match snapshot provider"⟩
    ⟨"ENDPOINT_IDENTITY_DUPLICATE", "provider snapshot contains a duplicate endpoint identity"⟩
    snapshot.endpoints

end ProviderSnapshot

end CyreneKernel
