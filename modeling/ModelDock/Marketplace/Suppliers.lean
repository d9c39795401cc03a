import ModelDock.Marketplace.Schema
import ModelDock.Text.Runtime

/-!
# Onboarding, review and compliance of suppliers

Suppliers apply and leave; administrators review them, keep their compliance and link them to providers. A
review that suspends a supplier does not touch its links.
-/

namespace ModelDock.Marketplace

open Relational
open Store (Uuid Timestamp)
open Text (trimSpace)

/-- Who makes a call, whether that is an active administrator, and the identifier the call draws. -/
structure Session where
  actor : Uuid
  administrator : Bool
  uuid : Uuid

variable (m : Market) (s : Session) (supplierId : Uuid)

/-- Write columns of one supplier. -/
def Market.setSupplier (set : Supplier → Supplier)
    (hkey : ∀ supplier, Keyed.key (set supplier) = Keyed.key supplier := by intro; rfl) : Market :=
  { m with suppliers := m.suppliers.rewriteIf (fun supplier => supplier.id = supplierId) set hkey }

theorem find?_setSupplier {set : Supplier → Supplier}
    (hkey : ∀ supplier, Keyed.key (set supplier) = Keyed.key supplier) (id : Uuid) :
    (m.setSupplier supplierId set hkey).suppliers.find? id = (m.suppliers.find? id).map fun supplier =>
      if supplier.id = supplierId then set supplier else supplier := by
  unfold Market.setSupplier
  rw [Table.find?_rewriteIf]
  simp only [decide_eq_true_eq]

variable (profile : Profile) (supplier : Supplier)

/-- Register a supplier; its row for the review of payouts is created with it. -/
def createSupplier (m : Market) : Except MarketError Market := do
  let suppliers ← m.suppliers.insert
    ⟨s.uuid, s.actor, profile, .notStarted, .notStarted, "", none, none, .draft⟩ MarketError.uniqueViolation
  let readiness ← m.readiness.insert ⟨s.uuid, ⟨.pending, .pending, .pending, .pending⟩, 0⟩
    MarketError.uniqueViolation
  return { m with suppliers := suppliers, readiness := readiness }

/-- A new description of a supplier; an account that is not given is kept. -/
def Supplier.describe : Supplier :=
  { supplier with profile := { profile with
      payoutAccount := profile.payoutAccount.or supplier.profile.payoutAccount } }

/-- The owner of a supplier changes what it says about itself, among it the account it is paid to. -/
def updateSupplierProfile (m : Market) : Except MarketError Market := do
  let supplier ← required (m.suppliers.find? supplierId) .notFound
  ensure (supplier.ownerUserId = s.actor) .supplierNotOwner
  return m.setSupplier supplierId (Supplier.describe profile)

/-- The supplier that a user owns. -/
def Market.ownedSupplier (supplierId actor : Uuid) : Option Supplier :=
  (m.suppliers.find? supplierId).filter fun supplier => supplier.ownerUserId = actor

/-- Give a supplier a status. -/
def Market.setStatus (status : SupplierStatus) : Market :=
  m.setSupplier supplierId fun supplier => { supplier with status := status }

/-- The owner of a supplier submits the application. -/
def submitSupplier (m : Market) : Except MarketError Market := do
  let supplier ← required (m.ownedSupplier supplierId s.actor) .supplierNotOwner
  ensure (supplier.status = .draft ∨ supplier.status = .rejected)
    (.message "supplier application cannot be submitted in its current state")
  return m.setStatus supplierId .submitted

/-- The owner of a supplier asks to leave. -/
def requestSupplierExit (m : Market) : Except MarketError Market := do
  let supplier ← required (m.ownedSupplier supplierId s.actor) .supplierNotOwner
  if supplier.status = .exited ∨ supplier.status = .exitRequested then return m
  else return m.setStatus supplierId .exitRequested

/-- Register an endpoint of a supplier. -/
def createSupplierEndpoint (m : Market) : Except MarketError Market := do
  ensure ((m.ownedSupplier supplierId s.actor).isSome) .supplierNotOwner
  let endpoints ← m.endpoints.insert ⟨s.uuid, supplierId, false⟩ MarketError.uniqueViolation
  return { m with endpoints := endpoints }

/-- Record whether an endpoint passed its verification. -/
def markSupplierEndpointVerification (endpointId : Uuid) (passed : Bool) (m : Market) :
    Except MarketError Market := do
  let endpoint ← required (m.endpoints.find? endpointId) .notFound
  let supplier ← required (m.suppliers.find? endpoint.supplierId) .notFound
  ensure (supplier.ownerUserId = s.actor) .supplierNotOwner
  return { m with
    endpoints := m.endpoints.rewriteIf (fun row => row.id = endpointId) fun row => { row with passed := passed } }

/-- Hand in the answers to the questions about security. -/
def createSupplierQuestionnaire (m : Market) : Except MarketError Market := do
  ensure ((m.ownedSupplier supplierId s.actor).isSome) .supplierNotOwner
  let questionnaires ← m.questionnaires.insert ⟨s.uuid, supplierId, false⟩ MarketError.uniqueViolation
  return { m with questionnaires := questionnaires }

/-- What a review of a supplier may decide. -/
inductive ReviewDecision
  | approved
  | rejected
  | requestedChanges
  | suspended
  | exited
deriving DecidableEq

/-- The status that a decision gives a supplier. -/
def ReviewDecision.status : ReviewDecision → SupplierStatus
  | .approved => .approved
  | .rejected => .rejected
  | .requestedChanges => .inReview
  | .suspended => .suspended
  | .exited => .exited

/-- The evidence that an approval needs: an endpoint that passed and a questionnaire that was approved. -/
def Market.hasEvidence : Bool :=
  m.endpoints.rows.any (fun endpoint => endpoint.supplierId = supplierId && endpoint.passed) &&
    m.questionnaires.rows.any fun questionnaire => questionnaire.supplierId = supplierId && questionnaire.approved

/-- Review a supplier. -/
def reviewSupplier (decision : ReviewDecision) (reason : String) (m : Market) : Except MarketError Market := do
  ensure (decision = .approved → trimSpace reason ≠ "") (.message "an approval reason is required")
  ensure (s.administrator) .supplierApprovalRequired
  let supplier ← required (m.suppliers.find? supplierId) .notFound
  ensure (decision = .approved → supplier.kybStatus = .verified ∧ supplier.contractStatus = .active ∧
    m.hasEvidence supplierId) .supplierNotReady
  return m.setStatus supplierId decision.status

/-- What an administrator records about a supplier's identity and contract. -/
structure Compliance where
  kybStatus : KybStatus
  contractStatus : ContractStatus
  contractVersion : String
  (startAt endAt : Option Timestamp)

variable (compliance : Compliance)

/-- Store the compliance of a supplier. -/
def Supplier.comply (supplier : Supplier) : Supplier :=
  { supplier with
    kybStatus := compliance.kybStatus
    contractStatus := compliance.contractStatus
    contractVersion := trimSpace compliance.contractVersion
    contractStartAt := compliance.startAt
    contractEndAt := compliance.endAt }

/-- Change the compliance of a supplier. The table refuses a period that ends before it starts. -/
def updateSupplierCompliance (m : Market) : Except MarketError Market := do
  ensure (s.administrator) .supplierApprovalRequired
  let _ ← required (m.suppliers.find? supplierId) .notFound
  ensure (∀ startAt ∈ compliance.startAt, ∀ endAt ∈ compliance.endAt, startAt < endAt)
    (.message "contract_end_at > contract_start_at")
  return m.setSupplier supplierId (Supplier.comply compliance)

/-- Review the answers of a supplier about security. -/
def reviewQuestionnaire (questionnaireId : Uuid) (approved : Bool) (m : Market) : Except MarketError Market := do
  ensure (s.administrator) .supplierApprovalRequired
  let _ ← required (m.questionnaires.find? questionnaireId) .notFound
  return { m with
    questionnaires := m.questionnaires.rewriteIf (fun row => row.id = questionnaireId)
      fun row => { row with approved := approved } }

/-- Link a provider to an approved supplier, whatever the link was before. Whether the quality policy of
the provider is enabled is given with the call. -/
def linkSupplierProvider (providerId supplierId : Uuid) (reason : String) (qualityEnabled : Option Bool)
    (m : Market) : Except MarketError Market := do
  ensure (trimSpace reason ≠ "") (.message "supplier Provider link reason is required")
  let supplier ← required (m.suppliers.find? supplierId) .notFound
  ensure (supplier.status = .approved) (.message "supplier must be approved before Provider linkage")
  let enabled ← required qualityEnabled .notFound
  ensure (enabled) (.message "Provider quality policy must be enabled before supplier linkage")
  match m.links.find? providerId with
  | some _ => return { m with links := m.links.replace ⟨providerId, supplierId, .active⟩ }
  | none => do
    let links ← m.links.insert ⟨providerId, supplierId, .active⟩ MarketError.uniqueViolation
    return { m with links := links }

/-- Review whether a supplier may be paid out. A part is approved only if what it is about is there. -/
def updateSupplierPayoutReadiness (parts : ReadinessParts) (expectedVersion : ℕ) (m : Market) :
    Except MarketError Market := do
  let supplier ← required (m.suppliers.find? supplierId) .notFound
  ensure (parts.contract = .approved → supplier.contractStatus = .active ∧ supplier.contractVersion ≠ "" ∧
    supplier.contractStartAt.isSome ∧ supplier.contractEndAt.all (m.clock < ·)) .marketplacePayoutReadiness
  ensure (parts.tax = .approved → supplier.profile.taxId ≠ "" ∧ supplier.profile.taxCountry ≠ "" ∧
    supplier.profile.taxFormType ≠ "") .marketplacePayoutReadiness
  ensure (parts.payment = .approved → supplier.profile.payoutAccount.isSome) .marketplacePayoutReadiness
  ensure (parts.security = .approved → m.questionnaires.rows.any fun questionnaire =>
    questionnaire.supplierId = supplierId && questionnaire.approved) .marketplacePayoutReadiness
  let readiness ← required (m.readiness.find? supplierId) .idempotencyConflict
  ensure (readiness.version = expectedVersion) .idempotencyConflict
  return { m with
    readiness := m.readiness.rewriteIf (fun row => row.supplierId = supplierId)
      fun row => { row with parts := parts, version := row.version + 1 } }

end ModelDock.Marketplace
