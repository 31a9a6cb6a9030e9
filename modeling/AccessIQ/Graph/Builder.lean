import AccessIQ.Graph.Models
import AccessIQ.Store
import AccessIQ.Connectors.Orchestrator

/-
  The authorization graph of a database.

  First every row becomes a node, table by table, and every
  connector of the registry.  Then the rows are read again
  for the edges between them; an edge is left out if one of
  its nodes is missing.

  Key definitions include:
    * `rowNodeId`
    * `RegisteredConnector`
    * `addIdentityNodes`
    * `addRelationshipEdges`
    * `buildAuthorizationGraph`
    * `findEntitlements`
-/

------------------------------------------------------------
-- Nodes Of Rows
------------------------------------------------------------

namespace AccessIQ

namespace Graph

open Foundations Python Delegation Governance Remediation
open Connectors

/- The node id of a row with an integer key. -/
def rowNodeId
    (nodeType : NodeType)
    (id : Int) :
    String :=
  graphNodeId nodeType (toString id)

namespace PropertyValue

/- The value of a nullable column. -/
def ofOption
    {α : Type}
    (value : α → PropertyValue) :
    Option α → PropertyValue
  | .none => .none
  | some a => value a

end PropertyValue

def userNode
    (user : User) :
    GraphNode where
  id := rowNodeId .user user.id
  type := .user
  label := user.name
  reference := "/users/" ++ toString user.id
  properties :=
    [("source_id", .int user.id),
      ("email", .text user.email),
      ("department", .text user.department),
      ("active", .bool user.active),
      ("operator_role", .text user.operatorRole)]

def groupNode
    (group : AccessIQ.Group) :
    GraphNode where
  id := rowNodeId .group group.id
  type := .group
  label := group.displayName
  reference := "/scim/v2/Groups/" ++ toString group.id
  timestamp := some group.createdAt
  properties :=
    [("source_id", .int group.id),
      ("display_name", .text group.displayName),
      ("updated_at", .time group.updatedAt)]

def enterpriseProfileNode
    (profile : EnterpriseUserProfile) :
    GraphNode where
  id := rowNodeId .enterpriseProfile profile.id
  type := .enterpriseProfile
  label := "Enterprise profile " ++ toString profile.id
  reference := "/scim/v2/Users/" ++ toString profile.userId
  timestamp := some profile.createdAt
  properties :=
    [("source_id", .int profile.id),
      ("user_id", .int profile.userId),
      ("employee_number",
        .ofOption .text profile.employeeNumber),
      ("department", .ofOption .text profile.department),
      ("division", .ofOption .text profile.division),
      ("organization", .ofOption .text profile.organization),
      ("cost_center", .ofOption .text profile.costCenter),
      ("manager_id", .ofOption .int profile.managerId),
      ("updated_at", .time profile.updatedAt)]

def applicationNode
    (application : Application) :
    GraphNode where
  id := rowNodeId .application application.id
  type := .application
  label := application.name
  reference := "/applications/" ++ toString application.id
  properties :=
    [("source_id", .int application.id),
      ("slug", .text application.slug)]

def entitlementNode
    (entitlement : Entitlement) :
    GraphNode where
  id := rowNodeId .entitlement entitlement.id
  type := .entitlement
  label := entitlement.name
  reference :=
    "/applications/" ++ toString entitlement.applicationId ++
      "/entitlements"
  properties :=
    [("source_id", .int entitlement.id),
      ("slug", .text entitlement.slug),
      ("application_id", .int entitlement.applicationId)]

/- What the builder reads of a connector. -/
structure RegisteredConnector where
  name : String
  displayName : String
  enabled : Bool
  supportedOperations : List ConnectorOperation
  deriving DecidableEq, Repr

/- `registry.list()`: by normalized name. -/
def listConnectors
    [Platform]
    (registry : List RegisteredConnector) :
    List RegisteredConnector :=
  registry.insertionSort fun a b =>
    normalizeConnectorName a.name ≤
      normalizeConnectorName b.name

def connectorNode
    (connector : RegisteredConnector) :
    GraphNode where
  id := graphNodeId .connector connector.name
  type := .connector
  label := connector.displayName
  reference := "/connectors/" ++ connector.name
  properties :=
    [("source_id", .text connector.name),
      ("enabled", .bool connector.enabled),
      ("supported_operations",
        .texts
          (connector.supportedOperations.map
            ConnectorOperation.value))]

def campaignNode
    (campaign : CertificationCampaign) :
    GraphNode where
  id := rowNodeId .certificationCampaign campaign.id
  type := .certificationCampaign
  label := campaign.name
  reference :=
    "/access-reviews/campaigns/" ++ toString campaign.id
  timestamp := some campaign.createdAt
  properties :=
    [("source_id", .int campaign.id),
      ("status", .text campaign.status.value),
      ("created_by", .int campaign.createdBy),
      ("default_reviewer_id",
        .int campaign.defaultReviewerId),
      ("total_items", .int campaign.totalItems),
      ("completed_items", .int campaign.completedItems),
      ("approval_count", .int campaign.approvalCount),
      ("revocation_count", .int campaign.revocationCount),
      ("abstain_count", .int campaign.abstainCount)]

def reviewItemNode
    (item : CertificationReviewItem) :
    GraphNode where
  id := rowNodeId .reviewItem item.id
  type := .reviewItem
  label := "Review item " ++ toString item.id
  reference := "/access-reviews/items/" ++ toString item.id
  timestamp := some item.createdAt
  properties :=
    [("source_id", .int item.id),
      ("campaign_id", .int item.campaignId),
      ("access_assignment_id", .int item.accessAssignmentId),
      ("user_id", .int item.userId),
      ("application_id", .int item.applicationId),
      ("entitlement_id", .int item.entitlementId),
      ("group_id", .ofOption .int item.groupId),
      ("reviewer_id", .int item.reviewerId),
      ("status", .text item.status.value),
      ("reviewed_at", .ofOption .time item.reviewedAt)]

def delegationNode
    (assignment : DelegationAssignment) :
    GraphNode where
  id := rowNodeId .delegation assignment.id
  type := .delegation
  label := assignment.delegationRole.value ++ " delegation"
  reference :=
    "/delegation/assignments/" ++ toString assignment.id
  timestamp := some assignment.createdAt
  properties :=
    [("source_id", .int assignment.id),
      ("delegate_user_id", .int assignment.delegateUserId),
      ("scope_type", .text assignment.scopeType.value),
      ("scope_id", .int assignment.scopeId),
      ("delegation_role",
        .text assignment.delegationRole.value),
      ("created_by", .int assignment.createdBy),
      ("expires_at", .ofOption .time assignment.expiresAt),
      ("active", .bool assignment.active)]

def provisioningJobNode
    (job : ProvisioningJob) :
    GraphNode where
  id := rowNodeId .provisioningJob job.id
  type := .provisioningJob
  label := job.connector ++ " " ++ job.operation.value
  reference := "/provisioning/jobs/" ++ toString job.id
  timestamp := some job.createdAt
  properties :=
    [("source_id", .int job.id),
      ("correlation_id", .text job.correlationId),
      ("connector", .text job.connector),
      ("operation", .text job.operation.value),
      ("target_type", .text job.targetType),
      ("target_id", .ofOption .text job.targetId),
      ("status", .text job.status.value),
      ("attempt_count", .int job.attemptCount),
      ("retry_count", .int job.retryCount),
      ("completed_at", .ofOption .time job.completedAt)]

def provisioningHistoryNode
    (history : ProvisioningHistory) :
    GraphNode where
  id := rowNodeId .provisioningHistory history.id
  type := .provisioningHistory
  label :=
    history.eventType.value ++ " " ++ history.status.value
  reference :=
    "/provisioning/history?correlation_id=" ++
      history.correlationId
  timestamp := some history.createdAt
  properties :=
    [("source_id", .int history.id),
      ("job_id", .int history.jobId),
      ("correlation_id", .text history.correlationId),
      ("connector", .text history.connector),
      ("operation", .text history.operation.value),
      ("event_type", .text history.eventType.value),
      ("status", .text history.status.value),
      ("message", .text history.message),
      ("attempt", .int history.attempt)]

def remediationJobNode
    (job : RemediationJob) :
    GraphNode where
  id := rowNodeId .remediationJob job.id
  type := .remediationJob
  label := "Remediation job " ++ toString job.id
  reference := "/remediation/jobs/" ++ toString job.id
  timestamp := some job.createdAt
  properties :=
    [("source_id", .int job.id),
      ("campaign_id", .int job.campaignId),
      ("review_item_id", .int job.reviewItemId),
      ("provisioning_job_id",
        .ofOption .int job.provisioningJobId),
      ("correlation_id", .text job.correlationId),
      ("remediation_type", .text job.remediationType.value),
      ("status", .text job.status.value),
      ("initiated_by", .int job.initiatedBy)]

/- Where the audit trail shows a correlation. -/
def auditReference
    (event : AuditEvent) :
    String :=
  "/audit-events?correlation_id=" ++
    event.correlationId.getD ""

def auditEventNode
    (event : AuditEvent) :
    GraphNode where
  id := rowNodeId .auditEvent event.id
  type := .auditEvent
  label := event.action.value ++ " " ++ event.result.value
  reference := auditReference event
  timestamp := some event.createdAt
  properties :=
    [("source_id", .int event.id),
      ("requester_id", .int event.requesterId),
      ("target_user_id", .int event.targetUserId),
      ("action", .text event.action.value),
      ("application_id", .int event.applicationId),
      ("entitlement_id", .int event.entitlementId),
      ("result", .text event.result.value),
      ("reason", .text event.reason),
      ("correlation_id", .ofOption .text event.correlationId)]

end Graph

end AccessIQ

------------------------------------------------------------
-- Phases Of Nodes
------------------------------------------------------------

namespace AccessIQ

namespace Graph

open Python

/- `add_node` for each of some nodes in turn. -/
def addNodes
    (nodes : List GraphNode)
    (graph : AuthorizationGraph) :
    AuthorizationGraph :=
  nodes.foldl AuthorizationGraph.addNode graph

def addIdentityNodes
    (s : Store)
    (graph : AuthorizationGraph) :
    AuthorizationGraph :=
  addNodes
    (s.enterpriseUserProfiles.rows.map enterpriseProfileNode)
    (addNodes (s.groups.rows.map groupNode)
      (addNodes (s.users.rows.map userNode) graph))

def addApplicationNodes
    (s : Store)
    (graph : AuthorizationGraph) :
    AuthorizationGraph :=
  addNodes (s.entitlements.rows.map entitlementNode)
    (addNodes (s.applications.rows.map applicationNode)
      graph)

def addConnectorNodes
    [Platform]
    (registry : List RegisteredConnector)
    (graph : AuthorizationGraph) :
    AuthorizationGraph :=
  addNodes ((listConnectors registry).map connectorNode)
    graph

def addGovernanceNodes
    (s : Store)
    (graph : AuthorizationGraph) :
    AuthorizationGraph :=
  addNodes (s.certificationReviewItems.rows.map reviewItemNode)
    (addNodes (s.certificationCampaigns.rows.map campaignNode)
      graph)

def addOperationsNodes
    (s : Store)
    (graph : AuthorizationGraph) :
    AuthorizationGraph :=
  addNodes (s.auditEvents.rows.map auditEventNode)
    (addNodes (s.remediationJobs.rows.map remediationJobNode)
      (addNodes
        (s.provisioningHistory.rows.map
          provisioningHistoryNode)
        (addNodes
          (s.provisioningJobs.rows.map provisioningJobNode)
          (addNodes
            (s.delegationAssignments.rows.map delegationNode)
            graph))))

end Graph

end AccessIQ

------------------------------------------------------------
-- Edges Of Rows
------------------------------------------------------------

namespace AccessIQ

namespace Graph

open Foundations Python Delegation Governance Remediation

def entitlementEdges
    (entitlement : Entitlement) :
    List EdgeArguments :=
  [{ source := rowNodeId .entitlement entitlement.id
     target :=
      rowNodeId .application entitlement.applicationId
     edgeType := .grantsAccessTo
     label := "Entitlement belongs to application"
     reference :=
      "/applications/" ++
        toString entitlement.applicationId ++
        "/entitlements"
     properties :=
      [("entitlement_id", .int entitlement.id)] }]

def membershipEdges
    (membership : GroupMember) :
    List EdgeArguments :=
  [{ source := rowNodeId .user membership.userId
     target := rowNodeId .group membership.groupId
     edgeType := .memberOf
     label := "User is member of group"
     reference :=
      "/scim/v2/Groups/" ++ toString membership.groupId
     timestamp := some membership.createdAt
     properties :=
      [("membership_id", .int membership.id)] }]

def accessEdges
    (assignment : AccessAssignment) :
    List EdgeArguments :=
  [{ source := rowNodeId .user assignment.userId
     target := rowNodeId .entitlement assignment.entitlementId
     edgeType := .hasEntitlement
     label := "User has entitlement"
     reference :=
      "/users/" ++ toString assignment.userId ++ "/access"
     timestamp := some assignment.grantedAt
     properties :=
      [("access_assignment_id", .int assignment.id)] }]

/- The edge to the manager, if the profile names one. -/
def managerEdges
    (profile : EnterpriseUserProfile) :
    List EdgeArguments :=
  match profile.managerId with
  | none => []
  | some managerId =>
      [{ source := rowNodeId .user profile.userId
         target := rowNodeId .user managerId
         edgeType := .managedBy
         label := "User is managed by user"
         reference :=
          "/scim/v2/Users/" ++ toString profile.userId
         timestamp := some profile.updatedAt
         properties :=
          [("enterprise_profile_id", .int profile.id)] }]

def profileEdges
    (profile : EnterpriseUserProfile) :
    List EdgeArguments :=
  { source := rowNodeId .user profile.userId
    target := rowNodeId .enterpriseProfile profile.id
    edgeType := .connectedTo
    label := "User has enterprise profile"
    reference := "/scim/v2/Users/" ++ toString profile.userId
    timestamp := some profile.createdAt } ::
    managerEdges profile

/- `_delegation_scope_node_id` -/
def delegationScopeNodeId
    [Platform]
    (scopeType : String)
    (scopeId : Int) :
    Option String :=
  let scope := Platform.upper scopeType
  if scope = "APPLICATION" then
    some (rowNodeId .application scopeId)
  else if scope = "GROUP" then
    some (rowNodeId .group scopeId)
  else if scope = "ENTITLEMENT" then
    some (rowNodeId .entitlement scopeId)
  else
    none

/- The edge to the scope, if its type is a known one. -/
def scopeEdges
    [Platform]
    (assignment : DelegationAssignment) :
    List EdgeArguments :=
  match
    delegationScopeNodeId assignment.scopeType.value
      assignment.scopeId
  with
  | none => []
  | some scopeTarget =>
      [{ source := rowNodeId .delegation assignment.id
         target := scopeTarget
         edgeType := .connectedTo
         label := "Delegation applies to scope"
         reference :=
          "/delegation/assignments/" ++
            toString assignment.id
         timestamp := some assignment.createdAt
         properties :=
          [("scope_type",
            .text assignment.scopeType.value)] }]

def delegationEdges
    [Platform]
    (assignment : DelegationAssignment) :
    List EdgeArguments :=
  [{ source := rowNodeId .user assignment.delegateUserId
     target := rowNodeId .delegation assignment.id
     edgeType := .delegatedTo
     label := "User has delegated administration assignment"
     reference :=
      "/delegation/assignments/" ++ toString assignment.id
     timestamp := some assignment.createdAt },
    { source := rowNodeId .user assignment.createdBy
      target := rowNodeId .delegation assignment.id
      edgeType := .auditedBy
      label := "User created delegation assignment"
      reference :=
        "/delegation/assignments/" ++ toString assignment.id
      timestamp := some assignment.createdAt }] ++
    scopeEdges assignment

def campaignEdges
    (campaign : CertificationCampaign) :
    List EdgeArguments :=
  [(campaign.createdBy,
      "User created certification campaign"),
    (campaign.defaultReviewerId,
      "User is default campaign reviewer")].map
    fun (userId, label) =>
      { source := rowNodeId .user userId
        target :=
          rowNodeId .certificationCampaign campaign.id
        edgeType := .reviewedIn
        label := label
        reference :=
          "/access-reviews/campaigns/" ++
            toString campaign.id
        timestamp := some campaign.createdAt }

/- An edge from what an item reviews to the item. -/
def reviewedInEdge
    (item : CertificationReviewItem)
    (nodeType : NodeType)
    (sourceId : Int)
    (label : String) :
    EdgeArguments where
  source := rowNodeId nodeType sourceId
  target := rowNodeId .reviewItem item.id
  edgeType := .reviewedIn
  label := label
  reference := "/access-reviews/items/" ++ toString item.id
  timestamp := some item.createdAt

def reviewItemEdges
    (item : CertificationReviewItem) :
    List EdgeArguments :=
  [{ source := rowNodeId .reviewItem item.id
     target :=
      rowNodeId .certificationCampaign item.campaignId
     edgeType := .reviewedIn
     label := "Review item belongs to campaign"
     reference :=
      "/access-reviews/campaigns/" ++
        toString item.campaignId ++ "/items"
     timestamp := some item.createdAt },
    reviewedInEdge item .user item.userId
      "User access reviewed in item",
    reviewedInEdge item .user item.reviewerId
      "Reviewer assigned to item",
    reviewedInEdge item .application item.applicationId
      "Application reviewed in item",
    reviewedInEdge item .entitlement item.entitlementId
      "Entitlement reviewed in item"] ++
    item.groupId.toList.map fun groupId =>
      reviewedInEdge item .group groupId
        "Group reviewed in item"

/-
  `_provisioning_target_node_id`: the target of an
  entitlement operation is the user it is for.
-/
def provisioningTargetNodeId
    [Platform]
    (targetType : String)
    (targetId : Option String) :
    Option String := do
  let targetId ← targetId
  let normalizedType := Platform.lower targetType
  if normalizedType = "user" then
    some (graphNodeId .user targetId)
  else if normalizedType = "group" then
    some (graphNodeId .group targetId)
  else if normalizedType = "entitlement" then
    some (graphNodeId .user targetId)
  else
    none

def provisioningJobEdges
    [Platform]
    (job : ProvisioningJob) :
    List EdgeArguments :=
  { source := rowNodeId .provisioningJob job.id
    target := graphNodeId .connector job.connector
    edgeType := .connectedTo
    label := "Provisioning job executed through connector"
    reference := "/provisioning/jobs/" ++ toString job.id
    timestamp := some job.createdAt
    correlationId := some job.correlationId } ::
    (provisioningTargetNodeId job.targetType
      job.targetId).toList.map fun targetNode =>
        { source := targetNode
          target := rowNodeId .provisioningJob job.id
          edgeType := .provisionedBy
          label := "Target provisioned by job"
          reference :=
            "/provisioning/jobs/" ++ toString job.id
          timestamp := some job.createdAt
          correlationId := some job.correlationId }

def provisioningHistoryEdges
    (history : ProvisioningHistory) :
    List EdgeArguments :=
  [{ source := rowNodeId .provisioningHistory history.id
     target := rowNodeId .provisioningJob history.jobId
     edgeType := .provisionedBy
     label := "Provisioning history belongs to job"
     reference :=
      "/provisioning/history?correlation_id=" ++
        history.correlationId
     timestamp := some history.createdAt
     correlationId := some history.correlationId }]

/- An edge at a remediation job. -/
def remediationEdge
    (job : RemediationJob)
    (source target : String)
    (edgeType : EdgeType)
    (label : String) :
    EdgeArguments where
  source := source
  target := target
  edgeType := edgeType
  label := label
  reference := "/remediation/jobs/" ++ toString job.id
  timestamp := some job.createdAt
  correlationId := some job.correlationId

def remediationEdges
    (job : RemediationJob) :
    List EdgeArguments :=
  let remediationId := rowNodeId .remediationJob job.id
  [remediationEdge job (rowNodeId .reviewItem job.reviewItemId)
      remediationId .remediatedBy
      "Review item remediated by job",
    remediationEdge job remediationId
      (rowNodeId .certificationCampaign job.campaignId)
      .remediatedBy "Remediation belongs to campaign",
    remediationEdge job (rowNodeId .user job.initiatedBy)
      remediationId .auditedBy "User initiated remediation"] ++
    job.provisioningJobId.toList.map fun provisioningJobId =>
      remediationEdge job remediationId
        (rowNodeId .provisioningJob provisioningJobId)
        .provisionedBy
        "Remediation executed by provisioning job"

def auditEdges
    (event : AuditEvent) :
    List EdgeArguments :=
  [(rowNodeId .user event.requesterId,
      "Requester audited by event"),
    (rowNodeId .user event.targetUserId,
      "Target user audited by event"),
    (rowNodeId .application event.applicationId,
      "Application audited by event"),
    (rowNodeId .entitlement event.entitlementId,
      "Entitlement audited by event")].map
    fun (source, label) =>
      { source := source
        target := rowNodeId .auditEvent event.id
        edgeType := .auditedBy
        label := label
        reference := auditReference event
        timestamp := some event.createdAt
        correlationId := event.correlationId
        properties :=
          [("audit_event_id", .int event.id),
            ("action", .text event.action.value)] }

end Graph

end AccessIQ

------------------------------------------------------------
-- The Builder
------------------------------------------------------------

namespace AccessIQ

namespace Graph

open Python

/- `_add_edge_if_nodes_exist` -/
def addEdgeIfNodesExist
    (graph : AuthorizationGraph)
    (arguments : EdgeArguments) :
    AuthorizationGraph :=
  if arguments.source ∉ graph.nodes.keys ∨
      arguments.target ∉ graph.nodes.keys then
    graph
  else
    graph.addEdge arguments

/- `_add_edge_if_nodes_exist` for each of some edges. -/
def addEdgesIfNodesExist
    (edges : List EdgeArguments)
    (graph : AuthorizationGraph) :
    AuthorizationGraph :=
  edges.foldl addEdgeIfNodesExist graph

def addDelegationEdges
    [Platform]
    (s : Store)
    (graph : AuthorizationGraph) :
    AuthorizationGraph :=
  addEdgesIfNodesExist
    (s.delegationAssignments.rows.flatMap delegationEdges)
    graph

def addGovernanceEdges
    (s : Store)
    (graph : AuthorizationGraph) :
    AuthorizationGraph :=
  addEdgesIfNodesExist
    (s.certificationReviewItems.rows.flatMap reviewItemEdges)
    (addEdgesIfNodesExist
      (s.certificationCampaigns.rows.flatMap campaignEdges)
      graph)

def addProvisioningEdges
    [Platform]
    (s : Store)
    (graph : AuthorizationGraph) :
    AuthorizationGraph :=
  addEdgesIfNodesExist
    (s.provisioningHistory.rows.flatMap
      provisioningHistoryEdges)
    (addEdgesIfNodesExist
      (s.provisioningJobs.rows.flatMap provisioningJobEdges)
      graph)

def addRemediationEdges
    (s : Store)
    (graph : AuthorizationGraph) :
    AuthorizationGraph :=
  addEdgesIfNodesExist
    (s.remediationJobs.rows.flatMap remediationEdges) graph

def addAuditEdges
    (s : Store)
    (graph : AuthorizationGraph) :
    AuthorizationGraph :=
  addEdgesIfNodesExist
    (s.auditEvents.rows.flatMap auditEdges) graph

def addRelationshipEdges
    [Platform]
    (s : Store)
    (graph : AuthorizationGraph) :
    AuthorizationGraph :=
  let graph :=
    addEdgesIfNodesExist
      (s.entitlements.rows.flatMap entitlementEdges) graph
  let graph :=
    addEdgesIfNodesExist
      (s.groupMembers.rows.flatMap membershipEdges) graph
  let graph :=
    addEdgesIfNodesExist
      (s.accessAssignments.rows.flatMap accessEdges) graph
  let graph :=
    addEdgesIfNodesExist
      (s.enterpriseUserProfiles.rows.flatMap profileEdges)
      graph
  addAuditEdges s
    (addRemediationEdges s
      (addProvisioningEdges s
        (addGovernanceEdges s
          (addDelegationEdges s graph))))

def buildAuthorizationGraph
    [Platform]
    (s : Store)
    (registry : List RegisteredConnector) :
    AuthorizationGraph :=
  addRelationshipEdges s
    (addOperationsNodes s
      (addGovernanceNodes s
        (addConnectorNodes registry
          (addApplicationNodes s
            (addIdentityNodes s .empty)))))

/- `find_entitlements` of the query engine. -/
def findEntitlements
    (graph : AuthorizationGraph)
    (userId : Int) :
    List GraphNode :=
  (graph.outgoing (rowNodeId .user userId)
    (some .hasEntitlement)).filterMap fun edge =>
      graph.getNode edge.target

end Graph

end AccessIQ
