import AccessIQ.Foundations.Program
import AccessIQ.Foundations.Runs
import AccessIQ.Seed
import AccessIQ.Delegation.Withdrawal
import AccessIQ.Delegation.Renewal
import AccessIQ.PolicyEngine
import AccessIQ.Access.Escalation
import AccessIQ.Access.AuditLog
import AccessIQ.Access.Delegated
import AccessIQ.Governance.Campaigns
import AccessIQ.Governance.Revocation
import AccessIQ.Governance.References
import AccessIQ.Connectors.Reporting
import AccessIQ.Remediation.Publishing
import AccessIQ.Graph.History
import AccessIQ.Graph.AccessPath
import AccessIQ.Graph.Export
import AccessIQ.Observability.Exposition
import AccessIQ.OperationalLists
import AccessIQ.Scim.PatchParsing
import AccessIQ.Scim.Listing
import AccessIQ.Scim.UserOutcomes
import AccessIQ.Scim.PathlessPatch
import AccessIQ.Scim.Replay
import AccessIQ.Scim.Departments
import AccessIQ.Scim.ProjectedResources
import AccessIQ.Ai.Explanation
import AccessIQ.Ai.Citations
import AccessIQ.Delegation.Expiry
import AccessIQ.Scim.DisplayNames
import AccessIQ.Scim.ExtensionPatch
import AccessIQ.Scim.Managers
import AccessIQ.Graph.ManagerChain
import AccessIQ.Connectors.Classification
import AccessIQ.Releases.Services
import AccessIQ.Observability.Histograms
import AccessIQ.Observability.Encoding
import AccessIQ.Scim.Hierarchy
import AccessIQ.Scim.Atomicity
import AccessIQ.Connectors.Repeats
import AccessIQ.Restarts
import AccessIQ.Interleavings
import AccessIQ.Graph.Cache
import AccessIQ.Scim.PutAndPatch
