import Aotp.Campaign.Budgets
import Aotp.Campaign.Dependencies
import Aotp.Campaign.Reviews
import Aotp.Campaign.StopRace
import Aotp.Tools.Audit
import Aotp.Campaign.ReviewRace
import Aotp.Gate.Containment
import Aotp.Gate.Tightening
import Aotp.Campaign.ForbiddenActions
import Aotp.Gate.LiveWindow
import Aotp.Gate.Totality
import Aotp.Gate.Domains
import Aotp.Agentic.Containment
import Aotp.Tools.Approvals
import Aotp.Tools.RoeUrls
import Aotp.Wstg.Objectives
import Aotp.Wstg.Scope
import Aotp.Wstg.LiveRequests
import Aotp.Evidence.Lifecycle
import Aotp.Evidence.ReportSound
import Aotp.Vault.Access
import Aotp.Vault.Persistence
import Aotp.Campaign.Agreement
import Aotp.Campaign.Schedulability
import Aotp.Campaign.ReviewAtomicity
import Aotp.Tools.DenialEvidence
import Aotp.Campaign.Orchestration
import Aotp.Wstg.Observations
import Aotp.Campaign.Supervision
import Aotp.Wstg.Coverage
import Aotp.Wstg.Selection
import Aotp.Wstg.ExecutionResults
import Aotp.Wstg.EnginePlan
import Aotp.Wstg.Origins
import Aotp.Session.Routes
import Aotp.Session.Binding
import Aotp.Evidence.Refusals
import Aotp.Checkpoint.Resume
import Aotp.Evidence.ReportLines
import Aotp.Templates.Bundles
import Aotp.Gate.FuzzingBudget
import Aotp.Tools.ZapPassive
import Aotp.Wstg.ActionPlan
import Aotp.Lib.Manifests
import Aotp.Wstg.CampaignRecords
import Aotp.Wstg.LiveCampaign
import Aotp.Wstg.LiveGuarantees
