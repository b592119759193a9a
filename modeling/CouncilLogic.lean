import CouncilLogic.Guarantees.BordaRule
import CouncilLogic.Guarantees.SocialChoice
import CouncilLogic.Guarantees.SelfVotes
import CouncilLogic.Guarantees.ParserErrors
import CouncilLogic.Guarantees.RoundTrip
import CouncilLogic.Guarantees.Ambiguity
import CouncilLogic.Guarantees.RejectedObjects
import CouncilLogic.Guarantees.Capacity
import CouncilLogic.Guarantees.RepairBound
import CouncilLogic.Guarantees.StageCompletion
import CouncilLogic.Guarantees.Budget
import CouncilLogic.Guarantees.Suppression
import CouncilLogic.Guarantees.Slots
import CouncilLogic.Guarantees.ServiceBudget
import CouncilLogic.Guarantees.Leases
import CouncilLogic.Guarantees.OutputCeiling
import CouncilLogic.Guarantees.PromptStability
import CouncilLogic.Guarantees.FrozenVote
import CouncilLogic.Guarantees.Quorum
import CouncilLogic.Guarantees.Replay
import CouncilLogic.Guarantees.Revocation
import CouncilLogic.Guarantees.SpendingCeiling
import CouncilLogic.Guarantees.RetiredTokens
import CouncilLogic.Guarantees.Idempotency
import CouncilLogic.Guarantees.Scheduling
import CouncilLogic.Guarantees.AdjudicationLock
import CouncilLogic.Guarantees.Rollback
import CouncilLogic.Guarantees.RunKeys
import CouncilLogic.Guarantees.Decisions
import CouncilLogic.Guarantees.DecisionChain
import CouncilLogic.Guarantees.OverrunFlags
import CouncilLogic.Guarantees.TokenValidity
import CouncilLogic.Guarantees.SynthesisCheck
import CouncilLogic.Guarantees.HttpRetry
import CouncilLogic.Guarantees.ApprovalTokens
import CouncilLogic.Guarantees.Configuration
import CouncilLogic.Guarantees.Provenance
import CouncilLogic.Guarantees.SynthesisChain
import CouncilLogic.Guarantees.OwnVote
import CouncilLogic.Guarantees.Selection
import CouncilLogic.Guarantees.DecisionListing
import CouncilLogic.Guarantees.RunIdentity
