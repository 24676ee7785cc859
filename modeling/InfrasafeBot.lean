import InfrasafeBot.TerminalFinality
import InfrasafeBot.PoolClaim
import InfrasafeBot.WorkflowPredicates
import InfrasafeBot.RateLimiter
import InfrasafeBot.MaterialNumbers
import InfrasafeBot.ListedRequests
import InfrasafeBot.WebhookChain
import InfrasafeBot.WorkReachability
import InfrasafeBot.OutboxDeliveryProperties
import InfrasafeBot.MaterialUnit
import InfrasafeBot.MediaReadiness
import InfrasafeBot.PublicationLocks
import InfrasafeBot.PublicFeedProperties
import InfrasafeBot.AccessControl.ReviewExclusion
import InfrasafeBot.AccessControl.UnreadablePlates
import InfrasafeBot.AccessControl.PassRevocation
import InfrasafeBot.AccessControl.CommandDelivery
import InfrasafeBot.AccessControl.EdgeConsumer
import InfrasafeBot.AccessControl.RequestDecision
import InfrasafeBot.AccessControl.JournalChains
import InfrasafeBot.Shifts.Employees
import InfrasafeBot.Shifts.BotReassignment
import InfrasafeBot.Shifts.AutoAssignmentRuns
import InfrasafeBot.Shifts.PlanningRuns
import InfrasafeBot.AccessControl.ExpiryAudit
import InfrasafeBot.ResourceAccounting.RegistryForest
import InfrasafeBot.ResourceAccounting.RevisionTrail
import InfrasafeBot.RequestNumbers.NumberingRuns
import InfrasafeBot.Auth.SessionLifetimes
import InfrasafeBot.Webhooks.AlertDelivery
import InfrasafeBot.Addresses.PrimaryApartment
import InfrasafeBot.Addresses.LiveBranches
import InfrasafeBot.RepeatLaw
import InfrasafeBot.StatusResolution
import InfrasafeBot.BoardConfigMerges
import InfrasafeBot.Addresses.BuildingMirror
import InfrasafeBot.Auth.RegistrationRaces
import InfrasafeBot.Auth.InviteUse
import InfrasafeBot.AccessControl.SpotOccupancy
import InfrasafeBot.AccessControl.ZoneCheckboxes
import InfrasafeBot.MediaDeletion
import InfrasafeBot.StockReversal
import InfrasafeBot.AutoManager.WorkConservation
import InfrasafeBot.AccessControl.SpotPlaces
import InfrasafeBot.ResourceAccounting.BaselineQueries
import InfrasafeBot.ResourceAccounting.PeriodValidation
import InfrasafeBot.ResourceAccounting.ConsumptionSums
import InfrasafeBot.ResourceAccounting.Corrections
import InfrasafeBot.ResourceAccounting.ImportPreview
import InfrasafeBot.AccessControl.CodeRedemption
import InfrasafeBot.AccessControl.SnapshotVerifier
import InfrasafeBot.AccessControl.GuessBounds
import InfrasafeBot.AccessControl.PresenceOrder
import InfrasafeBot.Shifts.Availability
import InfrasafeBot.Shifts.RequestFrame
import InfrasafeBot.Shifts.AssignmentSync
import InfrasafeBot.Shifts.CoverageGaps
import InfrasafeBot.Auth.OneTimeCodes
import InfrasafeBot.RequestNumbers.NumberGrammar
import InfrasafeBot.Addresses.RequestAddresses
import InfrasafeBot.DraftAutopublish
import InfrasafeBot.EventIdentities
import InfrasafeBot.Library.Forest
