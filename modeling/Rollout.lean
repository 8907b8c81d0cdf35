import Rollout.Session
import Rollout.Proofs.Plan.Allocation
import Rollout.Proofs.Resolution.Refusals
import Rollout.Proofs.Resolution.Tolerance
import Rollout.Proofs.Catalog.Log
import Rollout.Proofs.Lookup.Leads
import Rollout.Proofs.Resolution.Evidence
import Rollout.Proofs.Resolution.Metadata
import Rollout.Proofs.Resolution.OneType
import Rollout.Proofs.Monitoring.PlanPage
import Rollout.Proofs.Lookup.Closed
import Rollout.Proofs.Resolution.Questions
import Rollout.Proofs.Resolution.Division
import Rollout.Proofs.Resolution.Pins
import Rollout.Proofs.Resolution.Renewal
import Rollout.Proofs.Resolution.AllTypes
import Rollout.Proofs.Resolution.Batches
import Rollout.Proofs.History.Window
import Rollout.Proofs.Session.Recording
import Rollout.Proofs.Catalog.Spelling
import Rollout.Proofs.Settings.Delivery
import Rollout.Proofs.Settings.Runs
import Rollout.Proofs.Settings.File
import Rollout.Proofs.Text.Escaped
import Rollout.Proofs.Monitoring.EncodedPaths
import Rollout.Proofs.Monitoring.VersionPage
import Rollout.Proofs.Resolution.Blame
import Rollout.Proofs.Session.Records
import Rollout.Proofs.Session.Course
import Rollout.Proofs.Plan.Ordering
import Rollout.Proofs.Plan.Growth
import Rollout.Proofs.Resolution.EmptyPlans
import Rollout.Proofs.Resolution.Retries
import Rollout.Proofs.Plan.Merging
import Rollout.Proofs.Catalog.Exclusion
import Rollout.Proofs.Catalog.Updates
import Rollout.Proofs.Resolution.StoredOrder
import Rollout.Proofs.Resolution.Exemptions
import Rollout.Proofs.Monitoring.ExactPages
import Rollout.Proofs.Monitoring.Listing
import Rollout.Proofs.Image.NormalForm
import Rollout.Proofs.Resolution.FirstDecisions
import Rollout.Proofs.Monitoring.StatusPage
import Rollout.Proofs.Monitoring.Starting
import Rollout.Proofs.Settings.File
import Rollout.Proofs.Settings.Readings
