import OnDemandTls.Http.FallbackPage
import OnDemandTls.Main
import OnDemandTls.Proofs.Store.FileRefinement
import OnDemandTls.Proofs.Traffic.FailedIssuance
import OnDemandTls.Proofs.Traffic.HandOff
import OnDemandTls.Proofs.Traffic.IssuingOnce
import OnDemandTls.Proofs.Traffic.Rehearsed
import OnDemandTls.Rehearsal.Script
import OnDemandTls.Proofs.Json.Literals
import OnDemandTls.Proofs.Json.RoundTrip
import OnDemandTls.Proofs.ByteOrder
import OnDemandTls.Proofs.FileTree
import OnDemandTls.Proofs.Store.Reopening
import OnDemandTls.Proofs.PrimaryNames
import OnDemandTls.Proofs.Traffic.Entitlement
import OnDemandTls.Proofs.Traffic.UserBudget
import OnDemandTls.Proofs.Traffic.PrimaryRecord
import OnDemandTls.Proofs.Armour
import OnDemandTls.Proofs.Traffic.Freshness
import OnDemandTls.Proofs.Traffic.ServedHandshakes
import OnDemandTls.Proofs.Traffic.Retry
import OnDemandTls.Proofs.Staging.Answers
import OnDemandTls.Proofs.Store.Linearization
import OnDemandTls.Proofs.AbridgedConfig
import OnDemandTls.Proofs.Budget.Refill
import OnDemandTls.Proofs.Budget.Grants
import OnDemandTls.Proofs.Traffic.Transcripts
import OnDemandTls.Proofs.Traffic.StoreEffect
import OnDemandTls.Proofs.Budget.Ample
import OnDemandTls.Proofs.Traffic.Expenses
import OnDemandTls.Proofs.Staging.PaidCalls
import OnDemandTls.Proofs.Traffic.SweptRecords
import OnDemandTls.Proofs.SettledMain
import OnDemandTls.Proofs.Traffic.RenewedNames
import OnDemandTls.Proofs.Traffic.PrimaryCooldown
import OnDemandTls.Proofs.Budget.OwnBuckets
import OnDemandTls.Proofs.Http.RequestHost
import OnDemandTls.Proofs.TimedHistory
import OnDemandTls.Proofs.Http.Redirect
import OnDemandTls.Proofs.Acme.CleaningUp
import OnDemandTls.Proofs.Staging.Spellings
import OnDemandTls.Proofs.Store.Paging
import OnDemandTls.Proofs.Budget.Waiting
import OnDemandTls.Proofs.Chains
import OnDemandTls.Proofs.BindingKey
