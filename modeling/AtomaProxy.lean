import AtomaProxy.Base.Machine
import AtomaProxy.Base.Checked
import AtomaProxy.Base.Bigint
import AtomaProxy.Base.Reservation
import AtomaProxy.Base.Table
import AtomaProxy.State.FiatBalances
import AtomaProxy.State.FiatLedger
import AtomaProxy.State.Stacks
import AtomaProxy.State.StackAccounting
import AtomaProxy.Base.Effect
import AtomaProxy.Server.Errors
import AtomaProxy.Server.Value
import AtomaProxy.Server.Settlement
import AtomaProxy.Server.RequestModel
import AtomaProxy.Server.LockAmount
import AtomaProxy.Base.Bytes
import AtomaProxy.Auth.SuiCrypto
import AtomaProxy.Server.VerifyResponse
import AtomaProxy.Server.Streamer
import AtomaProxy.Server.StreamerSettles
import AtomaProxy.Server.SseItems
import AtomaProxy.Server.StreamerChunks
import AtomaProxy.Server.Handlers
import AtomaProxy.Server.Middleware
import AtomaProxy.Server.FiatRequest
import AtomaProxy.Auth.Errors
import AtomaProxy.Auth.IssDetails
import AtomaProxy.Auth.WalletSignature
import AtomaProxy.State.CryptoBalances
import AtomaProxy.Auth.UsdcPayment
import AtomaProxy.Auth.WalletProof
import AtomaProxy.Auth.PayerProvenance
import AtomaProxy.Auth.PaymentCredits
import AtomaProxy.Server.AcquireStack
import AtomaProxy.Server.UsdcConservation
import AtomaProxy.Server.FiatPasses
import AtomaProxy.Server.ChargeAgreement
import AtomaProxy.Server.ConfidentialCompute
import AtomaProxy.State.SettlementRelease
import AtomaProxy.Server.ResponseAuthenticity
import AtomaProxy.Base.Records
import AtomaProxy.State.NodeKeys
import AtomaProxy.State.Attestation
import AtomaProxy.State.KeyProvenance
import AtomaProxy.State.StackLifecycle
import AtomaProxy.Base.Slots
import AtomaProxy.State.SettlementTickets
import AtomaProxy.State.AttestationSlots
import AtomaProxy.Server.LockStackTarget
import AtomaProxy.Server.LockOwnership
import AtomaProxy.Server.ConfidentialLedger
import AtomaProxy.Base.TableTotals
import AtomaProxy.State.SettlementRecords
import AtomaProxy.State.ThroughputStats
import AtomaProxy.State.UsageReconciliation
import AtomaProxy.Service.ZkSalt
import AtomaProxy.State.Nodes
import AtomaProxy.State.NodeOwnership
import AtomaProxy.Base.Channel
import AtomaProxy.State.RunLoop
import AtomaProxy.Base.LastWriter
import AtomaProxy.State.NodeUrls
import AtomaProxy.State.StackStats
import AtomaProxy.Base.HeapLibrary
import AtomaProxy.Server.LockPruning
import AtomaProxy.Base.Exclusive
import AtomaProxy.Server.LockGuard
import AtomaProxy.Auth.Sessions
import AtomaProxy.Auth.SessionRevocation
import AtomaProxy.Auth.IndependentSessions
import AtomaProxy.Auth.CoinSelection
import AtomaProxy.Server.ImageSize
import AtomaProxy.Base.Binary64
import AtomaProxy.Base.ShortestDecimal
import AtomaProxy.Base.Sql
import AtomaProxy.Base.QueryBuilder
import AtomaProxy.Server.OutputReservation
import AtomaProxy.Base.Aggregates
import AtomaProxy.Base.Base64
import AtomaProxy.Auth.Base64Fragments
import AtomaProxy.State.Metrics
import AtomaProxy.State.MetricsFreshness
import AtomaProxy.State.AlmostFilledStacks
import AtomaProxy.Server.StreamingResponse
import AtomaProxy.Base.Rows
import AtomaProxy.Base.JsonText
import AtomaProxy.Service.SignedNodeData
import AtomaProxy.Service.NodePublishing
import AtomaProxy.State.TaskRegistry
import AtomaProxy.Base.Log
import AtomaProxy.Auth.Accounts
import AtomaProxy.Server.ApiTokens
import AtomaProxy.Server.FiatConcurrency
import AtomaProxy.Server.ChargedUser
import AtomaProxy.Server.CustomPricing
import AtomaProxy.Base.TwoRuns
import AtomaProxy.Server.ClientAnswer
import AtomaProxy.Server.StackSearch
import AtomaProxy.Server.RetryLedger
import AtomaProxy.Server.RetryOwnership
