import AccountSidecar.Config.File
import AccountSidecar.Http.Serve
import AccountSidecar.Mail
import AccountSidecar.Main
import AccountSidecar.Proofs.Approvals
import AccountSidecar.Proofs.Base32
import AccountSidecar.Proofs.CodeRequests
import AccountSidecar.Proofs.CodeResets
import AccountSidecar.Proofs.CodeSelection
import AccountSidecar.Proofs.CodeWindow
import AccountSidecar.Proofs.CommandLineAccounts
import AccountSidecar.Proofs.ConfigReferences
import AccountSidecar.Proofs.Deliveries
import AccountSidecar.Proofs.DeliveryFaults
import AccountSidecar.Proofs.FailedCommands
import AccountSidecar.Proofs.Failures
import AccountSidecar.Proofs.FanOut
import AccountSidecar.Proofs.FirstLogin
import AccountSidecar.Proofs.HalfwayApprovals
import AccountSidecar.Proofs.Housekeeping
import AccountSidecar.Proofs.LineRoundTrip
import AccountSidecar.Proofs.MetadataMirror
import AccountSidecar.Proofs.MissingValues
import AccountSidecar.Proofs.NestedTexts
import AccountSidecar.Proofs.NewPasswords
import AccountSidecar.Proofs.PasswordChanges
import AccountSidecar.Proofs.PhoneOwners
import AccountSidecar.Proofs.PostedTexts
import AccountSidecar.Proofs.ReadBack
import AccountSidecar.Proofs.RecoveryPhones
import AccountSidecar.Proofs.RequestAnswers
import AccountSidecar.Proofs.ResetAnswers
import AccountSidecar.Proofs.ResetTokens
import AccountSidecar.Proofs.Secrets
import AccountSidecar.Proofs.ServiceOutcomes
import AccountSidecar.Proofs.SessionLifetimes
import AccountSidecar.Proofs.SessionRoutes
import AccountSidecar.Proofs.StoreFaults
import AccountSidecar.Proofs.StoredSecrets
import AccountSidecar.Proofs.Substitution
import AccountSidecar.Proofs.TargetLists
import AccountSidecar.Proofs.TemplateFaults
import AccountSidecar.Proofs.TokenClaims
import AccountSidecar.Restart
import AccountSidecar.Server
import AccountSidecar.State.Columns
import AccountSidecar.Webhook.Sms
