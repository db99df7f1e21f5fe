import HexIam.GuardedRun
import HexIam.StatementTree
import HexIam.FailingRun
import HexIam.LogPaging
import HexIam.CallPool
import HexIam.KeyedTable
import HexIam.LruCache
import HexIam.LikePattern
import HexIam.Base64Url
import HexIam.PythonText
import HexIam.Tokens
import HexIam.Database
import HexIam.Statement
import HexIam.SessionService
import HexIam.OidcService
import HexIam.StatementRules
import HexIam.FederationService
import HexIam.AuthorizationFlow
import HexIam.PolicyService
import HexIam.Auth
import HexIam.TokenEndpoint
import HexIam.Footprint
import HexIam.SingleUse
import HexIam.TokenCalls
import HexIam.CodeRedemption
import HexIam.RefreshRotation
import HexIam.SessionStreamAgreement
import HexIam.WorkerAgreement
import HexIam.ConsentBinding
import HexIam.ClientAuthentication
import HexIam.RefreshChain
import HexIam.LoginAgreement
import HexIam.CachedVerification
import HexIam.AlgorithmConfusion
import HexIam.FileLock
import HexIam.SpacedTimes
import HexIam.Keyset
import HexIam.KeyFile
import HexIam.KeysetRepresentation
import HexIam.KeyTokens
import HexIam.KeyFileFreshness
import HexIam.KeyRotation
import HexIam.PublicJwks
import HexIam.TenantReads
import HexIam.TenantIsolation
import HexIam.TenantRows
import HexIam.TenantCoherence
import HexIam.SessionRevocation
import HexIam.LogoutCoverage
import HexIam.ManagementPrivileges
import HexIam.PolicyNarrowing
import HexIam.PolicyRepresentation
import HexIam.PolicyTenants
import HexIam.PolicyWrites
import HexIam.PathTemplate
import HexIam.Middleware
import HexIam.RevocationEnforcement
import HexIam.PurposeTokens
import HexIam.ManagementStatement
import HexIam.Management
import HexIam.Registration
import HexIam.FederatedSignIn
import HexIam.AccountStatus
import HexIam.TokenKinds
import HexIam.EmailProvenance
import HexIam.UpstreamNonce
import HexIam.FederatedTenants
import HexIam.ConcurrentSignIns
import HexIam.CallbackCompletion
import HexIam.InvitationUse
import HexIam.SharedAccounts
import HexIam.LoginRoutes
import HexIam.AuditLog
import HexIam.AuditRoundTrip
import HexIam.AuditConsumer
import HexIam.AuditBuffer
import HexIam.JsonDocument
import HexIam.RelatedCode
import HexIam.TenantSettings
import HexIam.SettingsRefinement
import HexIam.SettingsIsolation
import HexIam.SettingsCache
import HexIam.SettingsUpdates
import HexIam.TenantLists
import HexIam.FollowUp
import HexIam.ListCaches
import HexIam.PolicyEdits
import HexIam.UpdateRevocation
import HexIam.RevocationRetry
import HexIam.ProvisioningRetry
import HexIam.SequentialRedemption
import HexIam.StartupReplay
import HexIam.LossyCalls
import HexIam.LogoutEffect
import HexIam.DecisionEndpoint
import HexIam.MfaGate
import HexIam.OtpVerification
import HexIam.MergeLaws
import HexIam.SettingsMerge
import HexIam.TokenIds
import HexIam.PagedQuery
import HexIam.SessionListing
import HexIam.SessionPermanence
import HexIam.PagedListings
import HexIam.TemplatePages
import HexIam.SettingsModels
import HexIam.SettingsPatch
import HexIam.UrlQuery
import HexIam.RedirectUrls
import HexIam.UrlSplit
import HexIam.BackLinks
import HexIam.GrantHistory
import HexIam.GrantPreservation
import HexIam.IntrospectionExactness
import HexIam.RowSecurity
import HexIam.Migrations
import HexIam.MigrationRuns
import HexIam.RunRefinement
import HexIam.LogRules
import HexIam.PooledConnections
import HexIam.ConnectionSecurity
import HexIam.TableHistory
import HexIam.LateCalls
import HexIam.RowHistory
import HexIam.CredentialUse
import HexIam.KeyedDeployment
import HexIam.CodeFlow
import HexIam.InvitedSignIn
import HexIam.SecretRotation
import HexIam.JwksRotation
import HexIam.AuditPipeline
import HexIam.OnboardedSignIn
import HexIam.FederatedFlow
import HexIam.EndSession
