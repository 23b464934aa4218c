import OpenSnow.Agent.AutoSchema
import OpenSnow.Auth.HandleRuns
import OpenSnow.Auth.KeyRotation
import OpenSnow.Auth.OidcCompleteness
import OpenSnow.Auth.OidcVerifier
import OpenSnow.Auth.PolicyResources
import OpenSnow.Auth.RoleIsolation
import OpenSnow.Auth.RoleMappingIds
import OpenSnow.Auth.SsoUsers
import OpenSnow.Catalog.Accounts
import OpenSnow.Catalog.AuditIntegrity
import OpenSnow.Catalog.EntitlementLimit
import OpenSnow.Catalog.MaterializedViews
import OpenSnow.Compat.Functions
import OpenSnow.Compat.Qualified
import OpenSnow.Core.EngineHandle
import OpenSnow.Core.EstablishedTables
import OpenSnow.Core.LayoutInvariance
import OpenSnow.Core.StorageBackends
import OpenSnow.Core.WarehouseActions
import OpenSnow.Distributed.Coordinator
import OpenSnow.Distributed.HashFragments
import OpenSnow.Distributed.K8s
import OpenSnow.Distributed.Reconciliation
import OpenSnow.Distributed.WorkerPool
import OpenSnow.Iceberg.FailedAppends
import OpenSnow.Iceberg.TimeTravel
import OpenSnow.Industry.BankCuts
import OpenSnow.Industry.Broadcast
import OpenSnow.Industry.Compliance
import OpenSnow.Industry.Luhn
import OpenSnow.Ingest.Conservation
import OpenSnow.Ingest.Kafka
import OpenSnow.Ingest.PipeGrammar
import OpenSnow.Ingest.PipeIngest
import OpenSnow.Mcp.ReadAuthority
import OpenSnow.Mcp.UniformPolicy
import OpenSnow.Queue.Readiness
import OpenSnow.Queue.ServiceOrder
import OpenSnow.Server.Charts
import OpenSnow.Server.ClientExpiry
import OpenSnow.Server.DemoAgreement
import OpenSnow.Server.ExportStatements
import OpenSnow.Server.IngestReplace
import OpenSnow.Server.PgFaithful
import OpenSnow.Server.PgRows
import OpenSnow.Server.Pipeline
import OpenSnow.Server.QueryFronts
import OpenSnow.Server.QueryGauges
import OpenSnow.Server.QueryQuota
import OpenSnow.Server.ScimIntegrity
import OpenSnow.Server.ScimParity
import OpenSnow.Server.ScimTokens
import OpenSnow.Server.SecretSpellings
import OpenSnow.Server.SessionNoops
import OpenSnow.Server.SsoAdmin
import OpenSnow.Server.TenantDirectories
