import TenantScope.Main
import TenantScope.Proofs.Http.Confinement
import TenantScope.Proofs.Scope.Noninterference
import TenantScope.Query.Layout
import TenantScope.Proofs.Scope.Restriction
import TenantScope.Proofs.Http.Relay
import TenantScope.Proofs.Http.Stages
import TenantScope.Proofs.Http.Arrangement
import TenantScope.Proofs.Http.Answers
import TenantScope.Proofs.Scope.Verdict
import TenantScope.Proofs.Http.Calls
import TenantScope.Proofs.Http.Unreachable
import TenantScope.Proofs.Http.Policies
import TenantScope.Proofs.Scope.Composition
import TenantScope.Proofs.Scope.FilterText
import TenantScope.Proofs.Http.Classification
import TenantScope.Proofs.Http.Merging
import TenantScope.Proofs.Query.Pruning
import TenantScope.Proofs.Scope.Layout
import TenantScope.Proofs.Query.Surroundings
