import Gatehouse.Account.Json
import Gatehouse.Listen
import Gatehouse.Startup
import Gatehouse.Proofs.Api.Ownership
import Gatehouse.Proofs.Api.Refusal
import Gatehouse.Proofs.Api.Roles
import Gatehouse.Proofs.Store.Ids
import Gatehouse.Proofs.Service.Coverage
import Gatehouse.Proofs.Service.Credentials
import Gatehouse.Proofs.Service.Retry
import Gatehouse.Proofs.Token.Validity
import Gatehouse.Proofs.Token.Acceptance
import Gatehouse.Proofs.Program.Pool
import Gatehouse.Proofs.Service.Exclusion
import Gatehouse.Proofs.Service.Overlap
import Gatehouse.Proofs.Api.SignIn
import Gatehouse.Proofs.Service.Missing
import Gatehouse.Proofs.Api.Tidy
import Gatehouse.Proofs.Startup
import Gatehouse.Proofs.Api.Trouble
import Gatehouse.Proofs.Api.Outage
import Gatehouse.Proofs.Service.Interruption
import Gatehouse.Proofs.Api.Secrecy
import Gatehouse.Proofs.Api.Footprint
import Gatehouse.Proofs.Service.Families
import Gatehouse.Proofs.Service.Administrator
import Gatehouse.Proofs.Access
import Gatehouse.Proofs.Relations.Wire
import Gatehouse.Proofs.Relations.Endpoint
import Gatehouse.Proofs.Service.Patches
import Gatehouse.Proofs.Api.SignUp
import Gatehouse.Proofs.Store.Commutation
import Gatehouse.Proofs.Account
import Gatehouse.Proofs.Settings
import Gatehouse.Proofs.Token.Presentation
