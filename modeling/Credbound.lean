import Credbound.Manager.Identifiers
import Credbound.Memory.Addresses
import Credbound.OAuthClientAdapter.SingleUse
import Credbound.OAuthHTTP.Fetcher
import Credbound.SCIMHandler.UserPatch
import Credbound.Stores.Accounts
import Credbound.Stores.Assignments
import Credbound.Stores.Ceremonies
import Credbound.Stores.DirectoryRoles
import Credbound.Stores.DisabledClients
import Credbound.Stores.DisabledUsers
import Credbound.Stores.Families
import Credbound.Stores.Grants
import Credbound.Stores.IdleTimeout
import Credbound.Stores.Interleavings
import Credbound.Stores.Resources
import Credbound.Stores.RoleOrder
import Credbound.Stores.Scopes
import Credbound.Stores.SecondFactors
import Credbound.Stores.SignInMethods
import Credbound.Stores.StepUp
import Credbound.Stores.TokenErrors
import Credbound.Stores.UserInfo
