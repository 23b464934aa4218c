import Mathlib.Data.String.Basic
import Mathlib.Tactic.Common

/-!
# The authenticated caller

Scopes and the route guard.  A platform admin passes every guard.
-/

namespace OpenSnow.Server

/-- The request context that authentication installs. -/
structure AuthContext where
  userId : Int
  username : String
  role : String
  tenantId : String
  scopes : List String
deriving DecidableEq, Repr

/-- The claims of a product token. -/
structure Claims where
  userId : Int
  username : String
  role : String
  tenantId : String
  scopes : List String
  sessionId : Option String
  authMethod : Option String
deriving DecidableEq, Repr

namespace AuthContext

def ofClaims (claims : Claims) : AuthContext where
  userId := claims.userId
  username := claims.username
  role := claims.role
  tenantId := claims.tenantId
  scopes := claims.scopes

def hasScope (auth : AuthContext) (scope : String) : Bool :=
  auth.scopes.any fun held => held == scope || held == "*"

def hasExplicitScope (auth : AuthContext) (scope : String) : Bool :=
  auth.scopes.any fun held => held == scope

def hasAnyScope (auth : AuthContext) (scopes : List String) : Bool :=
  scopes.any auth.hasScope

def hasAllScopes (auth : AuthContext) (scopes : List String) : Bool :=
  scopes.all auth.hasScope

def isPlatformAdmin (auth : AuthContext) : Bool :=
  auth.role == "ACCOUNTADMIN" || auth.role == "SYSADMIN" ||
    auth.hasAnyScope ["policy.admin", "admin"]

/-- `authorize`, for a request that carries a caller. -/
def authorize (auth : AuthContext) (allScopes anyScopes : List String) :
    Bool :=
  auth.isPlatformAdmin ||
    (!allScopes.isEmpty && auth.hasAllScopes allScopes) ||
    (!anyScopes.isEmpty && auth.hasAnyScope anyScopes)

end AuthContext

/-- A caller who may query and is no admin. -/
def analyst : AuthContext :=
  ⟨1, "test-user", "ANALYST", "default", ["sql.query", "table.select"]⟩

end OpenSnow.Server
