import Gatehouse.Token.Bearer

/-!
# Access rules

A policy is a table from operations to the roles that may perform them; an operation that is not in the
table is open to everybody.

* `operationOf?` names the operation of a path.
* `Policy.standard` is the policy of the service.
* `authorize` decides whether a request may perform an operation.
-/

namespace Gatehouse.Access

/-- A table of rules, the latest first. -/
abbrev Policy := List (String × List Role)

namespace Policy

def protect (policy : Policy) (operation : String) (roles : List Role) : Policy :=
  (operation, roles) :: policy

/-- The roles that may perform an operation, if there is a rule for it. -/
def allowed? (policy : Policy) (operation : String) : Option (List Role) := policy.lookup operation

/-- The policy that a list of rules builds when they are set in order. -/
def ofRules (rules : List (String × List Role)) : Policy :=
  rules.foldl (fun policy rule => policy.protect rule.1 rule.2) []

def standard : Policy :=
  ofRules [("Permissions.IsAdmin", [.admin]),
    ("UserInfo.GetUserInfo", [.user, .admin]),
    ("UserInfo.UpdateUserInfo", [.user, .admin]),
    ("UserInfo.ChangePassword", [.user, .admin]),
    ("UserInfo.GetUserInfoByID", [.admin]),
    ("UserInfo.AddFamily", [.admin]),
    ("UserInfo.DeleteFamily", [.admin]),
    ("UserInfo.DeleteUser", [.admin])]

end Policy

/-- The operation that a path names: two parts that are not empty, behind any number of slashes. -/
def operationOf? (path : String) : Option String :=
  match (path.toList.dropWhile (· == '/')).splitOn '/' with
  | [service, method] =>
    if service.isEmpty || method.isEmpty then none
    else some (String.ofList (service ++ '.' :: method))
  | _ => none

/-- Whether a request with the given headers may perform an operation. Gives the verified claims of the
caller, and nothing for an operation that is open to everybody. -/
def authorize (authority : Token.Authority) (policy : Policy) (now : Moment) (operation : String)
    (headers : Http.Headers) : Except Fault (Option Token.Claims) := do
  match policy.allowed? operation with
  | none => pure none
  | some roles =>
    let claims ← authority.claimsOfHeaders now headers
    if roles.contains claims.role then pure (some claims) else throw .forbidden

end Gatehouse.Access
