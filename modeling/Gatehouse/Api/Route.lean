/-!
# Routes

The paths that the service answers, and the methods that each takes.
-/

namespace Gatehouse.Api

inductive Route
  | signUp
  | signIn
  | isAdmin
  | getUserInfo
  | getUserInfoById
  | updateUserInfo
  | changePassword
  | addFamily
  | deleteFamily
  | deleteUser
  | health
  deriving DecidableEq, Repr

namespace Route

def path : Route → String
  | signUp => "/Auth/SignUp"
  | signIn => "/Auth/SignIn"
  | isAdmin => "/Permissions/IsAdmin"
  | getUserInfo => "/UserInfo/GetUserInfo"
  | getUserInfoById => "/UserInfo/GetUserInfoByID"
  | updateUserInfo => "/UserInfo/UpdateUserInfo"
  | changePassword => "/UserInfo/ChangePassword"
  | addFamily => "/UserInfo/AddFamily"
  | deleteFamily => "/UserInfo/DeleteFamily"
  | deleteUser => "/UserInfo/DeleteUser"
  | health => "/health"

def all : List Route :=
  [signUp, signIn, isAdmin, getUserInfo, getUserInfoById, updateUserInfo, changePassword, addFamily,
    deleteFamily, deleteUser, health]

/-- The route of a path, which has to be written exactly so. -/
def ofPath? (path : String) : Option Route := all.find? fun r => r.path == path

def methods : Route → List String
  | health => ["GET", "HEAD"]
  | _ => ["POST"]

theorem ofPath?_path (r : Route) : ofPath? r.path = some r := by cases r <;> decide

theorem ofPath?_eq_some_iff {path : String} {r : Route} : ofPath? path = some r ↔ path = r.path := by
  constructor
  · intro h
    have := List.find?_some h
    exact (beq_iff_eq.1 this).symm
  · rintro rfl
    exact ofPath?_path r

end Route

end Gatehouse.Api
