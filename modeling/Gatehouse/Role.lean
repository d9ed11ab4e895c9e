import Gatehouse.Text.Quoted

/-!
# Roles

The role of an account and its name.
-/

namespace Gatehouse

/-- What an account may do: use its own record, or administer all of them. -/
inductive Role
  | user
  | admin
  deriving DecidableEq, Repr

namespace Role

/-- The name under which a role is stored and written. -/
def name : Role → String
  | user => "user"
  | admin => "admin"

def ofName? : String → Option Role
  | "user" => some user
  | "admin" => some admin
  | _ => none

/-- Why a text that names no role is refused. -/
def unknownText (s : String) : String := "unknown role " ++ Text.quoted s

theorem ofName?_name (r : Role) : ofName? r.name = some r := by cases r <;> rfl

theorem ofName?_eq_some_iff {s : String} {r : Role} : ofName? s = some r ↔ s = r.name := by
  constructor
  · intro h
    unfold ofName? at h
    split at h <;> cases h <;> rfl
  · rintro rfl
    exact ofName?_name r

end Role

end Gatehouse
