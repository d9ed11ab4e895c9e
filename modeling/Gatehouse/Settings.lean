import Gatehouse.Text.Blank
import Gatehouse.Text.Integer

/-!
# Settings

The settings of the service, read from the variables of its environment. Only the secret of the tokens
has to be set; a number that cannot be read counts as not set.
-/

namespace Gatehouse

abbrev Environment := List (String × String)

/-- Who has to exist as an administrator when the service starts. -/
structure AdminSettings where
  email : String
  password : String
  deriving DecidableEq, Repr

structure TokenSettings where
  secret : String
  minutes : Int
  deriving DecidableEq, Repr

namespace TokenSettings

/-- The longest lifetime of a token: a year. -/
def maxMinutes : Int := 60 * 24 * 365

/-- The lifetime of tokens in seconds: between a minute and a year. -/
def lifetime (t : TokenSettings) : Nat := (max 1 (min t.minutes maxMinutes)).toNat * 60

/-- Token settings with a secret that is not blank. -/
def make (secret : String) (minutes : Int) : Except String TokenSettings :=
  if Text.isBlankText secret then .error "JWT_SECRET must not be empty" else .ok ⟨secret, minutes⟩

end TokenSettings

structure Settings where
  databaseUrl : Option String
  token : TokenSettings
  pepper : String
  familyUrl : String
  familyTimeout : Nat
  requestTimeout : Nat
  admin : Option AdminSettings
  deriving DecidableEq, Repr

namespace Settings

/-- The text of a variable if it is set and not empty. -/
def filled? (env : Environment) (name : String) : Option String :=
  (env.lookup name).filter fun text => !text.isEmpty

/-- The number of a variable, or a default where it is not set or is no number. -/
def numberOr {α : Type} (read : String → Option α) (env : Environment) (name : String)
    (default : α) : α :=
  ((env.lookup name).bind read).getD default

/-- The administrator that an environment asks for: both variables are set and not empty. -/
def adminOf (env : Environment) : Option AdminSettings := do
  pure ⟨← filled? env "ADMIN_EMAIL", ← filled? env "ADMIN_PASSWORD"⟩

def ofEnvironment (env : Environment) : Except String Settings := do
  let secret ← match env.lookup "JWT_SECRET" with
    | some secret => pure secret
    | none => throw "JWT_SECRET is not set"
  let token ← TokenSettings.make secret (numberOr Text.word? env "JWT_TTL_MINUTES" 60)
  pure {
    databaseUrl := filled? env "DATABASE_URL"
    token
    pepper := (env.lookup "HASH_SALT").getD ""
    familyUrl := (env.lookup "FAMILY_SERVICE_URL").getD "http://127.0.0.1:8081"
    familyTimeout := numberOr Text.natWord? env "FAMILY_TIMEOUT_SECS" 5
    requestTimeout := numberOr Text.natWord? env "REQUEST_TIMEOUT_SECS" 10
    admin := adminOf env }

end Settings

end Gatehouse
