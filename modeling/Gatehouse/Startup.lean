import Gatehouse.Api.Router
import Gatehouse.Relations.Wire
import Gatehouse.Settings

/-!
# Starting the service

`start` brings the service up from its environment: settings, store, the client of the relationship
service, and the administrator that is asked for.
-/

namespace Gatehouse.Startup

/-- The service as it starts: its settings, what its handlers share, where the relationship service is,
and the accounts. -/
structure Running where
  settings : Settings
  application : Api.Application
  relationsBase : Url
  store : Store

/-- What the handlers share under some settings. -/
def applicationOf (settings : Settings) (stretching : Password.Stretching) : Api.Application where
  authority := ⟨utf8 settings.token.secret, settings.token.lifetime⟩
  policy := .standard
  scheme := ⟨settings.pepper, stretching⟩

/-- A client that is never asked. -/
def noClient : Relations.Client Unit := fun _ state => (.error (.unavailable ""), state)

/-- The store with the administrator that the settings ask for. -/
def withAdmin (settings : Settings) (scheme : Password.Scheme) (occasion : Occasion) (store : Store) :
    Except String Store :=
  match settings.admin with
  | none => .ok store
  | some admin =>
    let ensure :=
      Service.ensureAdmin scheme occasion (Api.normalEmail admin.email) admin.password
    match ensure.run.run (Program.inMemory noClient) (store, ()) with
    | (.ok _, (store, _)) => .ok store
    | (.error _, _) => .error "bootstrap admin"

/-- Starts the service. There is no database to be reached, so that an environment that names one fails;
without one the accounts are kept in memory. -/
def start (env : Environment) (stretching : Password.Stretching) (occasion : Occasion) :
    Except String Running := do
  let settings ← Settings.ofEnvironment env
  if settings.databaseUrl.isSome then throw "connect to database"
  let relationsBase ← match Relations.Wire.baseOf? settings.familyUrl with
    | some base => pure base
    | none => throw "invalid family service URL"
  let application := applicationOf settings stretching
  let store ← withAdmin settings application.scheme occasion .empty
  pure { settings, application, relationsBase, store }

end Gatehouse.Startup
