import Gatehouse.Proofs.Api.Session
import Gatehouse.Proofs.Store.Frame
import Gatehouse.Proofs.Token.RoundTrip

/-!
# Who is an administrator

* `keepsRoles_request` — no request changes a role or adds an administrator;
* `admin_perform` — a step makes an administrator only by ensuring one;
* `Session.Provenance` — every administrator was ensured, and every token was issued to an account whose role was that
  of the account at that time; every step keeps this;
* `no_role_escalation` — so that a token for the operations of administrators leads back to an ensured one.
-/

namespace Gatehouse

open Http (Request Response)
open Api (Application)

/-! ## Operations that set no role -/

namespace Operation

def SetsNoRole : Operation → Prop
  | ensureAdmin .. => False
  | _ => True

lemma May.setsNoRole {o : Operation} {c : Store.Call} (hc : o.May (.store c)) (ho : o.SetsNoRole) :
    c.SetsNoRole := by
  cases o <;> cases c <;> trivial

end Operation

lemma Api.Asks.setsNoRole {app : Application} {occasion : Occasion} {verified : Option Token.Claims}
    {request : Request} {route : Api.Route} {o : Operation} (h : Api.Asks app occasion verified request route o) :
    o.SetsNoRole := by
  cases h <;> trivial

/-- A step ensured that the account of `id` is an administrator. -/
def Deed.Ensures (id : Int) : Deed → Prop
  | .operation ⟨.ensureAdmin .., _, .ok found⟩ => found = id
  | _ => False

namespace Session

variable {ρ : Type} {app : Application} {client : Relations.Client ρ} {t : Session ρ}

/-! ## One step -/

lemma keepsRoles_operation (t : Session ρ) {o : Operation} (ho : o.SetsNoRole) :
    t.store.KeepsRoles (t.perform app client (.operation o)).store :=
  Program.run_preserves Store.Keeps.refl Store.Keeps.trans
    (fun _ hc s => Store.keepsRoles_serve (hc.setsNoRole ho) s) client o.makes t.store t.peer

/-- **A request keeps all roles,** whatever it is. -/
theorem keepsRoles_request (t : Session ρ) (occasion : Occasion) (request : Request) :
    t.store.KeepsRoles (t.perform app client (.request occasion request)).store := by
  show t.store.KeepsRoles (t.effect app client (.request occasion request)).1
  rcases t.effect_request_cases occasion request with h | ⟨route, verified, o, hasks, h⟩
  · rw [h]
    exact .refl _
  · rw [h]
    exact keepsRoles_operation t hasks.setsNoRole

/-- **What a step does to roles.** It keeps them all; or it ensures that an account is an administrator, and leaves
all others as they were. -/
theorem roles_perform (h : t.store.WellFormed) (step : Step) :
    t.store.KeepsRoles (t.perform app client step).store ∨
      ∃ id, (t.deed app client step).Ensures id ∧
        (∃ b, (t.perform app client step).store.account? id = some b ∧ b.role = .admin) ∧
        ∀ j ≠ id, (t.perform app client step).store.account? j = t.store.account? j := by
  cases step with
  | request occasion request => exact .inl (keepsRoles_request t occasion request)
  | operation o =>
    cases o with
    | ensureAdmin occasion email password =>
      show t.store.KeepsRoles (t.effect app client _).1 ∨ ∃ id, _ ∧ (∃ b, (t.effect app client _).1.account? id = _ ∧ _) ∧
        ∀ j ≠ id, (t.effect app client _).1.account? j = _
      -- refused, or a new account, or one that was there
      rcases @Service.ensureAdmin_cases ρ client app.scheme occasion email password t.store h t.peer with
        ⟨fault, hrun⟩ | ⟨tag, n, -, -, -, hrun⟩ | ⟨a, ha, -, hrun⟩
      · rw [effect_operation_eq (o := .ensureAdmin occasion email password) hrun]
        exact .inl (.refl _)
      · rw [effect_operation_eq (o := .ensureAdmin occasion email password) hrun,
          deed_operation_eq (o := .ensureAdmin occasion email password) hrun]
        refine .inr ⟨_, rfl, ⟨_, Store.account?_put_self (h.account?_add_self n), rfl⟩, fun j hj => ?_⟩
        rw [Store.account?_put_of_ne hj, Store.account?_add, if_neg hj, Option.or_none]
      · rw [effect_operation_eq (o := .ensureAdmin occasion email password) hrun,
          deed_operation_eq (o := .ensureAdmin occasion email password) hrun]
        refine .inr ⟨a.id, rfl, ⟨_, Store.account?_put_self (h.holder?_eq_some_iff.1 ha).1, rfl⟩, fun j hj => ?_⟩
        exact Store.account?_put_of_ne hj
    | _ => exact .inl (keepsRoles_operation t trivial)

section Perform

variable {step : Step} {id : Int} {a b : Account}

/-- **A step makes an administrator only by ensuring one.** -/
theorem admin_perform (h : t.store.WellFormed) (hb : (t.perform app client step).store.account? id = some b)
    (hadmin : b.role = .admin) :
    (∃ a, t.store.account? id = some a ∧ a.role = .admin) ∨ (t.deed app client step).Ensures id := by
  rcases @roles_perform ρ app client t h step with hkeeps | ⟨i, hi, -, hothers⟩
  · rcases hkeeps.2 id b hb with ⟨a, ha, he⟩ | ⟨-, huser⟩
    · exact .inl ⟨a, ha, he.trans hadmin⟩
    · rw [hadmin] at huser
      cases huser
  · by_cases hid : id = i
    · exact .inr (hid ▸ hi)
    · rw [hothers id hid] at hb
      exact .inl ⟨b, hb, hadmin⟩

/-- **An administrator stays one** in every step that leaves the account. -/
theorem admin_stays (h : t.store.WellFormed) (ha : t.store.account? id = some a) (hadmin : a.role = .admin)
    (hb : (t.perform app client step).store.account? id = some b) : b.role = .admin := by
  rcases @roles_perform ρ app client t h step with hkeeps | ⟨i, -, ⟨c, hc, hrole⟩, hothers⟩
  · rcases hkeeps.2 id b hb with ⟨c, hc, he⟩ | ⟨hid, -⟩
    · rw [ha] at hc
      cases hc
      exact he.symm.trans hadmin
    · rw [h.account?_eq_none_of_lt hid] at ha
      cases ha
  · by_cases hid : id = i
    · subst hid
      rw [hb] at hc
      cases hc
      exact hrole
    · rw [hothers id hid, ha] at hb
      cases hb
      exact hadmin

end Perform

/-! ## Whole runs -/

/-- The store of a run is well-formed, every administrator was ensured in the run, and every token that the run gave
was issued to an account of that moment, which was ensured before that if it was an administrator. -/
structure Provenance (app : Application) (t : Session ρ) : Prop where
  wellFormed : t.store.WellFormed
  admin : ∀ id a, t.store.account? id = some a → a.role = .admin → ∃ d ∈ t.history, d.Ensures id
  token : ∀ d earlier token, d :: earlier <:+ t.history → d.Gives token →
    ∃ now a, d.before.account? a.id = some a ∧ app.authority.issue now a = .ok token ∧
      (a.role = .admin → ∃ e ∈ earlier, e.Ensures a.id)

lemma before_deed (t : Session ρ) (step : Step) : (t.deed app client step).before = t.store := by
  cases step <;> rfl

lemma provenance_start (peer : ρ) : (start peer).Provenance app where
  wellFormed := Store.wellFormed_empty
  admin := by intro id a ha; cases ha
  token := by intro d earlier token hd; cases List.suffix_nil.1 hd

/-- **Every step keeps the provenance of administrators and tokens.** -/
theorem Provenance.perform (h : t.Provenance app) (step : Step) : (t.perform app client step).Provenance app where
  wellFormed := perform_wellFormed h.wellFormed step
  admin := by
    intro id b hb hadmin
    rcases admin_perform h.wellFormed hb hadmin with ⟨a, ha, hrole⟩ | hensures
    · obtain ⟨d, hd, he⟩ := h.admin id a ha hrole
      exact ⟨d, List.mem_cons_of_mem _ hd, he⟩
    · exact ⟨_, List.mem_cons_self, hensures⟩
  token := by
    intro d earlier token hd hg
    rcases List.suffix_cons_iff.1 hd with he | hd
    · -- the token is given in this very step, to an account of the store that the step found
      obtain ⟨rfl, rfl⟩ := List.cons.inj he
      obtain ⟨now, a, ha, hissue⟩ := exists_account_of_gives h.wellFormed hg
      exact ⟨now, a, by rw [before_deed]; exact ha, hissue, h.admin a.id a ha⟩
    · exact h.token d earlier token hd hg

theorem provenance_run (peer : ρ) (steps : List Step) : (run app client peer steps).Provenance app :=
  run_induction (provenance_start peer) (fun _ step h => h.perform step) steps

/-- Every token that a request of the run presents and that is verified was given by a step of the run. -/
def Honest (app : Application) (t : Session ρ) : Prop :=
  ∀ occasion request before response, .request occasion request before response ∈ t.history →
    ∀ token claims, Presents request.headers token → app.authority.verify occasion.now token = .ok claims →
      ∃ d ∈ t.history, d.Gives token

/-- A token that the run gave and that tells the role of an administrator was given to one who was ensured before. -/
lemma Provenance.ensured_of_gives (h : t.Provenance app) {d : Deed} {earlier : List Deed} {token : String}
    (hd : d :: earlier <:+ t.history) (hg : d.Gives token) {later : Moment} {claims : Token.Claims}
    (hv : app.authority.verify later token = .ok claims) (hadmin : claims.role = .admin) :
    ∃ a, d.before.account? a.id = some a ∧ claims.subject = String.ofList (Text.decimal a.id) ∧
      ∃ e ∈ earlier, e.Ensures a.id := by
  obtain ⟨now, a, ha, hissue, hensured⟩ := h.token d earlier token hd hg
  obtain ⟨expiry, -, hverify⟩ := Token.verify_issue hissue
  rw [hverify later] at hv
  split at hv
  · cases hv
  · cases hv
    exact ⟨a, ha, rfl, hensured hadmin⟩

end Session

/-- **Nobody becomes an administrator who was not ensured as one.** Behind any run of requests and operations on the
empty store, every administrator was ensured in the run. Whatever request comes next, it changes no role of an account
that is there and adds only plain users; whatever step comes next, an administrator whose account stays remains one.
If every token that was presented and verified was given in the run, then whoever was authorized for an operation that
plain users may not perform presented a token that the run gave to an account which had been ensured before that. -/
theorem no_role_escalation {ρ : Type} (app : Application) (client : Relations.Client ρ) (peer : ρ)
    (steps : List Step) :
    let t := Session.run app client peer steps
    (∀ id a, t.store.account? id = some a → a.role = .admin → ∃ d ∈ t.history, d.Ensures id) ∧
    (∀ occasion request,
      let u := (t.perform app client (.request occasion request)).store
      (∀ id a b, t.store.account? id = some a → u.account? id = some b → b.role = a.role) ∧
      ∀ id b, t.store.account? id = none → u.account? id = some b → b.role = .user) ∧
    (∀ step id a b, t.store.account? id = some a → a.role = .admin →
      (t.perform app client step).store.account? id = some b → b.role = .admin) ∧
    (t.Honest app → ∀ occasion request before response, .request occasion request before response ∈ t.history →
      ∀ operation roles claims, app.policy.allowed? operation = some roles → .user ∉ roles →
        Access.authorize app.authority app.policy occasion.now operation request.headers = .ok (some claims) →
        ∃ token d earlier a, Presents request.headers token ∧ d :: earlier <:+ t.history ∧ d.Gives token ∧
          d.before.account? a.id = some a ∧ claims.subject = String.ofList (Text.decimal a.id) ∧
          ∃ e ∈ earlier, e.Ensures a.id) := by
  intro t
  have h : t.Provenance app := Session.provenance_run peer steps
  refine ⟨h.admin, fun occasion request => ⟨?_, ?_⟩, fun step id a b => Session.admin_stays h.wellFormed, ?_⟩
  · intro id a b ha hb
    rcases (t.keepsRoles_request occasion request).2 id b hb with ⟨c, hc, he⟩ | ⟨hid, -⟩
    · rw [ha] at hc
      cases hc
      exact he.symm
    · rw [h.wellFormed.account?_eq_none_of_lt hid] at ha
      cases ha
  · intro id b hn hb
    rcases (t.keepsRoles_request occasion request).2 id b hb with ⟨c, hc, -⟩ | ⟨-, huser⟩
    · rw [hn] at hc
      cases hc
    · exact huser.symm
  · intro hhonest occasion request before response hmem operation roles claims hr huser hauth
    obtain ⟨token, hp, hv, hrole⟩ := Access.exists_token_of_authorize hr hauth
    obtain ⟨d, hd, hg⟩ := hhonest occasion request before response hmem token claims hp hv
    obtain ⟨newer, earlier, hhistory⟩ := List.append_of_mem hd
    have hsuffix : d :: earlier <:+ t.history := ⟨newer, hhistory.symm⟩
    have hadmin : claims.role = .admin := by
      cases he : claims.role with
      | admin => rfl
      | user => exact absurd (he ▸ hrole) huser
    obtain ⟨a, ha, hsubject, hensured⟩ := h.ensured_of_gives hsuffix hg hv hadmin
    exact ⟨token, d, earlier, a, hp, hsuffix, hg, ha, hsubject, hensured⟩

end Gatehouse
