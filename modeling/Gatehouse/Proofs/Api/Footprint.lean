import Gatehouse.Proofs.Api.Errand
import Gatehouse.Proofs.Program.Locality
import Gatehouse.Proofs.Service.Interruption
import Gatehouse.Proofs.Store.Ids

/-!
# What a request may change

* `Api.Turns` — what a request to a route may turn a store into, apart from leaving it alone: which record is created,
  changed or removed, and which of its fields;
* `Api.Asks.turns` — a call that an operation may make does no more than a request for the operation may;
* `Api.request_footprint` — so that no request does more.
-/

namespace Gatehouse

open Http (Request Response)
open Program (inMemory)

/-- What no request changes of an account. -/
def Account.lasting (a : Account) : Int × Moment × Role := (a.id, a.registeredAt, a.role)

namespace Api

variable {app : Application} {occasion : Occasion} {request : Request} {route : Route}
  {verified : Option Token.Claims} {claims : Token.Claims} {s u : Store}

lemma claimsOfHeaders_of_handled
    (hp : passage app occasion.now request.method request.target request.headers = .handled route verified)
    (hv : callerClaims app.authority occasion.now verified request.headers = .ok claims) :
    app.authority.claimsOfHeaders occasion.now request.headers = .ok claims := by
  cases verified with
  | none => exact hv
  | some verified =>
    cases hv
    obtain ⟨-, hadmission⟩ := admission_of_handled hp
    unfold admission at hadmission
    split at hadmission
    · exact Access.claimsOfHeaders_of_authorize hadmission
    · cases hadmission

/-! ## Requests -/

/-- What a request to a route may turn a store into, apart from leaving it as it was. -/
inductive Turns (app : Application) (occasion : Occasion) (request : Request) (s : Store) : Route → Store → Prop
  /-- One account is added, under an id that no account has. -/
  | signUp (n : NewAccount) (hid : s.account? (s.lastId + 1) = none) :
      Turns app occasion request s .signUp (s.add n).2
  /-- The profile of the account is changed that the token of the caller names. -/
  | updateUserInfo {claims : Token.Claims} {id : Int} {a : Account} (profile : Profile)
      (hclaims : app.authority.claimsOfHeaders occasion.now request.headers = .ok claims)
      (hid : claims.accountId = .ok id) (ha : s.account? id = some a) :
      Turns app occasion request s .updateUserInfo (s.put id { a with profile })
  /-- The hash of the password of that account is changed. -/
  | changePassword {claims : Token.Claims} {id : Int} {a : Account} (passwordHash : String)
      (hclaims : app.authority.claimsOfHeaders occasion.now request.headers = .ok claims)
      (hid : claims.accountId = .ok id) (ha : s.account? id = some a) :
      Turns app occasion request s .changePassword (s.put id { a with passwordHash })
  /-- The families of the account are changed that the body names. -/
  | addFamily {form : FamilyForm} {a : Account} (familyIds : List Int)
      (hb : readBody readFamilyForm request = .ok form) (ha : s.account? form.accountId = some a) :
      Turns app occasion request s .addFamily (s.put form.accountId { a with familyIds })
  | deleteFamily {form : FamilyForm} {a : Account} (familyIds : List Int)
      (hb : readBody readFamilyForm request = .ok form) (ha : s.account? form.accountId = some a) :
      Turns app occasion request s .deleteFamily (s.put form.accountId { a with familyIds })
  /-- The account is removed that the body names. -/
  | deleteUser {id : Int} (hb : readBody readAccountId request = .ok id) :
      Turns app occasion request s .deleteUser (s.erase id)

/-- A call that names an account and does not remove it turns the store into what it makes of that account. -/
lemma turns_of_revises {id : Int} {c : Store.Call} (hc : c.Names id) (hdelete : c ≠ .delete id)
    (h : ∀ a b, s.account? id = some a → c.Revises s id a b → Turns app occasion request s route (s.put id b)) :
    (s.serve c).2 = s ∨ Turns app occasion request s route (s.serve c).2 := by
  rcases Store.serve_named_cases hc s with hs | ⟨a, b, ha, hr, hs⟩ | ⟨he, -⟩
  · exact .inl hs
  · rw [hs]
    exact .inr (h a b ha hr)
  · exact absurd he hdelete

/-- **A call of the operation that a request asks for** does no more than the request may. -/
lemma Asks.turns (hs : s.WellFormed) {o : Operation} {c : Store.Call}
    (hasks : Asks app occasion verified request route o)
    (hp : passage app occasion.now request.method request.target request.headers = .handled route verified)
    (hc : o.May (.store c)) : (s.serve c).2 = s ∨ Turns app occasion request s route (s.serve c).2 := by
  cases hasks with
  | signIn hb hcheck | isAdmin hb | getUserInfo hv hid | getUserInfoById hb =>
    cases c with
    | findByEmail | findById => exact .inl rfl
    | _ => exact hc.elim
  | signUp hb hcheck =>
    cases c with
    | create n =>
      rcases Store.serve_cases s (.create n) with h | ⟨m, -, -, h⟩ | ⟨_, _, _, -, hr, -⟩ | ⟨_, _, he, -, -⟩
      · exact .inl h
      · rw [h]
        exact .inr (.signUp m (hs.account?_eq_none_of_lt (by omega)))
      · exact hr.elim
      · cases he
    | _ => exact hc.elim
  | updateUserInfo hv hb hcheck hid =>
    cases c with
    | findById => exact .inl rfl
    | setProfile i profile =>
      refine turns_of_revises hc (by simp) ?_
      rintro a b ha ⟨-, -, rfl⟩
      exact .updateUserInfo profile (claimsOfHeaders_of_handled hp hv) hid ha
    | _ => exact hc.elim
  | changePassword hv hb hcheck hid =>
    cases c with
    | findById => exact .inl rfl
    | setPasswordHash i hash =>
      refine turns_of_revises hc (by simp) ?_
      rintro a b ha ⟨-, rfl⟩
      exact .changePassword hash (claimsOfHeaders_of_handled hp hv) hid ha
    | _ => exact hc.elim
  | addFamily hb =>
    cases c with
    | linkFamily i f =>
      refine turns_of_revises hc.1 (by simp) ?_
      rintro a b ha ⟨-, -, rfl⟩
      exact .addFamily _ hb ha
    | _ => exact hc.elim
  | deleteFamily hb =>
    cases c with
    | unlinkFamily i f =>
      refine turns_of_revises hc.1 (by simp) ?_
      rintro a b ha ⟨-, -, rfl⟩
      exact .deleteFamily _ hb ha
    | _ => exact hc.elim
  | deleteUser hb =>
    cases c with
    | findById => exact .inl rfl
    | delete i =>
      cases hc
      rcases Store.serve_named_cases (c := .delete _) rfl s with h | ⟨a, b, -, hr, -⟩ | ⟨-, h⟩
      · exact .inl h
      · exact hr.elim
      · rw [h]
        exact .inr (.deleteUser hb)
    | _ => exact hc.elim

lemma Turns.exists_others (h : Turns app occasion request s route u) : ∃ id, ∀ j ≠ id, u.account? j = s.account? j := by
  cases h with
  | signUp n hid => exact ⟨s.lastId + 1, fun j hj => by rw [Store.account?_add, if_neg hj, Option.or_none]⟩
  | updateUserInfo | changePassword | addFamily | deleteFamily =>
    exact ⟨_, fun j hj => Store.account?_put_of_ne hj⟩
  | deleteUser hb => exact ⟨_, fun j hj => by rw [Store.account?_erase, if_neg hj]⟩

/-- No record that was there has another id, another time of registration or another role. -/
lemma Turns.kept (h : Turns app occasion request s route u) {id : Int} {a b : Account} (ha : s.account? id = some a)
    (hb : u.account? id = some b) : b.id = a.id ∧ b.registeredAt = a.registeredAt ∧ b.role = a.role := by
  suffices hlasting : b.lasting = a.lasting by simpa [Account.lasting] using hlasting
  cases h with
  | signUp n hid =>
    rw [Store.account?_add, ha] at hb
    cases hb
    rfl
  | updateUserInfo _ _ _ hx | changePassword _ _ _ hx | addFamily _ _ hx | deleteFamily _ _ hx =>
    exact (Store.AgreeBy.put_left (.refl Account.lasting s) hx (by rfl)).eq hb ha
  | deleteUser hbody =>
    rw [Store.account?_erase] at hb
    split at hb
    · cases hb
    · rw [ha] at hb
      cases hb
      rfl

/-- **The footprint of a request,** on any store that a sequence of calls leaves. A request leaves the store as it was,
or turns it into what a request to its route may: signing up adds an account under an id that was never given out, the
change of the own profile changes nothing but the profile of the account that the token of the caller names, and that of
the own password nothing but the hash there, the change of families changes nothing but the families of the account that
the body names, and the deletion removes that account. No other request changes anything. So all accounts but one are as
they were, and whoever was there before and is there afterwards has the same id, time of registration and role. -/
theorem request_footprint {ρ : Type} (app : Application) (occasion : Occasion) (request : Request)
    (client : Relations.Client ρ) (calls : List Store.Call) (r : ρ) :
    let s := Store.empty.serveAll calls
    let u := ((respond app occasion request).run (inMemory client) (s, r)).2.1
    (u = s ∨ ∃ route, Route.ofPath? (pathOf request.target) = some route ∧ Turns app occasion request s route u) ∧
    (s.lastId : Int) + 1 ∉ Store.empty.givenIds calls ∧
    (∃ id, ∀ j ≠ id, u.account? j = s.account? j) ∧
    ∀ id a b, s.account? id = some a → u.account? id = some b →
      b.id = a.id ∧ b.registeredAt = a.registeredAt ∧ b.role = a.role := by
  intro s u
  have hs : s.WellFormed := Store.wellFormed_empty.serveAll calls
  have hturns : u = s ∨ ∃ route, Route.ofPath? (pathOf request.target) = some route ∧
      Turns app occasion request s route u := by
    rcases respond_cases app occasion request with ⟨response, hr, -⟩ | ⟨route, verified, o, hp, hasks, hr⟩
    · exact .inl (by simp only [u, hr, Program.run_pure])
    · have hone : (o.action app.scheme app.authority).WritesAtMost 1 :=
        o.writesAtMost app.scheme app.authority fun _ _ _ he => by subst he; cases hasks
      have hu : u = ((o.action app.scheme app.authority).runWith (inMemory client) (s, r)).2.1 := by
        simp only [u, hr, run_perform]
      rcases Program.WritesAtMost.run_cases client s r hone (Operation.makes o) with h | ⟨c, hc, h⟩
      · exact .inl (hu.trans h)
      · rw [hu.trans h]
        exact (hasks.turns hs hp hc).imp_right fun h => ⟨route, ofPath?_of_handled hp, h⟩
  refine ⟨hturns, fun hgiven => ?_, ?_, fun id a b ha hb => ?_⟩
  · have hle : (s.lastId : Int) + 1 ≤ s.lastId := (Store.mem_givenIds_iff.1 hgiven).2
    omega
  · rcases hturns with h | ⟨route, -, h⟩
    · exact ⟨0, fun j _ => by rw [h]⟩
    · exact h.exists_others
  · rcases hturns with h | ⟨route, -, h⟩
    · rw [h, ha] at hb
      cases hb
      exact ⟨rfl, rfl, rfl⟩
    · exact h.kept ha hb

end Api

end Gatehouse
