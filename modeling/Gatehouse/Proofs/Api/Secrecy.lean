import Gatehouse.Proofs.Api.Errand
import Gatehouse.Proofs.Store.Views

/-!
# Profiles do not tell of secrets

* `Account.shown`, `Account.secrets` — what a profile shows of an account, and what it does not;
* `Undistinguished` — two runs on two stores give one answer, leave stores that show the same, and each keeps its own
  secrets;
* `undistinguished_account_bind` — on stores that show the same, what starts with looking up an account goes on with
  accounts that show the same;
* `undistinguished_getProfile`, `undistinguished_updateProfile` — so that the showing and the change of a profile are
  not distinguished;
* `profiles_tell_no_secret` — and no request for a profile is, whatever the access layer makes of it.
-/

namespace Gatehouse

open Http (Request Response)
open Program (inMemory)

/-- What a profile shows of an account. -/
def Account.shown (a : Account) : Int × Profile × Moment := (a.id, a.profile, a.registeredAt)

/-- What a profile does not show. -/
def Account.secrets (a : Account) : String × Role × List Int := (a.passwordHash, a.role, a.familyIds)

namespace Api

variable {ρ σ : Type} {client : Relations.Client ρ} {client' : Relations.Client σ} {s u : Store} {a b : Account}
  {id : Int}

/-- Two runs that start from the stores `s` and `u` give one answer and leave stores that show the same, and each of
them keeps all secrets of its own store. -/
structure Undistinguished (s u : Store) (x : Response × (Store × ρ)) (y : Response × (Store × σ)) : Prop where
  response : x.1 = y.1
  shown : x.2.1.AgreeBy Account.shown y.2.1
  left : s.AgreeBy Account.secrets x.2.1
  right : u.AgreeBy Account.secrets y.2.1

lemma undistinguished_of_unchanged (h : s.AgreeBy Account.shown u) (response : Response) (r : ρ) (r' : σ) :
    Undistinguished s u (response, (s, r)) (response, (u, r')) := ⟨rfl, h, .refl _ s, .refl _ u⟩

/-! ## Operations -/

lemma profileAnswer_eq_of_shown (h : a.shown = b.shown) : profileAnswer a = profileAnswer b := by
  obtain ⟨hid, hprofile, hmoment⟩ : a.id = b.id ∧ a.profile = b.profile ∧ a.registeredAt = b.registeredAt := by
    simpa [Account.shown] using h
  unfold profileAnswer
  rw [hid, hprofile, hmoment]

/-- **What starts with looking up an account** goes on, on both stores, with accounts that show the same, or ends on
both because there is none. -/
theorem undistinguished_account_bind {α : Type} {f : Account → Action α} {write : α → Response} {r : ρ} {r' : σ}
    (h : s.AgreeBy Account.shown u)
    (hf : ∀ a b, s.account? id = some a → u.account? id = some b → b.shown = a.shown →
      Undistinguished s u ((perform (f a) write).run (inMemory client) (s, r))
        ((perform (f b) write).run (inMemory client') (u, r'))) :
    Undistinguished s u ((perform (Action.account id >>= f) write).run (inMemory client) (s, r))
      ((perform (Action.account id >>= f) write).run (inMemory client') (u, r')) := by
  rw [run_perform, run_perform]
  cases ha : s.account? id with
  | none =>
    rw [Action.runWith_bind_error (Action.runWith_account_of_none ha r),
      Action.runWith_bind_error (Action.runWith_account_of_none (h.eq_none ha) r')]
    exact undistinguished_of_unchanged h _ r r'
  | some a =>
    obtain ⟨b, hb, hab⟩ := h.exists_some ha
    have hrun := hf a b ha hb hab
    rw [run_perform, run_perform] at hrun
    rw [Action.runWith_bind_ok (Action.runWith_account_of_some ha r),
      Action.runWith_bind_ok (Action.runWith_account_of_some hb r')]
    exact hrun

lemma undistinguished_getProfile (h : s.AgreeBy Account.shown u) (id : Int) (r : ρ) (r' : σ) :
    Undistinguished s u ((perform (Service.getProfile id) profileAnswer).run (inMemory client) (s, r))
      ((perform (Service.getProfile id) profileAnswer).run (inMemory client') (u, r')) := by
  refine undistinguished_account_bind h fun a b ha hb hab => ?_
  have hanswer : profileAnswer { a with passwordHash := "" } = profileAnswer { b with passwordHash := "" } :=
    profileAnswer_eq_of_shown hab.symm
  simp only [run_perform, Action.runWith_pure, hanswer]
  exact undistinguished_of_unchanged h _ r r'

lemma undistinguished_updateProfile (hs : (s.accounts.map Prod.fst).Nodup) (hu : (u.accounts.map Prod.fst).Nodup)
    (h : s.AgreeBy Account.shown u) (id : Int) (patch : Profile) (r : ρ) (r' : σ) :
    Undistinguished s u ((perform (Service.updateProfile id patch) doneAnswer).run (inMemory client) (s, r))
      ((perform (Service.updateProfile id patch) doneAnswer).run (inMemory client') (u, r')) := by
  refine undistinguished_account_bind h fun a b ha hb hab => ?_
  obtain ⟨hid, hprofile, hmoment⟩ : b.id = a.id ∧ b.profile = a.profile ∧ b.registeredAt = a.registeredAt := by
    simpa [Account.shown] using hab
  have hheld : ∀ email, s.heldByOther id email = u.heldByOther id email :=
    h.heldByOther_eq hs hu (fun x y hxy => by simp_all [Account.shown]) id
  rw [run_perform, run_perform, Action.runWith_store, Action.runWith_store, hprofile,
    Store.serve_setProfile_of_some ha, Store.serve_setProfile_of_some hb, hheld]
  -- both profiles are merged from the same one, and clash with the same ones
  cases u.heldByOther id (a.profile.patched patch).email with
  | true => exact undistinguished_of_unchanged h _ r r'
  | false =>
    refine ⟨rfl, ?_, ?_, ?_⟩
    · exact h.put (by simp [Account.shown, hid, hmoment]) id
    · exact (Store.AgreeBy.put_left (.refl _ s) ha (by rfl)).symm
    · exact (Store.AgreeBy.put_left (.refl _ u) hb (by rfl)).symm

/-! ## Requests -/

/-- A route that shows or changes a profile. -/
def Route.IsProfile : Route → Prop
  | getUserInfo | getUserInfoById | updateUserInfo => True
  | _ => False

/-- **Profiles tell of no secret.** Two stores have accounts under the same ids, and show the same of them: ids,
profiles and times of registration. Whatever hashes, roles and families they have, a request to show or to change a
profile gets the same answer on both, the stores that it leaves show the same again, and each of them has the hashes,
roles and families that it had. -/
theorem profiles_tell_no_secret (app : Application) (occasion : Occasion) (request : Request)
    (client : Relations.Client ρ) (client' : Relations.Client σ) {s u : Store}
    (hs : (s.accounts.map Prod.fst).Nodup) (hu : (u.accounts.map Prod.fst).Nodup) (h : s.AgreeBy Account.shown u)
    (r : ρ) (r' : σ) {route : Route} (hpath : Route.ofPath? (pathOf request.target) = some route)
    (hroute : route.IsProfile) :
    Undistinguished s u ((respond app occasion request).run (inMemory client) (s, r))
      ((respond app occasion request).run (inMemory client') (u, r')) := by
  rcases respond_cases app occasion request with ⟨response, hr, -⟩ | ⟨route', verified, o, hp, hasks, hr⟩
  · rw [hr]
    exact undistinguished_of_unchanged h response r r'
  · obtain rfl : route' = route := Option.some.inj ((ofPath?_of_handled hp).symm.trans hpath)
    rw [hr]
    cases hasks with
    | getUserInfo hv hid => exact undistinguished_getProfile h _ r r'
    | getUserInfoById hb => exact undistinguished_getProfile h _ r r'
    | updateUserInfo hv hb hc hid => exact undistinguished_updateProfile hs hu h _ _ r r'
    | _ => exact hroute.elim

/-- Somebody asks for a profile, where no rule asks for a token. On the one store the account is a plain user's, on the
other one an administrator's with another password, in a family. -/
theorem profiles_tell_no_role :
    let stretching : Password.Stretching := ⟨fun p _ _ => some (List.replicate p.tagLength 0), by simp⟩
    let app : Application := ⟨⟨utf8 "secret", 60⟩, .ofRules [], ⟨"", stretching⟩⟩
    let occasion : Occasion := ⟨Moment.utc 0, Vector.replicate 16 0⟩
    let request : Request := ⟨"POST", "/UserInfo/GetUserInfoByID", [("content-type", utf8 "application/json")],
      utf8 "\x7b\"user_id\":1\x7d"⟩
    let a : Account := ⟨1, ⟨"a@x.com", "1", "a", "b"⟩, "h", Moment.utc 0, .user, []⟩
    let s : Store := ⟨1, [(1, a)]⟩
    let u := s.put 1 { a with passwordHash := "k", role := .admin, familyIds := [7] }
    let answered (s : Store) := ((respond app occasion request).run (inMemory Startup.noClient) (s, ())).1
    (answered s).status = 200 ∧ answered s = answered u := by
  intro stretching app occasion request a s u answered
  have hshown : s.AgreeBy Account.shown u := (Store.AgreeBy.put_left (.refl _ s) (a := a) (by rfl) (by rfl)).symm
  have hroute : Route.ofPath? (pathOf request.target) = some .getUserInfoById := by decide +kernel
  have hanswers : answered s = answered u :=
    (profiles_tell_no_secret app occasion request Startup.noClient Startup.noClient (s := s) (u := u) (by decide)
      (by decide) hshown () () hroute trivial).response
  have hstatus : (answered s).status = 200 := by decide +kernel
  clear_value answered
  exact ⟨hstatus, hanswers⟩

end Api

end Gatehouse
