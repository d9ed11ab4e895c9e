import Gatehouse.Access
import Gatehouse.Proofs.Token.Bearer

/-!
# What the access layer makes of a request

* `Policy.ofRules_eq`, `Policy.allowed?_ofRules_eq_none_iff`, `Policy.allowed?_ofRules` — the last rule for an operation
  is the one that counts;
* `authorize_eq_ok_iff`, `exists_token_of_authorize` — an authorization for a protected operation stands on a token that
  is presented, and `authorize_eq_error` lists the faults of a refusal;
* `authorize_exact` — so that the last rule and the first authorization header decide the answer, which is one of five.
-/

namespace Gatehouse.Access

open Http (Headers)
open Token (Claims claimsOfHeaders_eq_ok_iff claimsOfHeaders_eq_noToken_iff claimsOfHeaders_eq_invalidToken_iff
  claimsOfHeaders_eq_error claimsOfHeaders_congr)

/-! ## Rules -/

namespace Policy

variable {rules : List (String × List Role)} {operation : String}

lemma ofRules_eq (rules : List (String × List Role)) : ofRules rules = rules.reverse := by
  have hfold : ∀ policy : Policy,
      rules.foldl (fun policy rule => policy.protect rule.1 rule.2) policy = rules.reverse ++ policy := by
    induction rules with
    | nil => exact fun _ => rfl
    | cons rule rules ih =>
      intro policy
      rw [List.foldl_cons, ih, List.reverse_cons, List.append_assoc]
      rfl
  rw [ofRules, hfold, List.append_nil]

lemma allowed?_ofRules_eq_none_iff :
    (ofRules rules).allowed? operation = none ↔ ∀ rule ∈ rules, rule.1 ≠ operation := by
  rw [ofRules_eq, allowed?, List.lookup_eq_none_iff]
  refine forall_congr' fun rule => imp_congr List.mem_reverse ?_
  rw [bne_iff_ne, ne_comm]

lemma allowed?_ofRules {front behind : List (String × List Role)} {roles : List Role}
    (hrules : rules = front ++ (operation, roles) :: behind) (hbehind : ∀ rule ∈ behind, rule.1 ≠ operation) :
    (ofRules rules).allowed? operation = some roles := by
  rw [ofRules_eq, hrules, List.reverse_append, List.reverse_cons, List.append_assoc]
  refine List.lookup_eq_some_iff.2 ⟨behind.reverse, front.reverse, rfl, fun rule hrule => ?_⟩
  exact bne_iff_ne.2 (hbehind rule (List.mem_reverse.1 hrule)).symm

end Policy

/-! ## Access -/

section Authorize

variable {authority : Token.Authority} {policy : Policy} {now : Moment} {operation : String} {headers : Headers}
  {roles : List Role} {claims : Claims} {fault : Fault}

/-- What a protected operation asks for: claims of the headers whose role is allowed. -/
lemma authorize_of_allowed? (hr : policy.allowed? operation = some roles) :
    authorize authority policy now operation headers =
      match authority.claimsOfHeaders now headers with
      | .ok claims => if roles.contains claims.role then .ok (some claims) else .error .forbidden
      | .error fault => .error fault := by
  unfold authorize
  simp only [hr]
  cases authority.claimsOfHeaders now headers with
  | error fault => rfl
  | ok claims => rfl

/-- An authorization for a protected operation stands on claims of the headers whose role is allowed. -/
theorem authorize_eq_ok_iff {verified : Option Claims} (hr : policy.allowed? operation = some roles) :
    authorize authority policy now operation headers = .ok verified ↔
      ∃ claims, authority.claimsOfHeaders now headers = .ok claims ∧ claims.role ∈ roles ∧ verified = some claims := by
  rw [authorize_of_allowed? hr]
  cases authority.claimsOfHeaders now headers with
  | error fault => simp
  | ok claims => by_cases hrole : claims.role ∈ roles <;> simp [hrole, eq_comm]

lemma exists_claims_of_authorize {verified : Option Claims} (hr : policy.allowed? operation = some roles)
    (h : authorize authority policy now operation headers = .ok verified) :
    ∃ claims, verified = some claims ∧ claims.role ∈ roles := by
  obtain ⟨claims, -, hrole, hverified⟩ := (authorize_eq_ok_iff hr).1 h
  exact ⟨claims, hverified, hrole⟩

lemma claimsOfHeaders_of_authorize (h : authorize authority policy now operation headers = .ok (some claims)) :
    authority.claimsOfHeaders now headers = .ok claims := by
  cases hr : policy.allowed? operation with
  | none =>
    rw [authorize, hr] at h
    cases h
  | some roles =>
    obtain ⟨c, hc, -, he⟩ := (authorize_eq_ok_iff hr).1 h
    cases he
    exact hc

/-- Whoever is authorized for a protected operation presents a token that is verified and tells an allowed role. -/
lemma exists_token_of_authorize (hr : policy.allowed? operation = some roles)
    (h : authorize authority policy now operation headers = .ok (some claims)) :
    ∃ token, Presents headers token ∧ authority.verify now token = .ok claims ∧ claims.role ∈ roles := by
  obtain ⟨c, hc, hrole, he⟩ := (authorize_eq_ok_iff hr).1 h
  cases he
  obtain ⟨token, hpresents, hverify⟩ := claimsOfHeaders_eq_ok_iff.1 hc
  exact ⟨token, hpresents, hverify, hrole⟩

theorem authorize_eq_error (h : authorize authority policy now operation headers = .error fault) :
    (fault = .noToken ∨ fault = .invalidToken ∨ fault = .forbidden) ∧
      (fault.status = 401 ∨ fault.status = 403) := by
  cases hr : policy.allowed? operation with
  | none =>
    rw [authorize, hr] at h
    cases h
  | some roles =>
    rw [authorize_of_allowed? hr] at h
    cases hc : authority.claimsOfHeaders now headers with
    | error f =>
      rw [hc] at h
      cases h
      rcases claimsOfHeaders_eq_error hc with rfl | rfl
      · exact ⟨.inl rfl, .inl rfl⟩
      · exact ⟨.inr (.inl rfl), .inl rfl⟩
    | ok claims =>
      rw [hc] at h
      dsimp only at h
      split at h <;> cases h
      exact ⟨.inr (.inr rfl), .inr rfl⟩

end Authorize

/-- **What the access layer makes of a request,** for any policy that a list of rules builds, any secret, time and
headers. An operation is open to everybody exactly if no rule names it. For any other one only the roles of the last
rule that names it count, and only the first `authorization` header: there is none, it presents a token that is
verified and tells an allowed role, it presents one that is verified and tells another role, or it presents none that is
verified. -/
theorem authorize_exact (rules : List (String × List Role)) (authority : Token.Authority) (now : Moment)
    (operation : String) (headers : Headers) :
    let result (headers : Headers) := authorize authority (Policy.ofRules rules) now operation headers
    let Verifies (token : String) (claims : Claims) := Presents headers token ∧ authority.verify now token = .ok claims
    (result headers = .ok none ↔ ∀ rule ∈ rules, rule.1 ≠ operation) ∧
    (∀ front roles behind, rules = front ++ (operation, roles) :: behind → (∀ rule ∈ behind, rule.1 ≠ operation) →
      (result headers = .error .noToken ↔ ∀ h ∈ headers, Http.sameIgnoringCase h.1 "authorization" = false) ∧
      (∀ claims, result headers = .ok (some claims) ↔ (∃ token, Verifies token claims) ∧ claims.role ∈ roles) ∧
      (result headers = .error .forbidden ↔ ∃ token claims, Verifies token claims ∧ claims.role ∉ roles) ∧
      (result headers = .error .invalidToken ↔
        (∃ value, Sends headers value) ∧ ∀ token claims, ¬Verifies token claims)) ∧
    ∀ others, (∀ value, Sends others value ↔ Sends headers value) → result others = result headers := by
  intro result Verifies
  refine ⟨?_, fun front roles behind hrules hbehind => ?_, fun others h => ?_⟩
  · rw [← Policy.allowed?_ofRules_eq_none_iff]
    cases hr : (Policy.ofRules rules).allowed? operation with
    | none => exact iff_of_true (by simp only [result, authorize, hr]; rfl) rfl
    | some roles =>
      refine iff_of_false (fun h => ?_) (Option.some_ne_none roles)
      obtain ⟨claims, hclaims, -⟩ := exists_claims_of_authorize hr h
      cases hclaims
  · have hresult : result headers = _ := authorize_of_allowed? (Policy.allowed?_ofRules hrules hbehind)
    have hforbidden : (∃ token claims, Verifies token claims ∧ claims.role ∉ roles) ↔
        ∃ claims, authority.claimsOfHeaders now headers = .ok claims ∧ claims.role ∉ roles := by
      simp only [claimsOfHeaders_eq_ok_iff]
      exact exists_comm.trans (exists_congr fun claims => exists_and_right)
    rw [← claimsOfHeaders_eq_noToken_iff, ← claimsOfHeaders_eq_invalidToken_iff, hforbidden, hresult]
    simp only [Verifies, ← claimsOfHeaders_eq_ok_iff]
    cases hc : authority.claimsOfHeaders now headers with
    | error fault => rcases claimsOfHeaders_eq_error hc with rfl | rfl <;> simp
    | ok claims =>
      by_cases hrole : claims.role ∈ roles
      · simp [hrole]
      · simp [hrole]
  · unfold result authorize
    rw [claimsOfHeaders_congr h]

/-- A header whose bytes are no text is refused, whatever another one behind it says, and whichever roles a rule in
front of the last one allows. -/
theorem authorize_exact_opaque :
    let rules : List (String × List Role) := [("Users.List", [.user]), ("Users.List", [])]
    let headers : Headers := [("Authorization", [0xFF]), ("authorization", utf8 "Bearer a.b.c")]
    authorize ⟨[1], 60⟩ (Policy.ofRules rules) (Moment.utc 0) "Users.List" headers = .error .invalidToken := by
  intro rules headers
  have hsends : Sends headers [0xFF] := ⟨[], "Authorization", _, rfl, by decide, nofun⟩
  have hexact := authorize_exact rules ⟨[1], 60⟩ (Moment.utc 0) "Users.List" headers
  obtain ⟨-, -, -, hinvalid⟩ := hexact.2.1 [("Users.List", [.user])] [] [] rfl nofun
  refine hinvalid.2 ⟨⟨_, hsends⟩, ?_⟩
  rintro token claims ⟨⟨value, text, hvalue, htext, -⟩, -⟩
  cases (first?_eq_some_iff.2 hsends).symm.trans (first?_eq_some_iff.2 hvalue)
  cases htext

end Gatehouse.Access
