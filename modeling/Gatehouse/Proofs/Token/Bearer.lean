import Gatehouse.Proofs.Text.Words
import Gatehouse.Token.Bearer

/-!
# Bearer credentials

* `forall_of_sameIgnoringCase` — what the characters of a text have in any case;
* `unbroken_of_sameIgnoringCase` — so that a text which is the scheme but for its case has no blanks;
* `Bearer.token?_eq_some_iff` — the token of a credential is found exactly where the credential has the form;
* `Sends`, `Presents` — the first authorization header, and the token that stands in it;
* `claimsOfHeaders_eq_ok_iff`, `claimsOfHeaders_eq_noToken_iff`, `claimsOfHeaders_eq_invalidToken_iff` — what a caller is
  known by.
-/

namespace Gatehouse

namespace Text

lemma toLower_cases (c : Char) : (65 ≤ c.toNat ∧ c.toNat ≤ 90) ∨ c.toLower = c := by
  by_cases h : c.val ≥ 65 ∧ c.val ≤ 90
  · exact .inl ⟨UInt32.le_iff_toNat_le.1 h.1, UInt32.le_iff_toNat_le.1 h.2⟩
  · exact .inr (dif_neg h)

lemma toLower_of_isBlank {c : Char} (h : isBlank c = true) : c.toLower = c := by
  obtain ⟨r, hr, hfirst, hlast⟩ := inRanges_iff.1 h
  have hletters : ∀ r ∈ blankRanges, r.2 < 65 ∨ 90 < r.1 := by decide
  rcases toLower_cases c with ⟨hA, hZ⟩ | hlower
  · rcases hletters r hr with hr | hr <;> omega
  · exact hlower

/-- What the characters of a text have in lower case, they have in any other text that is the same but for its case. -/
lemma forall_of_sameIgnoringCase {P : Char → Prop} (hP : ∀ c : Char, P c.toLower → P c) {s t : String}
    (h : Http.sameIgnoringCase s t = true) (ht : ∀ c ∈ t.toList.map Char.toLower, P c) : ∀ c ∈ s.toList, P c := by
  have hmap : s.toList.map Char.toLower = t.toList.map Char.toLower := eq_of_beq h
  intro c hc
  exact hP c (ht _ (hmap ▸ List.mem_map_of_mem hc))

lemma unbroken_of_sameIgnoringCase {s t : String} (h : Http.sameIgnoringCase s t = true)
    (ht : Unbroken (t.toList.map Char.toLower)) : Unbroken s.toList := by
  have hmap : s.toList.map Char.toLower = t.toList.map Char.toLower := eq_of_beq h
  refine ⟨fun hnil => ht.ne_nil (by rw [← hmap, hnil]; rfl), forall_of_sameIgnoringCase ?_ h ht.not_blank⟩
  intro c hc
  by_contra hblank
  rw [toLower_of_isBlank (by simpa using hblank)] at hc
  exact hblank hc

end Text

namespace Token.Bearer

variable {credential token : String}

/-- **The token of a credential** is found exactly where the credential has the form. -/
theorem token?_eq_some_iff : token? credential = some token ↔ Credential credential.toList token.toList := by
  have hletters : (scheme.toList.map Char.toLower).all (! Text.isBlank ·) = true := by decide
  have hscheme : Text.Unbroken (scheme.toList.map Char.toLower) :=
    ⟨by decide, fun c hc => by simpa using List.all_eq_true.1 hletters c hc⟩
  constructor
  · intro h
    unfold token? at h
    split at h
    · next first second hwords =>
      split at h
      · next hsame =>
        cases h
        obtain ⟨-, hsecond, front, between, behind, he, hne, hblank⟩ := Text.words_eq_pair_iff.1 hwords
        refine ⟨front, first, between, behind, ?_, hsame, hne, ?_, hblank, ?_⟩ <;> rw [String.toList_ofList]
        · exact he
        · exact hsecond.ne_nil
        · exact hsecond.not_blank
      · cases h
    · cases h
  · rintro ⟨front, first, between, behind, he, hsame, hne, htoken, hblank, hnot⟩
    have hfirst := Text.unbroken_of_sameIgnoringCase hsame hscheme
    rw [String.toList_ofList] at hfirst
    have hwords : Text.words credential.toList = [first, token.toList] :=
      Text.words_eq_pair_iff.2 ⟨hfirst, ⟨htoken, hnot⟩, front, between, behind, he, hne, hblank⟩
    rw [token?, hwords]
    dsimp only
    rw [if_pos hsame, String.ofList_toList]

lemma parse_eq_ok_iff : parse credential = .ok token ↔ Credential credential.toList token.toList := by
  rw [← token?_eq_some_iff, parse]
  cases token? credential with
  | none => simp
  | some found => simp

end Token.Bearer

/-! ## Headers -/

/-- The first `authorization` header has this value. -/
def Sends (headers : Http.Headers) (value : Bytes) : Prop :=
  ∃ front name behind, headers = front ++ (name, value) :: behind ∧
    Http.sameIgnoringCase name "authorization" = true ∧
    ∀ h ∈ front, Http.sameIgnoringCase h.1 "authorization" = false

/-- The first `authorization` header is text, and a bearer credential with this token. -/
def Presents (headers : Http.Headers) (token : String) : Prop :=
  ∃ value text, Sends headers value ∧ Http.headerText? value = some text ∧
    Token.Bearer.Credential text.toList token.toList

section Headers

variable {headers others : Http.Headers}

lemma first?_eq_some_iff {value : Bytes} : headers.first? "authorization" = some value ↔ Sends headers value := by
  unfold Http.Headers.first? Sends
  constructor
  · intro h
    obtain ⟨⟨name, _⟩, hfind, rfl⟩ := Option.map_eq_some_iff.1 h
    obtain ⟨hname, front, behind, he, hfront⟩ := List.find?_eq_some_iff_append.1 hfind
    exact ⟨front, name, behind, he, hname, fun h hh => by simpa using hfront h hh⟩
  · rintro ⟨front, name, behind, he, hname, hfront⟩
    exact Option.map_eq_some_iff.2 ⟨(name, value), List.find?_eq_some_iff_append.2
      ⟨hname, front, behind, he, fun h hh => by simpa using hfront h hh⟩, rfl⟩

lemma first?_eq_none_iff :
    headers.first? "authorization" = none ↔ ∀ h ∈ headers, Http.sameIgnoringCase h.1 "authorization" = false := by
  rw [Http.Headers.first?, Option.map_eq_none_iff, List.find?_eq_none]
  simp only [Bool.not_eq_true]

lemma first?_congr (h : ∀ value, Sends others value ↔ Sends headers value) :
    others.first? "authorization" = headers.first? "authorization" :=
  Option.ext fun value => by rw [first?_eq_some_iff, first?_eq_some_iff, h]

/-- A token is presented where the readers of the header and of the credential find it. -/
lemma presents_iff {token : String} : Presents headers token ↔
    ∃ value text, headers.first? "authorization" = some value ∧ Http.headerText? value = some text ∧
      Token.Bearer.parse text = .ok token := by
  refine exists₂_congr fun value text => ?_
  rw [first?_eq_some_iff, Token.Bearer.parse_eq_ok_iff]

end Headers

/-! ## Callers -/

namespace Token

variable {headers others : Http.Headers} {authority : Authority} {now : Moment} {claims : Claims} {fault : Fault}

lemma verify_eq_error {token : String} (h : authority.verify now token = .error fault) : fault = .invalidToken := by
  unfold Authority.verify at h
  split at h <;> cases h
  rfl

lemma claimsOfHeaders_of_presents {token : String} (h : Presents headers token) (authority : Authority) (now : Moment) :
    authority.claimsOfHeaders now headers = authority.verify now token := by
  obtain ⟨value, text, hv, ht, hb⟩ := presents_iff.1 h
  unfold Authority.claimsOfHeaders
  simp only [hv, ht, hb]
  rfl

/-- **A caller is known by a token that is verified.** -/
theorem claimsOfHeaders_eq_ok_iff : authority.claimsOfHeaders now headers = .ok claims ↔
    ∃ token, Presents headers token ∧ authority.verify now token = .ok claims := by
  constructor
  · intro h
    unfold Authority.claimsOfHeaders at h
    cases hv : headers.first? "authorization" with
    | none =>
      rw [hv] at h
      cases h
    | some value =>
      simp only [hv] at h
      cases ht : Http.headerText? value with
      | none =>
        rw [ht] at h
        cases h
      | some text =>
        simp only [ht] at h
        cases hb : Bearer.parse text with
        | error fault =>
          rw [hb] at h
          cases h
        | ok token =>
          rw [hb] at h
          exact ⟨token, presents_iff.2 ⟨value, text, hv, ht, hb⟩, h⟩
  · rintro ⟨token, hpresents, hverify⟩
    rw [claimsOfHeaders_of_presents hpresents, hverify]

lemma claimsOfHeaders_eq_error_of_some {value : Bytes} (hv : headers.first? "authorization" = some value)
    (h : authority.claimsOfHeaders now headers = .error fault) : fault = .invalidToken := by
  unfold Authority.claimsOfHeaders at h
  simp only [hv] at h
  cases ht : Http.headerText? value with
  | none =>
    rw [ht] at h
    cases h
    rfl
  | some text =>
    simp only [ht] at h
    unfold Bearer.parse at h
    cases hb : Bearer.token? text with
    | none =>
      rw [hb] at h
      cases h
      rfl
    | some token =>
      rw [hb] at h
      exact verify_eq_error h

lemma claimsOfHeaders_eq_noToken_iff : authority.claimsOfHeaders now headers = .error .noToken ↔
    ∀ h ∈ headers, Http.sameIgnoringCase h.1 "authorization" = false := by
  rw [← first?_eq_none_iff]
  cases hv : headers.first? "authorization" with
  | none =>
    refine iff_of_true ?_ rfl
    unfold Authority.claimsOfHeaders
    rw [hv]
    rfl
  | some value =>
    refine iff_of_false (fun h => ?_) (Option.some_ne_none value)
    cases claimsOfHeaders_eq_error_of_some hv h

lemma claimsOfHeaders_eq_error (h : authority.claimsOfHeaders now headers = .error fault) :
    fault = .noToken ∨ fault = .invalidToken := by
  cases hv : headers.first? "authorization" with
  | some value => exact .inr (claimsOfHeaders_eq_error_of_some hv h)
  | none =>
    cases (claimsOfHeaders_eq_noToken_iff.2 (first?_eq_none_iff.1 hv)).symm.trans h
    exact .inl rfl

lemma claimsOfHeaders_eq_invalidToken_iff : authority.claimsOfHeaders now headers = .error .invalidToken ↔
    (∃ value, Sends headers value) ∧
      ∀ token claims, ¬(Presents headers token ∧ authority.verify now token = .ok claims) := by
  simp only [← first?_eq_some_iff]
  constructor
  · intro h
    refine ⟨?_, fun token claims hc => ?_⟩
    · refine Option.ne_none_iff_exists'.1 fun hnone => ?_
      cases (claimsOfHeaders_eq_noToken_iff.2 (first?_eq_none_iff.1 hnone)).symm.trans h
    · cases (claimsOfHeaders_eq_ok_iff.2 ⟨token, hc⟩).symm.trans h
  · rintro ⟨⟨value, hv⟩, hnone⟩
    cases hr : authority.claimsOfHeaders now headers with
    | ok claims =>
      obtain ⟨token, hc⟩ := claimsOfHeaders_eq_ok_iff.1 hr
      exact absurd hc (hnone token claims)
    | error fault => rw [claimsOfHeaders_eq_error_of_some hv hr]

lemma claimsOfHeaders_congr (h : ∀ value, Sends others value ↔ Sends headers value) :
    authority.claimsOfHeaders now others = authority.claimsOfHeaders now headers := by
  unfold Authority.claimsOfHeaders
  rw [first?_congr h]

end Token

end Gatehouse
