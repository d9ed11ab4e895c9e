import Gatehouse.Proofs.Bytes
import Gatehouse.Proofs.Token.Bearer
import Gatehouse.Proofs.Token.RoundTrip

/-!
# Tokens in headers

* `Text.IsVisible`, `Text.isBlank_of_isVisible` — the visible characters of ASCII, none of which is blank;
* `Http.headerText?_utf8` — a text of these and spaces is read back from the bytes of a header;
* `isVisible_of_mem_sign` — a signed token is visible;
* `presents_of_sends` — so that a visible token that is sent behind the scheme is the token that the headers present;
* `Bearer.parse_exact` — which texts are credentials, and what becomes of an issued token that is sent in one.
-/

namespace Gatehouse

open Http (Headers sameIgnoringCase)

/-! ## Visible characters -/

namespace Text

def IsVisible (c : Char) : Prop := 32 < c.toNat ∧ c.toNat < 127

instance (c : Char) : Decidable (IsVisible c) := inferInstanceAs (Decidable (_ ∧ _))

lemma isBlank_of_isVisible {c : Char} (h : IsVisible c) : isBlank c = false := by
  rw [Bool.eq_false_iff]
  intro hblank
  obtain ⟨r, hr, hlow, hhigh⟩ := inRanges_iff.1 hblank
  have hranges : ∀ r ∈ blankRanges, r.2 ≤ 32 ∨ 127 ≤ r.1 := by decide
  obtain ⟨h32, h127⟩ := h
  rcases hranges r hr with hr | hr <;> omega

lemma isVisible_of_toLower {c : Char} (h : IsVisible c.toLower) : IsVisible c := by
  rcases toLower_cases c with ⟨hA, hZ⟩ | hlower
  · exact ⟨by omega, by omega⟩
  · rwa [hlower] at h

end Text

open Text (IsVisible)

/-! ## Headers -/

namespace Http

lemma isHeaderText_of_lt {c : Char} (h : 32 ≤ c.toNat ∧ c.toNat < 127) : isHeaderText (UInt8.ofNat c.toNat) = true := by
  have hc : (UInt8.ofNat c.toNat).toNat = c.toNat := by
    rw [UInt8.toNat_ofNat']
    omega
  unfold isHeaderText
  simp only [Bool.or_eq_true, Bool.and_eq_true, decide_eq_true_eq, UInt8.le_iff_toNat_le, UInt8.lt_iff_toNat_lt, hc]
  exact .inl h

/-- A text of visible characters and spaces is read back from the bytes of a header. -/
lemma headerText?_utf8 {s : String} (h : ∀ c ∈ s.toList, 32 ≤ c.toNat ∧ c.toNat < 127) :
    headerText? (utf8 s) = some s := by
  have hbytes : utf8 s = asciiBytes s.toList := by
    rw [utf8_eq_charBytes, charBytes_ascii fun c hc => (h c hc).2.trans (by decide)]
  have hall : (asciiBytes s.toList).all isHeaderText = true := by
    rw [List.all_eq_true]
    intro b hb
    obtain ⟨c, hc, rfl⟩ := List.mem_map.1 hb
    exact isHeaderText_of_lt (h c hc)
  have hchars : (asciiBytes s.toList).map (fun b => Char.ofNat b.toNat) = s.toList := by
    rw [asciiBytes, List.map_map]
    refine (List.map_congr_left fun c hc => ?_).trans (List.map_id _)
    rw [Function.comp_apply, UInt8.toNat_ofNat', Nat.mod_eq_of_lt ((h c hc).2.trans (by decide)), Char.ofNat_toNat]
    rfl
  rw [headerText?, hbytes, if_pos hall, hchars, String.ofList_toList]

end Http

/-! ## Tokens -/

namespace Token

variable {headers : Headers} {first token : String}

lemma isVisible_digit : ∀ n < 64, IsVisible (Base64.urlSafe.digit n) := by decide +kernel

lemma isVisible_of_mem_sign (secret : Bytes) (payload : List Char) :
    ∀ c ∈ (sign secret payload).toList, IsVisible c := by
  have hsegment : ∀ bytes, ∀ c ∈ Base64.encode Base64.urlSafe bytes, IsVisible c :=
    Base64.forall_mem_encode isVisible_digit
  have hdot : IsVisible '.' := by decide
  intro c hc
  rw [sign, String.toList_ofList] at hc
  simp only [List.mem_append, List.mem_cons] at hc
  rcases hc with (hc | rfl | hc) | rfl | hc
  · exact hsegment _ c hc
  · exact hdot
  · exact hsegment _ c hc
  · exact hdot
  · exact hsegment _ c hc

lemma isVisible_of_mem_scheme : ∀ c ∈ Bearer.scheme.toList.map Char.toLower, IsVisible c := by
  have hletters : (Bearer.scheme.toList.map Char.toLower).all (decide <| IsVisible ·) = true := by decide
  intro c hc
  simpa using List.all_eq_true.1 hletters c hc

/-- A visible token behind the scheme is the token of a credential, and of the headers that send it. -/
lemma presents_of_sends (hfirst : sameIgnoringCase first Bearer.scheme = true) (hne : token.toList ≠ [])
    (htoken : ∀ c ∈ token.toList, IsVisible c) (h : Sends headers (utf8 (first ++ " " ++ token))) :
    Bearer.Credential (first ++ " " ++ token).toList token.toList ∧ Presents headers token := by
  have hcredential : Bearer.Credential (first ++ " " ++ token).toList token.toList := by
    have hspace : Text.isBlank ' ' = true := by decide
    refine ⟨[], first.toList, [' '], [], by simp, ?_, by simp, hne, by simpa using hspace, ?_⟩
    · rwa [String.ofList_toList]
    · exact fun c hc => Text.isBlank_of_isVisible (htoken c hc)
  have hletters : ∀ c ∈ first.toList, IsVisible c :=
    Text.forall_of_sameIgnoringCase (fun _ => Text.isVisible_of_toLower) hfirst isVisible_of_mem_scheme
  refine ⟨hcredential, _, _, h, Http.headerText?_utf8 fun c hc => ?_, hcredential⟩
  simp only [String.toList_append, List.mem_append] at hc
  rcases hc with (hc | hc) | hc
  · exact ⟨(hletters c hc).1.le, (hletters c hc).2⟩
  · rw [show c = ' ' by simpa using hc]
    decide
  · exact ⟨(htoken c hc).1.le, (htoken c hc).2⟩

/-- **Which texts are bearer credentials.** A text is read as a token exactly if it consists of the scheme in any case,
blanks, and that token, not empty and without blanks, where blanks may stand around both; any other text is refused as
an invalid token. So an issued token that is sent behind the scheme, in any case and with one space between them, in the
first authorization header is read back and verified: whoever looks at the headers comes to the verdict on just that
token, and for its issuer these are the claims of the account up to the expiry. -/
theorem Bearer.parse_exact (credential : String) :
    (∀ token, parse credential = .ok token ↔ Credential credential.toList token.toList) ∧
    (parse credential = .error .invalidToken ↔ ∀ token : String, ¬Credential credential.toList token.toList) ∧
    ∀ (authority : Authority) (now : Moment) (account : Account) (token first : String) (headers : Headers),
      authority.issue now account = .ok token → sameIgnoringCase first Bearer.scheme = true →
      credential = first ++ " " ++ token → Sends headers (utf8 credential) →
      parse credential = .ok token ∧
      (∀ reader : Authority, ∀ later, reader.claimsOfHeaders later headers = reader.verify later token) ∧
      ∃ expiry, expiry? now authority.lifetime = some expiry ∧ ∀ later, authority.claimsOfHeaders later headers =
        if later.seconds ≤ expiry then .ok (Authority.claimsFor account expiry) else .error .invalidToken := by
  refine ⟨fun token => parse_eq_ok_iff, ?_, ?_⟩
  · simp only [← parse_eq_ok_iff]
    unfold parse
    cases token? credential with
    | none => simp
    | some token => simp
  · rintro authority now account token first headers hissue hfirst rfl hsends
    obtain ⟨expiry, hexpiry, hverify⟩ := verify_issue hissue
    obtain ⟨_, -, rfl⟩ := exists_expiry_of_issue hissue
    have hne : ∀ payload, (sign authority.secret payload).toList ≠ [] := by simp [sign]
    obtain ⟨hcredential, hpresents⟩ := presents_of_sends hfirst (hne _) (isVisible_of_mem_sign _ _) hsends
    have hreads : ∀ (reader : Authority) later, reader.claimsOfHeaders later headers = reader.verify later _ :=
      claimsOfHeaders_of_presents hpresents
    refine ⟨parse_eq_ok_iff.2 hcredential, hreads, expiry, hexpiry, fun later => ?_⟩
    rw [hreads, hverify]
    by_cases hlate : later.seconds ≤ (expiry : Int)
    · rw [if_pos hlate, if_neg (by omega)]
    · rw [if_neg hlate, if_pos (by omega)]

/-- The scheme in mixed case, behind a header of another name and in front of a second authorization header: up to its
last second the token stands for its account, and later it is refused. -/
theorem Bearer.parse_exact_shouted :
    let authority : Authority := ⟨utf8 "s", 3600⟩
    let account : Account := ⟨7, ⟨"a@x.com", "1", "a", "b"⟩, "", Moment.utc 0, .user, []⟩
    let claims : Claims := ⟨"7", "a@x.com", .user, 3600⟩
    ∃ token, authority.issue (Moment.utc 0) account = .ok token ∧
      let headers := [("accept", utf8 "*/*"), ("Authorization", utf8 ("BeaReR" ++ " " ++ token)),
        ("authorization", utf8 "Bearer x")]
      authority.claimsOfHeaders (Moment.utc 3600) headers = .ok claims ∧
      authority.claimsOfHeaders (Moment.utc 3601) headers = .error .invalidToken := by
  intro authority account claims
  have hexpiry : expiry? (Moment.utc 0) authority.lifetime = some 3600 := by decide
  have hclaims : Authority.claimsFor account 3600 = claims := by decide
  refine ⟨_, issue_of_expiry? hexpiry, ?_⟩
  intro headers
  obtain ⟨-, -, hissued⟩ := Bearer.parse_exact ("BeaReR" ++ " " ++ sign authority.secret claims.write)
  obtain ⟨-, -, expiry, he, hverdict⟩ := hissued authority (Moment.utc 0) account _ "BeaReR" headers
    (issue_of_expiry? hexpiry) (by decide) rfl ⟨[("accept", utf8 "*/*")], "Authorization", _, rfl, by decide, by decide⟩
  cases hexpiry.symm.trans he
  rw [hclaims] at hverdict
  exact ⟨hverdict _, hverdict _⟩

end Token

end Gatehouse
