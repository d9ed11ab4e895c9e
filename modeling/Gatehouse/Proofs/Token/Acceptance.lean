import Gatehouse.Proofs.Base64
import Gatehouse.Proofs.Token.Reading
import Gatehouse.Proofs.Token.RoundTrip

/-!
# Tokens that are accepted

What a token is that verification accepts, whatever text it was given.

* `payload?_eq_some`, `accepted?_eq_some` — what stands behind each of the two steps of verification;
* `verify_sound` — **what is accepted was signed as its header says,** and everything else is one and the same fault.
-/

namespace Gatehouse.Token

open Json

/-! ## Verification -/

variable {secret : Bytes} {token : String} {authority : Authority} {now : Moment} {c : Claims}

lemma eq_ok_of_toOption {α : Type} {e : Except Flaw α} {a : α} (h : e.toOption = some a) : e = .ok a := by
  cases e with
  | error _ => cases h
  | ok _ => cases h; rfl

lemma payload?_eq_some {payload : Bytes} (h : Authority.payload? secret token = some payload) :
    ∃ headerText header name hash, (name, hash) ∈ acceptedNames ∧ IsText headerText header ∧
      NamesAlgorithm header name ∧
      token.toList.splitOn '.' = [Base64.encode Base64.urlSafe headerText, Base64.encode Base64.urlSafe payload,
        signature hash secret
          (Base64.encode Base64.urlSafe headerText ++ '.' :: Base64.encode Base64.urlSafe payload)] := by
  unfold Authority.payload? at h
  split at h
  · rename_i headerDigits payloadDigits sig hsplit
    simp only [Option.bind_eq_bind, Option.bind_eq_some_iff] at h
    obtain ⟨headerText, hheader, algorithm, hread, hash, hhash, h⟩ := h
    split at h
    · rename_i hsig
      obtain ⟨header, name, htext, hnames, hname⟩ := header_sound (eq_ok_of_toOption hread)
      refine ⟨headerText, header, name, hash, mem_acceptedNames hname hhash, htext, hnames, ?_⟩
      rw [hsplit, hsig, Base64.eq_encode_of_decode? hheader, Base64.eq_encode_of_decode? h]
    · cases h
  · cases h

lemma accepted?_eq_some {payload : Bytes} (h : Authority.accepted? now payload = some c) :
    (∃ t, IsText payload t ∧ States t c) ∧ now.seconds ≤ c.expiry := by
  simp only [Authority.accepted?, Option.bind_eq_bind, Option.bind_eq_some_iff] at h
  obtain ⟨claims, hclaims, conditions, hconditions, h⟩ := h
  split at h
  · cases h
  · rename_i hgood
    cases h
    exact ⟨claims_sound (eq_ok_of_toOption hclaims) (eq_ok_of_toOption hconditions), by omega⟩

lemma verify_eq_ok_iff : authority.verify now token = .ok c ↔
    ∃ payload, Authority.payload? authority.secret token = some payload ∧
      Authority.accepted? now payload = some c := by
  rw [← Option.bind_eq_some_iff, Authority.verify]
  cases (Authority.payload? authority.secret token).bind (Authority.accepted? now) <;> simp

/-- What an accepted token is: signed by the accepted algorithm that its header names, with a payload that states the
claims. -/
lemma exists_of_verify (h : authority.verify now token = .ok c) :
    ∃ headerText payloadText header payload name hash, (name, hash) ∈ acceptedNames ∧
      IsText headerText header ∧ NamesAlgorithm header name ∧ IsText payloadText payload ∧ States payload c ∧
      now.seconds ≤ c.expiry ∧
      token.toList.splitOn '.' = [Base64.encode Base64.urlSafe headerText, Base64.encode Base64.urlSafe payloadText,
        signature hash authority.secret
          (Base64.encode Base64.urlSafe headerText ++ '.' :: Base64.encode Base64.urlSafe payloadText)] := by
  obtain ⟨payloadText, hpayload, haccepted⟩ := verify_eq_ok_iff.1 h
  obtain ⟨headerText, header, name, hash, hmem, hheader, hnames, hsplit⟩ := payload?_eq_some hpayload
  obtain ⟨⟨payload, htext, hstates⟩, hexpiry⟩ := accepted?_eq_some haccepted
  exact ⟨headerText, payloadText, header, payload, name, hash, hmem, hheader, hnames, htext, hstates, hexpiry, hsplit⟩

lemma encode_injective : Function.Injective (Base64.encode Base64.urlSafe) := by
  intro bytes bytes' h
  have hb := Base64.decode?_encode Base64.urlSafe_isProper bytes
  rw [h, Base64.decode?_encode Base64.urlSafe_isProper] at hb
  exact (Option.some.inj hb).symm

lemma hash_unique {name : String} {hash hash' : Digest.Sha2.Variant} (h : (name, hash) ∈ acceptedNames)
    (h' : (name, hash') ∈ acceptedNames) : hash = hash' := by
  simp only [acceptedNames, List.mem_cons, Prod.mk.injEq, List.not_mem_nil, or_false] at h h'
  rcases h with ⟨rfl, rfl⟩ | ⟨rfl, rfl⟩ | ⟨rfl, rfl⟩ <;> exact Eq.symm (by simpa using h')

/-- **What is accepted was signed as its header says.** For every secret, every text and every time:

* a token that is accepted has three segments: a header in Base64 that names one of the accepted algorithms, a
  payload in Base64 that states the claims, whose expiry has not passed, and the signature of both by that algorithm;
* every other token is an invalid one, and no other fault;
* in particular one whose header names any other algorithm, whatever its signature is;
* two accepted tokens with the same first segments have the same signature. -/
theorem verify_sound (authority : Authority) :
    (∀ now token c, authority.verify now token = .ok c →
      ∃ headerText payloadText header payload name hash, (name, hash) ∈ acceptedNames ∧
        IsText headerText header ∧ NamesAlgorithm header name ∧ IsText payloadText payload ∧ States payload c ∧
        now.seconds ≤ c.expiry ∧
        token.toList.splitOn '.' = [Base64.encode Base64.urlSafe headerText, Base64.encode Base64.urlSafe payloadText,
          Base64.encode Base64.urlSafe (Digest.hmac hash authority.secret (utf8 (String.ofList
            (Base64.encode Base64.urlSafe headerText ++ '.' :: Base64.encode Base64.urlSafe payloadText))))]) ∧
    (∀ now token, (∃ c, authority.verify now token = .ok c) ∨ authority.verify now token = .error .invalidToken) ∧
    (∀ now token headerText header name payload sig,
      token.toList.splitOn '.' = [Base64.encode Base64.urlSafe headerText, payload, sig] → IsText headerText header →
      NamesAlgorithm header name → name ∉ acceptedNames.map Prod.fst →
      authority.verify now token = .error .invalidToken) ∧
    (∀ now now' token token' c c' header payload sig sig',
      token.toList.splitOn '.' = [header, payload, sig] → token'.toList.splitOn '.' = [header, payload, sig'] →
      authority.verify now token = .ok c → authority.verify now' token' = .ok c' → sig = sig') := by
  have hfault : ∀ now token,
      (∃ c, authority.verify now token = .ok c) ∨ authority.verify now token = .error .invalidToken := by
    intro now token
    unfold Authority.verify
    cases (Authority.payload? authority.secret token).bind (Authority.accepted? now) with
    | some c => exact .inl ⟨c, rfl⟩
    | none => exact .inr rfl
  refine ⟨fun now token c h => exists_of_verify h, hfault, ?_, ?_⟩
  · intro now token headerText header name payload sig hsplit hheader hnames hother
    refine (hfault now token).resolve_left ?_
    rintro ⟨c, hc⟩
    obtain ⟨headerText', _, header', _, name', hash, hmem, hheader', hnames', -, -, -, hsplit'⟩ := exists_of_verify hc
    -- the header is one text, that text is one tree, and the tree names one algorithm
    obtain ⟨htext, -⟩ := List.cons.inj (hsplit.symm.trans hsplit')
    rw [← encode_injective htext] at hheader'
    rw [← hheader.unique hheader'] at hnames'
    rw [← hnames.unique hnames'] at hmem
    exact hother (List.mem_map.2 ⟨_, hmem, rfl⟩)
  · intro now now' token token' c c' header payload sig sig' hsplit hsplit' hc hc'
    obtain ⟨h₁, p₁, tree₁, _, name₁, hash₁, hmem₁, htext₁, hnames₁, -, -, -, hs₁⟩ := exists_of_verify hc
    obtain ⟨h₂, p₂, tree₂, _, name₂, hash₂, hmem₂, htext₂, hnames₂, -, -, -, hs₂⟩ := exists_of_verify hc'
    rw [hsplit, List.cons.injEq, List.cons.injEq, List.cons.injEq] at hs₁
    rw [hsplit', List.cons.injEq, List.cons.injEq, List.cons.injEq] at hs₂
    obtain ⟨rfl, rfl, rfl, -⟩ := hs₁
    obtain ⟨hheader, hpayload, rfl, -⟩ := hs₂
    cases encode_injective hheader
    cases encode_injective hpayload
    cases htext₁.unique htext₂
    cases hnames₁.unique hnames₂
    rw [hash_unique hmem₁ hmem₂]

/-- A header that names no algorithm is refused with whatever payload and signature. -/
theorem verify_sound_none :
    let authority : Authority := ⟨utf8 "secret", 3600⟩
    let now := Moment.utc 0
    let headerText := asciiBytes "\x7b \"alg\": \"none\" \x7d".toList
    let header : Tree := .object [(asciiBytes ['a', 'l', 'g'], .string (asciiBytes ['n', 'o', 'n', 'e']))]
    IsText headerText header ∧ NamesAlgorithm header "none" ∧ "none" ∉ acceptedNames.map Prod.fst ∧
      ∀ payload sig : List Char, '.' ∉ payload → '.' ∉ sig →
        authority.verify now
          (String.ofList (Base64.encode Base64.urlSafe headerText ++ '.' :: (payload ++ '.' :: sig))) =
            .error .invalidToken := by
  intro authority now headerText header
  have hkey : Spells (asciiBytes ['a', 'l', 'g']) "alg" := by
    unfold Spells
    rw [utf8_eq_charBytes]
    exact means_of_plain (by simp [asciiBytes, isPlain_iff])
  have hname : Spells (asciiBytes ['n', 'o', 'n', 'e']) "none" := by
    unfold Spells
    rw [utf8_eq_charBytes]
    exact means_of_plain (by simp [asciiBytes, isPlain_iff])
  have htext : IsText headerText header :=
    ⟨[], .object rfl (.member rfl ⟨_, _, rfl, rfl, hkey.isBody, rfl⟩ (.string rfl hname.isBody) (.endMembers rfl)), rfl⟩
  have hnames : NamesAlgorithm header "none" :=
    ⟨_, .inl ⟨_, rfl, hname⟩, .inl ⟨_, rfl, [], _, [], rfl, hkey, by simp⟩⟩
  refine ⟨htext, hnames, by decide, fun payload sig hp hs => ?_⟩
  refine (verify_sound authority).2.2.1 now _ headerText header "none" payload sig ?_ htext hnames (by decide)
  rw [String.toList_ofList, List.splitOn_append_cons_self_of_not_mem (dot_not_mem_encode _),
    List.splitOn_append_cons_self_of_not_mem hp, List.splitOn_eq_singleton hs]

/-- No algorithm by a pair of keys is accepted either. -/
example : ∀ name ∈ Algorithm.keyPairNames, name ∉ acceptedNames.map Prod.fst := by decide

end Gatehouse.Token
