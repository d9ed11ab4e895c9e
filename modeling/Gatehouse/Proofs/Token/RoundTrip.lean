import Gatehouse.Proofs.Base64
import Gatehouse.Proofs.Json.Number
import Gatehouse.Proofs.Json.Record
import Gatehouse.Token

/-!
# Issued tokens

* `header_read`, `claims_read`, `conditions_read` — the header and the payload of an issued token are read back;
* `payload?_sign` — the signature of an issued token is the one that its header asks for;
* `verify_issue` — an issued token stands for the claims of its account until it expires, and for nothing later.
-/

namespace Gatehouse.Token

open Json
open Json.Reader (Reads bind_ok)

/-! ## Header -/

lemma reads_formOnly (key s : String) (h : Header) :
    Reads ((Header.formOnly key Reader.string).read h) (writeString s) { h with seen := key :: h.seen } := by
  intro rest hr
  exact (bind_ok (Reader.reads_nullable_string s rest hr) _).trans rfl

lemma header_read : readAll Header.read (utf8 (String.ofList issuedHeader)) = .ok .hs384 := by
  have htyp : Reads (Record.member Header.members "typ" {}) (':' :: writeString "JWT") ⟨["typ"], none⟩ :=
    reads_member (m := Header.formOnly "typ" Reader.string) rfl rfl (reads_formOnly "typ" "JWT" {})
  have halg : Reads (Record.member Header.members "alg" ⟨["typ"], none⟩) (':' :: writeString "HS384")
      ⟨["typ"], some .hs384⟩ := by
    refine reads_member (m := .field "alg" .required Header.algorithm (fun a h => { h with algorithm := some a })
      (Reader.variant Algorithm.ofName?)) rfl rfl ?_
    exact reads_field (Reader.reads_variant (show Algorithm.ofName? "HS384" = some .hs384 from rfl)) _
  have hrecord : Reads (Record.read Header.members {}) issuedHeader ⟨["typ"], some .hs384⟩ :=
    reads_record (.cons htyp (.cons halg (.nil _))) rfl
  have hread : Reads Header.read issuedHeader .hs384 := by
    intro rest hr
    rw [Header.read, bind_ok (hrecord rest hr)]
    rfl
  exact hread.readAll

/-! ## Payload -/

/-- **Written claims are read back.** -/
theorem claims_read {c : Claims} (h : c.expiry < wordLimit) :
    readAll Claims.read (utf8 (String.ofList c.write)) = .ok c := by
  have hsub : Reads (Record.member Claims.members "sub" {}) (':' :: writeString c.subject)
      ⟨c.subject, none, none, none⟩ :=
    reads_member rfl rfl (reads_field (Reader.reads_string c.subject) _)
  have hemail : Reads (Record.member Claims.members "email" ⟨c.subject, none, none, none⟩)
      (':' :: writeString c.email) ⟨c.subject, c.email, none, none⟩ :=
    reads_member rfl rfl (reads_field (Reader.reads_string c.email) _)
  have hrole : Reads (Record.member Claims.members "role" ⟨c.subject, c.email, none, none⟩)
      (':' :: writeString c.role.name) ⟨c.subject, c.email, c.role, none⟩ :=
    reads_member rfl rfl (reads_field (Reader.reads_variant (Role.ofName?_name c.role)) _)
  have hexp : Reads (Record.member Claims.members "exp" ⟨c.subject, c.email, c.role, none⟩)
      (':' :: writeInt c.expiry) ⟨c.subject, c.email, c.role, c.expiry⟩ :=
    reads_member rfl rfl (reads_field (Reader.reads_natWord h) _)
  have hrecord : Reads (Record.read Claims.members {}) c.write ⟨c.subject, c.email, c.role, c.expiry⟩ :=
    reads_record (.cons hsub (.cons hemail (.cons hrole (.cons hexp (.nil _))))) rfl
  have hread : Reads Claims.read c.write c := by
    intro rest hr
    rw [Claims.read, bind_ok (hrecord rest hr)]
    rfl
  exact hread.readAll

lemma reads_noted {α : Type} {key : String} {presence : Presence} {value : Reader α} {written : List Char} {a : α}
    (h : Reads value written a) (c : Conditions) :
    Reads ((Conditions.noted key presence value).read c) written { c with seen := key :: c.seen } := by
  intro rest hr
  have hattempt : attempt value (charBytes written ++ rest) = (.ok (some a), rest) := by
    rw [attempt, h rest hr]
  exact (bind_ok hattempt _).trans rfl

lemma reads_numeric {n : Nat} (h : n < wordLimit) : Reads Conditions.numeric (writeInt n) (.natural n) := by
  intro rest hr
  have hn := Reader.reads_natural h rest hr
  obtain ⟨b, bytes, hb, hd⟩ := Reader.exists_charBytes_writeInt n
  have hlist : b ≠ 91 := by rintro rfl; exact absurd hd (by decide)
  have hobject : b ≠ 123 := by rintro rfl; exact absurd hd (by decide)
  rw [hb] at hn ⊢
  rw [Conditions.numeric, List.cons_append, bind_ok (Reader.peek_digit hd _), if_neg (by simpa using hlist),
    if_neg (by simpa using hobject)]
  exact hn

lemma conditions_read {c : Claims} (h : c.expiry < wordLimit) :
    readAll Conditions.read (utf8 (String.ofList c.write)) = .ok ⟨["exp", "sub"], none⟩ := by
  have hsub : Reads (Record.member Conditions.members "sub" {}) (':' :: writeString c.subject) ⟨["sub"], none⟩ :=
    reads_member rfl rfl (reads_noted (Reader.reads_nullable_string c.subject) _)
  have hemail : Reads (Record.member Conditions.members "email" ⟨["sub"], none⟩) (':' :: writeString c.email)
      ⟨["sub"], none⟩ :=
    reads_other rfl (Reader.reads_skip c.email)
  have hrole : Reads (Record.member Conditions.members "role" ⟨["sub"], none⟩) (':' :: writeString c.role.name)
      ⟨["sub"], none⟩ :=
    reads_other rfl (Reader.reads_skip c.role.name)
  have hexp : Reads (Record.member Conditions.members "exp" ⟨["sub"], none⟩) (':' :: writeInt c.expiry)
      ⟨["exp", "sub"], none⟩ :=
    reads_member rfl rfl (reads_noted (reads_numeric h) _)
  exact Reads.readAll (reads_record (.cons hsub (.cons hemail (.cons hrole (.cons hexp (.nil _))))) rfl)

/-! ## Signature -/

lemma digit_ne_dot : ∀ n < 64, Base64.urlSafe.digit n ≠ '.' := by decide +kernel

lemma dot_not_mem_encode (bytes : Bytes) : '.' ∉ Base64.encode Base64.urlSafe bytes := by
  intro hm
  exact Base64.forall_mem_encode (P := (· ≠ '.')) digit_ne_dot bytes _ hm rfl

/-- The payload of a token of three segments with a header that is read and the signature that it asks for. -/
lemma payload?_of_signature {secret headerText : Bytes} {token : String} {header payload sig : List Char}
    {algorithm : Algorithm} {hash : Digest.Sha2.Variant} (hsplit : token.toList.splitOn '.' = [header, payload, sig])
    (htext : Base64.decode? Base64.urlSafe header = some headerText)
    (hread : readAll Header.read headerText = .ok algorithm) (hhash : algorithm.hash? = some hash)
    (hsig : sig = signature hash secret (header ++ '.' :: payload)) :
    Authority.payload? secret token = Base64.decode? Base64.urlSafe payload := by
  unfold Authority.payload?
  rw [hsplit]
  simp only [htext, hread, Except.toOption, hhash, hsig, Option.bind_eq_bind, Option.bind_some, if_true]

/-- **The payload of a signed token is found again,** since the signature is the one that the header asks for. -/
theorem payload?_sign (secret : Bytes) (payload : List Char) :
    Authority.payload? secret (sign secret payload) = some (utf8 (String.ofList payload)) := by
  have hdecode : ∀ text, Base64.decode? Base64.urlSafe (segment text) = some (utf8 (String.ofList text)) :=
    fun text => Base64.decode?_encode Base64.urlSafe_isProper _
  have hsplit : (sign secret payload).toList.splitOn '.' = [segment issuedHeader, segment payload,
      signature Digest.Sha2.sha384 secret (segment issuedHeader ++ '.' :: segment payload)] := by
    have hheader : '.' ∉ segment issuedHeader := dot_not_mem_encode _
    have hpayload : '.' ∉ segment payload := dot_not_mem_encode _
    have hsig : ∀ message, '.' ∉ signature Digest.Sha2.sha384 secret message := fun _ => dot_not_mem_encode _
    rw [sign, String.toList_ofList, List.append_assoc, List.cons_append,
      List.splitOn_append_cons_self_of_not_mem hheader, List.splitOn_append_cons_self_of_not_mem hpayload,
      List.splitOn_eq_singleton (hsig _)]
  rw [payload?_of_signature hsplit (hdecode _) header_read rfl rfl, hdecode]

/-! ## Verification -/

/-- A signed token stands for its claims until it expires. -/
lemma verify_sign {c : Claims} (h : c.expiry < wordLimit) (authority : Authority) (later : Moment) :
    authority.verify later (sign authority.secret c.write) =
      if (c.expiry : Int) < later.seconds then .error .invalidToken else .ok c := by
  unfold Authority.verify
  rw [payload?_sign, Option.bind_some, Authority.accepted?, claims_read h, conditions_read h]
  by_cases hexp : (c.expiry : Int) < later.seconds
  · simp [hexp, Except.toOption]
  · simp [hexp, Except.toOption, Conditions.isAddressed]

lemma expiry?_lt {now : Moment} {lifetime expiry : Nat} (h : expiry? now lifetime = some expiry) :
    expiry < wordLimit := by
  unfold expiry? at h
  dsimp only at h
  split at h
  · cases h
    unfold wordLimit
    omega
  · cases h

variable {authority : Authority} {account : Account} {now : Moment}

lemma issue_of_expiry? {expiry : Nat} (h : expiry? now authority.lifetime = some expiry) :
    authority.issue now account = .ok (sign authority.secret (Authority.claimsFor account expiry).write) := by
  unfold Authority.issue
  rw [h]

/-- A token is refused only if it would expire outside the calendar. -/
lemma issue_eq_error {fault : Fault} (h : authority.issue now account = .error fault) :
    expiry? now authority.lifetime = none ∧ ∃ detail, fault = .internal detail := by
  cases he : expiry? now authority.lifetime with
  | none =>
    unfold Authority.issue at h
    rw [he] at h
    cases h
    exact ⟨rfl, _, rfl⟩
  | some expiry =>
    rw [issue_of_expiry? he] at h
    cases h

lemma exists_expiry_of_issue {token : String} (h : authority.issue now account = .ok token) :
    ∃ expiry, expiry? now authority.lifetime = some expiry ∧
      token = sign authority.secret (Authority.claimsFor account expiry).write := by
  cases he : expiry? now authority.lifetime with
  | none =>
    unfold Authority.issue at h
    rw [he] at h
    cases h
  | some expiry =>
    rw [issue_of_expiry? he] at h
    cases h
    exact ⟨expiry, rfl, rfl⟩

/-- **An issued token stands for the claims of its account until it expires,** and for nothing later. -/
theorem verify_issue {token : String} (h : authority.issue now account = .ok token) :
    ∃ expiry, expiry? now authority.lifetime = some expiry ∧ ∀ later, authority.verify later token =
      if (expiry : Int) < later.seconds then .error .invalidToken else .ok (Authority.claimsFor account expiry) := by
  obtain ⟨expiry, he, rfl⟩ := exists_expiry_of_issue h
  exact ⟨expiry, he, fun later => verify_sign (expiry?_lt he) authority later⟩

lemma accountId_claimsFor {expiry : Nat} (h : Text.IsWord account.id) :
    (Authority.claimsFor account expiry).accountId = .ok account.id := by
  unfold Claims.accountId Authority.claimsFor
  rw [Text.word?_decimal h]

lemma eq_of_accountId_claimsFor {expiry : Nat} {id : Int}
    (h : (Authority.claimsFor account expiry).accountId = .ok id) : id = account.id := by
  unfold Claims.accountId Authority.claimsFor at h
  split at h
  · next m hm =>
    cases h
    exact Text.eq_of_word?_decimal hm
  · cases h

end Gatehouse.Token
