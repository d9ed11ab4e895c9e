import Gatehouse.Password
import Gatehouse.Proofs.Bytes
import Gatehouse.Proofs.Phc

/-!
# Fresh hashes

* `wellFormed_fresh`, `parse?_freshText` — the text of a fresh hash is read back as the hash that was written;
* `Scheme.hash_of_some`, `Scheme.verify_freshText` — what hashing gives, and that a password is that of a fresh
  hash exactly if it has the same output under the same salt;
* `Scheme.verify_eq_error_iff` — a check fails exactly for texts that are not those of hashes;
* `Scheme.verify_hash` — so that hashing and checking agree, for any two peppers and passwords.
-/

namespace Gatehouse

lemma Digest.Argon2.isSome_tag? (p : Params) (salt password : Bytes) :
    (tag? p salt password).isSome = decide (password.length < 0x100000000) := by
  unfold tag?
  by_cases h : 0x100000000 ≤ password.length
  · rw [if_pos h, decide_eq_false (Nat.not_lt.2 h), Option.isSome_none]
  · rw [if_neg h, decide_eq_true (Nat.not_le.1 h), Option.isSome_some]

namespace Password

open Scheme (freshText)

/-! ## The text of a fresh hash -/

def fresh (salt : Salt) (tag : Bytes) : Phc where
  algorithm := "argon2id".toList
  version := some 19
  params := [(['m'], "19456".toList), (['t'], ['2']), (['p'], ['1'])]
  salt := some (Base64.encode Base64.standard salt.toList)
  output := some tag

lemma freshText_eq (salt : Salt) (tag : Bytes) : freshText salt tag = (fresh salt tag).write := rfl

/-- A fresh hash is well-formed: sixteen bytes of salt and thirty-two of output fit their fields. -/
lemma wellFormed_fresh (salt : Salt) {tag : Bytes} (h : tag.length = 32) : (fresh salt tag).WellFormed where
  algorithm := by
    show Phc.isName "argon2id".toList = true
    decide
  version_lt := by
    intro n hn
    rw [← Option.some.inj hn]
    decide
  isParam := by
    have hparams : ∀ p ∈ [(['m'], "19456".toList), (['t'], ['2']), (['p'], ['1'])],
        Phc.isName p.1 = true ∧ Phc.isValue p.2 = true := by decide
    exact hparams
  length_params := by
    show (Phc.writeParams [(['m'], "19456".toList), (['t'], ['2']), (['p'], ['1'])]).length ≤ 127
    decide
  noVersion := by
    rintro ⟨⟩
  salt := by
    rintro _ ⟨⟩
    have hlen : (Base64.encode Base64.standard salt.toList).length = 22 := by
      rw [Base64.length_encode, Vector.length_toList, saltBytes]
    have hall : (Base64.encode Base64.standard salt.toList).all Phc.isValueChar = true :=
      List.all_eq_true.2 (Base64.forall_mem_encode Phc.digit_isValueChar _)
    rw [Phc.isValue, hlen, hall]
    exact ⟨by decide, rfl⟩
  output := by
    rintro _ ⟨⟩
    omega
  salted := by
    rintro ⟨⟩

/-- **The text of a fresh hash is read back as the hash that was written.** -/
theorem parse?_freshText (salt : Salt) {tag : Bytes} (h : tag.length = 32) :
    Phc.parse? (freshText salt tag) = some (fresh salt tag) :=
  Phc.parse?_eq_some_iff.2 ⟨wellFormed_fresh salt h, freshText_eq salt tag⟩

lemma paramsOf?_fresh (salt : Salt) (tag : Bytes) : paramsOf? (fresh salt tag) 32 = some freshParams := by
  unfold paramsOf?
  rw [show (fresh salt tag).algorithm = "argon2id".toList from rfl, show (fresh salt tag).version = some 19 from rfl,
    show (fresh salt tag).params = [(['m'], "19456".toList), (['t'], ['2']), (['p'], ['1'])] from rfl]
  decide +kernel

/-! ## Hashing and checking -/

namespace Scheme

variable {scheme : Scheme} {salt : Salt} {plain : String} {tag : Bytes}

/-- What a scheme makes of a password under a fresh salt, if it is not too long. -/
def output? (scheme : Scheme) (salt : Salt) (plain : String) : Option Bytes :=
  scheme.stretching.tag? freshParams salt.toList (scheme.secret plain)

lemma length_of_output? (h : scheme.output? salt plain = some tag) : tag.length = 32 :=
  scheme.stretching.length_tag? h

lemma hash_of_some (h : scheme.output? salt plain = some tag) : scheme.hash salt plain = .ok (freshText salt tag) := by
  unfold output? at h
  unfold hash
  rw [h]

lemma hash_of_none (h : scheme.output? salt plain = none) :
    scheme.hash salt plain = .error (.internal "the password is too long to be hashed") := by
  unfold output? at h
  unfold hash
  rw [h]

/-- Argon2 hashes every password that is not too long, with every pepper of less than about four gigabytes. -/
lemma exists_hash_argon2 {pepper : String} (hpepper : pepper.utf8ByteSize + maxBytes ≤ 0x100000000) (salt : Salt)
    (hplain : plain.utf8ByteSize < maxBytes) : ∃ text, hash ⟨pepper, argon2⟩ salt plain = .ok text := by
  let scheme : Scheme := ⟨pepper, argon2⟩
  have hlength : (scheme.secret plain).length < 0x100000000 := by
    rw [secret, length_utf8, String.utf8ByteSize_append]
    show plain.utf8ByteSize + pepper.utf8ByteSize < 0x100000000
    omega
  have hsome : (scheme.output? salt plain).isSome = true :=
    (Digest.Argon2.isSome_tag? freshParams salt.toList (scheme.secret plain)).trans (decide_eq_true hlength)
  obtain ⟨tag, htag⟩ := Option.isSome_iff_exists.1 hsome
  exact ⟨_, hash_of_some htag⟩

/-- A hash of which every part can be read is that of a password exactly if its output comes out again. -/
lemma isTagOf_eq {h : Phc} {saltText : List Char} {output bytes : Bytes} {params : Digest.Argon2.Params}
    (hs : h.salt = some saltText) (ho : h.output = some output) (hp : paramsOf? h output.length = some params)
    (hd : Base64.decode? Base64.standard saltText = some bytes) (hlen : 8 ≤ bytes.length) (plain : String) :
    scheme.isTagOf h plain = (scheme.stretching.tag? params bytes (scheme.secret plain) == some output) := by
  have hguard : guard (8 ≤ bytes.length) = some () := (Option.guard_eq_some' ()).2 hlen
  unfold isTagOf
  simp only [hs, ho, hp, hd, hguard, Option.bind_eq_bind, Option.bind_some]

/-- **Checking against a fresh hash.** The check comes to a result, and a password passes it exactly if it has the
output that was written under the salt that was written. -/
theorem verify_freshText (salt : Salt) (h : tag.length = 32) (plain : String) :
    scheme.verify (freshText salt tag) plain = .ok (scheme.output? salt plain == some tag) := by
  have hlen : 8 ≤ salt.toList.length := by rw [Vector.length_toList]; decide
  have htag : scheme.isTagOf (fresh salt tag) plain = (scheme.output? salt plain == some tag) :=
    isTagOf_eq rfl rfl (by rw [h]; exact paramsOf?_fresh salt tag)
      (Base64.decode?_encode Base64.standard_isProper _) hlen plain
  rw [← htag, verify, parse?_freshText salt h]

/-- **A check fails** exactly for texts that are not those of hashes. -/
theorem verify_eq_error_iff {stored : String} :
    (∃ fault, scheme.verify stored plain = .error fault) ↔ ¬ ∃ h : Phc, h.WellFormed ∧ stored = h.write := by
  simp only [← Phc.parse?_eq_some_iff]
  unfold verify
  cases Phc.parse? stored with
  | none => simp
  | some h => simp

/-- **Hashing and checking agree.** The hash of a password is the text of a well-formed hash with the salt and with the
output of the password in front of the pepper, and it is read back as that. Checking any password against it, with any
pepper, comes to a result; and the password passes exactly if it has the same output in front of that pepper under the
same salt. So it does wherever password and pepper make the same text, however they share it. A check of whatever is
stored fails exactly if that is not the text of a hash. -/
theorem verify_hash (scheme : Scheme) (salt : Salt) (plain : String) {text : String}
    (h : scheme.hash salt plain = .ok text) :
    let tag? := scheme.stretching.tag? freshParams salt.toList
    (∃ tag, tag? (utf8 (plain ++ scheme.pepper)) = some tag ∧ (fresh salt tag).WellFormed ∧
      text = (fresh salt tag).write ∧ Phc.parse? text = some (fresh salt tag)) ∧
    (∀ pepper other, let peppered : Scheme := ⟨pepper, scheme.stretching⟩
      (∃ known, peppered.verify text other = .ok known) ∧
      (peppered.verify text other = .ok true ↔
        tag? (utf8 (other ++ pepper)) = tag? (utf8 (plain ++ scheme.pepper))) ∧
      (other ++ pepper = plain ++ scheme.pepper → peppered.verify text other = .ok true)) ∧
    ∀ (any : Scheme) stored other, (∃ fault, any.verify stored other = .error fault) ↔
      ¬ ∃ h : Phc, h.WellFormed ∧ stored = h.write := by
  intro tag?
  cases ho : scheme.output? salt plain with
  | none =>
    rw [hash_of_none ho] at h
    cases h
  | some tag =>
    rw [hash_of_some ho] at h
    cases h
    have hlen : tag.length = 32 := length_of_output? ho
    have htag : tag? (utf8 (plain ++ scheme.pepper)) = some tag := ho
    refine ⟨⟨tag, htag, wellFormed_fresh salt hlen, freshText_eq salt tag, parse?_freshText salt hlen⟩, ?_,
      fun any stored other => verify_eq_error_iff⟩
    intro pepper other peppered
    have hverify : peppered.verify (freshText salt tag) other = .ok (peppered.output? salt other == some tag) :=
      verify_freshText salt hlen other
    have hsame : peppered.verify (freshText salt tag) other = .ok true ↔
        tag? (utf8 (other ++ pepper)) = tag? (utf8 (plain ++ scheme.pepper)) := by
      rw [hverify, htag, Except.ok.injEq, beq_iff_eq]
      rfl
    refine ⟨⟨_, hverify⟩, hsame, fun htext => hsame.2 ?_⟩
    rw [htext]

/-- A password that takes the front of the pepper passes with the rest of it for a pepper. -/
theorem verify_hash_split :
    ∃ text, Scheme.hash ⟨"pepper", argon2⟩ (Vector.replicate _ 7) "secret" = .ok text ∧
      Scheme.verify ⟨"per", argon2⟩ text "secretpep" = .ok true := by
  let scheme : Scheme := ⟨"pepper", argon2⟩
  let salt : Salt := Vector.replicate _ 7
  have hlength : (scheme.secret "secret").length < 0x100000000 := by decide +kernel
  have hsome : (scheme.output? salt "secret").isSome = true :=
    (Digest.Argon2.isSome_tag? freshParams salt.toList (scheme.secret "secret")).trans (decide_eq_true hlength)
  obtain ⟨tag, htag⟩ := Option.isSome_iff_exists.1 hsome
  have hhash : scheme.hash salt "secret" = .ok (freshText salt tag) := hash_of_some htag
  exact ⟨_, hhash, ((verify_hash scheme salt "secret" hhash).2.1 "per" "secretpep").2.2 (by decide +kernel)⟩

end Scheme

end Password

end Gatehouse
