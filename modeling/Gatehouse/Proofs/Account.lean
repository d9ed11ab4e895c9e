import Gatehouse.Account.Json
import Gatehouse.Proofs.Json.Fields
import Gatehouse.Proofs.Json.Items
import Gatehouse.Proofs.Json.Number
import Gatehouse.Proofs.Moment.Rfc3339

/-!
# Accounts as JSON, both ways

* `Account.IsRecord` — the accounts that can be written: ids that are words, and a moment that RFC 3339 can tell;
* `toJson_of_isCivil`, `exists_toJson_iff` — such an account is written, without regard to the hash of its password;
* `ofJson?_written` — and with the hash among what was written, in whatever order, it is read back;
* `isRecord_of_ofJson?` — every account that is read is one of these, so that it can be written again.
-/

namespace Gatehouse.Account

open Json
open Json.Reader (Reads IsSound bind_ok bind_ok_iff pure_ok_iff throw_ok_iff)

/-- An account that can be written: its ids are words, and its moment of registration has a text. -/
structure IsRecord (a : Account) : Prop where
  id : Text.IsWord a.id
  familyIds : ∀ f ∈ a.familyIds, Text.IsWord f
  registeredAt : a.registeredAt.IsCivil

/-! ## Writing -/

/-- The members of an account as they are written. -/
def jsonMembers (a : Account) : List (String × List Char) :=
  a.writtenMembers (String.ofList a.registeredAt.civilText)

/-- **An account is written** as its members, whatever the hash of its password is. -/
theorem toJson_of_isCivil {a : Account} (h : a.registeredAt.IsCivil) (hash : String) :
    ({ a with passwordHash := hash } : Account).toJson = .ok (String.ofList (writeObject a.jsonMembers)) := by
  have htext : a.registeredAt.toRfc3339 = .ok (String.ofList a.registeredAt.civilText) := Moment.toRfc3339_of_isCivil h
  unfold toJson
  dsimp only
  rw [htext]
  rfl

/-- An account is written exactly if its moment of registration has a text. -/
theorem exists_toJson_iff {a : Account} : (∃ text, a.toJson = .ok text) ↔ a.registeredAt.IsCivil := by
  constructor
  · rintro ⟨text, h⟩
    unfold toJson at h
    cases ht : a.registeredAt.toRfc3339 with
    | error e =>
      rw [ht] at h
      cases h
    | ok registeredAt => exact Moment.exists_toRfc3339_iff.1 ⟨registeredAt, ht⟩
  · intro h
    exact ⟨_, toJson_of_isCivil h a.passwordHash⟩

/-! ## Reading what was written -/

lemma reads_moment {m : Moment} (h : m.IsCivil) : Reads readMoment (writeString (String.ofList m.civilText)) m := by
  intro rest hr
  rw [readMoment, bind_ok (Reader.reads_string _ rest hr), Moment.ofRfc3339?_toRfc3339 h]
  rfl

lemma startsItem_writeInt (n : Int) : StartsItem (writeInt n) := by
  cases n with
  | ofNat n =>
    obtain ⟨b, bytes, hbytes, hdigit⟩ := Reader.exists_charBytes_writeInt n
    refine ⟨b, bytes, hbytes, isSpace_of_isDigit hdigit, ?_⟩
    rintro rfl
    cases hdigit
  | negSucc n => exact ⟨45, _, Reader.charBytes_writeInt_negSucc n, by decide, by decide⟩

lemma reads_familyIds {ids : List Int} (h : ∀ f ∈ ids, Text.IsWord f) :
    Reads (Reader.listOf Reader.word) (writeList (ids.map writeInt)) ids :=
  Reader.reads_listOf fun f hf => ⟨startsItem_writeInt f, Reader.reads_word (h f hf)⟩

/-- The draft of an account of which the members with some keys have been read. -/
def Draft.ofKeys (a : Account) (keys : List String) : Draft where
  id := if "id" ∈ keys then some a.id else none
  email := if "email" ∈ keys then some a.profile.email else none
  phoneNumber := if "phone_number" ∈ keys then some a.profile.phoneNumber else none
  name := if "name" ∈ keys then some a.profile.name else none
  surname := if "surname" ∈ keys then some a.profile.surname else none
  passwordHash := if "password_hash" ∈ keys then some a.passwordHash else none
  registeredAt := if "registered_at" ∈ keys then some a.registeredAt else none
  role := if "role" ∈ keys then some a.role else none
  familyIds := if "family_ids" ∈ keys then some a.familyIds else none

lemma reads_fresh {a : Account} {keys : List String} {α : Type} {key : String} {get : Draft → Option α}
    {put : α → Draft → Draft} {value : Reader α} {written : List Char} {x : α}
    (hfind : members.find? (·.key == key) = some (.field key .required get put value))
    (hnew : get (Draft.ofKeys a keys) = none) (hput : put x (Draft.ofKeys a keys) = Draft.ofKeys a (key :: keys))
    (h : Reads value written x) :
    Reads (Record.member members key (Draft.ofKeys a keys)) (':' :: written) (Draft.ofKeys a (key :: keys)) := by
  have hunset : (Member.field key .required get put value).isSet (Draft.ofKeys a keys) = false := by
    show (get (Draft.ofKeys a keys)).isSome = false
    rw [hnew]
    rfl
  rw [← hput]
  exact reads_member hfind hunset (reads_field h _)

/-- The members of an account with the hash of its password. -/
def fullMembers (a : Account) : List (String × List Char) :=
  ("password_hash", writeString a.passwordHash) :: a.jsonMembers

/-- Each of the written members is read into a draft that does not have it yet. -/
lemma reads_fullMember {a : Account} (h : a.IsRecord) {keys : List String} {m : String × List Char}
    (hm : m ∈ a.fullMembers) (hnew : m.1 ∉ keys) :
    Reads (Record.member members m.1 (Draft.ofKeys a keys)) (':' :: m.2) (Draft.ofKeys a (m.1 :: keys)) := by
  simp only [fullMembers, jsonMembers, writtenMembers, List.mem_cons, List.not_mem_nil, or_false] at hm
  rcases hm with rfl | rfl | rfl | rfl | rfl | rfl | rfl | rfl | rfl
  · exact reads_fresh rfl (if_neg hnew) (by simp [Draft.ofKeys]) (Reader.reads_string _)
  · exact reads_fresh rfl (if_neg hnew) (by simp [Draft.ofKeys]) (Reader.reads_word h.id)
  · exact reads_fresh rfl (if_neg hnew) (by simp [Draft.ofKeys]) (Reader.reads_string _)
  · exact reads_fresh rfl (if_neg hnew) (by simp [Draft.ofKeys]) (Reader.reads_string _)
  · exact reads_fresh rfl (if_neg hnew) (by simp [Draft.ofKeys]) (Reader.reads_string _)
  · exact reads_fresh rfl (if_neg hnew) (by simp [Draft.ofKeys]) (Reader.reads_string _)
  · exact reads_fresh rfl (if_neg hnew) (by simp [Draft.ofKeys]) (reads_moment h.registeredAt)
  · exact reads_fresh rfl (if_neg hnew) (by simp [Draft.ofKeys]) (Reader.reads_variant (Role.ofName?_name a.role))
  · exact reads_fresh rfl (if_neg hnew) (by simp [Draft.ofKeys]) (reads_familyIds h.familyIds)

lemma collects_fullMembers {a : Account} (h : a.IsRecord) {ms : List (String × List Char)}
    (hms : ∀ m ∈ ms, m ∈ a.fullMembers) (hnodup : (ms.map Prod.fst).Nodup) {keys : List String}
    (hnew : ∀ m ∈ ms, m.1 ∉ keys) : Collects (Record.member members) (Draft.ofKeys a keys) ms
      (Draft.ofKeys a ((ms.map Prod.fst).reverse ++ keys)) := by
  induction ms generalizing keys with
  | nil => exact .nil _
  | cons m ms ih =>
    obtain ⟨hm, hms⟩ := List.forall_mem_cons.1 hms
    obtain ⟨hfresh, hnew⟩ := List.forall_mem_cons.1 hnew
    obtain ⟨hother, hnodup⟩ := List.nodup_cons.1 hnodup
    have hnext : ∀ n ∈ ms, n.1 ∉ m.1 :: keys := by
      intro n hn hmem
      rcases List.mem_cons.1 hmem with he | hmem
      · exact hother (he ▸ List.mem_map_of_mem hn)
      · exact hnew n hn hmem
    have hrest := ih hms hnodup hnext
    rw [List.map_cons, List.reverse_cons, List.append_assoc]
    exact .cons (reads_fullMember h hm hfresh) hrest

def keys : List String :=
  ["password_hash", "id", "email", "phone_number", "name", "surname", "registered_at", "role", "family_ids"]

lemma map_fst_fullMembers (a : Account) : a.fullMembers.map Prod.fst = keys := rfl

lemma ofKeys_nil (a : Account) : Draft.ofKeys a [] = {} := by simp [Draft.ofKeys]

lemma ofKeys_of_subset {a : Account} {ks : List String} (h : keys ⊆ ks) : Draft.ofKeys a ks =
    ⟨a.id, a.profile.email, a.profile.phoneNumber, a.profile.name, a.profile.surname, a.passwordHash, a.registeredAt,
      a.role, a.familyIds⟩ := by
  simp only [keys, List.cons_subset] at h
  simp [Draft.ofKeys, h]

/-- **An account is read from what was written for it,** with the hash of its password anywhere among it. -/
theorem ofJson?_written {a : Account} (h : a.IsRecord) {ms : List (String × List Char)}
    (hperm : ms.Perm a.fullMembers) : ofJson? (String.ofList (writeObject ms)) = some a := by
  have hkeys : (ms.map Prod.fst).Perm keys := map_fst_fullMembers a ▸ hperm.map Prod.fst
  have hnodup : (ms.map Prod.fst).Nodup := hkeys.nodup_iff.2 (by decide)
  have hsubset : keys ⊆ (ms.map Prod.fst).reverse ++ [] := by
    rw [List.append_nil]
    exact fun k hk => List.mem_reverse.2 (hkeys.symm.subset hk)
  have hcollects := collects_fullMembers h (fun m hm => hperm.subset hm) hnodup fun m _ => List.not_mem_nil
  rw [ofKeys_nil, ofKeys_of_subset hsubset] at hcollects
  have hrecord : Reads (Record.read members {}) (writeObject ms) _ := reads_record hcollects rfl
  have hread : Reads read (writeObject ms) a := by
    intro rest hr
    rw [read, bind_ok (hrecord rest hr)]
    rfl
  rw [ofJson?, hread.readAll]
  rfl

/-! ## Everything that is read -/

/-- What is kept of a draft while it is read: whatever it has could be written. -/
structure Draft.IsPart (d : Draft) : Prop where
  id : ∀ n ∈ d.id, Text.IsWord n
  familyIds : ∀ l ∈ d.familyIds, ∀ f ∈ l, Text.IsWord f
  registeredAt : ∀ m ∈ d.registeredAt, m.IsCivil

lemma isSound_moment : IsSound readMoment fun m _ => m.IsCivil := by
  intro text rest m h
  obtain ⟨s, mid, hs, h⟩ := bind_ok_iff.1 h
  obtain ⟨t, ht, -⟩ := Reader.isSound_string hs
  cases hm : Moment.ofRfc3339? (utf8 s) with
  | none =>
    rw [hm] at h
    exact (throw_ok_iff.1 h).elim
  | some m' =>
    rw [hm] at h
    obtain ⟨rfl, rfl⟩ := pure_ok_iff.1 h
    exact ⟨t, ht, Moment.isCivil_of_ofRfc3339? hm⟩

lemma isSound_words : IsSound (Reader.listOf Reader.word) fun l _ => ∀ f ∈ l, Text.IsWord f := by
  intro text rest l h
  obtain ⟨t, ht, ts, -, hwords⟩ := Reader.isSound_listOf Reader.isSound_word h
  refine ⟨t, ht, ?_⟩
  clear h
  induction hwords with
  | nil => simp
  | cons hf _ ih => exact List.forall_mem_cons.2 ⟨hf, ih⟩

lemma allSound_members : AllSound members := by
  simp only [AllSound, members, List.forall_mem_cons, List.not_mem_nil, false_implies, implies_true, and_true]
  exact ⟨isSound_field Reader.isSound_word, isSound_field Reader.isSound_string, isSound_field Reader.isSound_string,
    isSound_field Reader.isSound_string, isSound_field Reader.isSound_string, isSound_field Reader.isSound_string,
    isSound_field isSound_moment, isSound_field Reader.isSound_variant, isSound_field isSound_words⟩

/-- A member that is one field keeps what was read, if what it puts into the draft could be written. -/
lemma preserves_field {α : Type} {key : String} {get : Draft → Option α} {put : α → Draft → Draft} {value : Reader α}
    {P : α → Tree → Prop} (hvalue : IsSound value P)
    (hput : ∀ {x t d}, P x t → Draft.IsPart d → Draft.IsPart (put x d)) :
    ∀ ⦃draft t draft'⦄, Takes ((Member.field key .required get put value).read draft) t draft' →
      Draft.IsPart draft → Draft.IsPart draft' := by
  intro draft t draft' htakes hdraft
  obtain ⟨x, hx, rfl⟩ := takes_field htakes
  exact hput (hvalue.of_takes hx) hdraft

lemma preserves_members : Preserves members Draft.IsPart := by
  simp only [Preserves, members, List.forall_mem_cons, List.not_mem_nil, false_implies, implies_true, and_true]
  refine ⟨preserves_field Reader.isSound_word ?id, preserves_field Reader.isSound_string ?_,
    preserves_field Reader.isSound_string ?_, preserves_field Reader.isSound_string ?_,
    preserves_field Reader.isSound_string ?_, preserves_field Reader.isSound_string ?_,
    preserves_field isSound_moment ?moment, preserves_field Reader.isSound_variant ?_,
    preserves_field isSound_words ?familyIds⟩
  case id => exact fun hn hd => ⟨by rintro _ ⟨⟩; exact hn, hd.familyIds, hd.registeredAt⟩
  case moment => exact fun hm hd => ⟨hd.id, hd.familyIds, by rintro _ ⟨⟩; exact hm⟩
  case familyIds => exact fun hl hd => ⟨hd.id, by rintro _ ⟨⟩; exact hl, hd.registeredAt⟩
  all_goals exact fun _ hd => ⟨hd.id, hd.familyIds, hd.registeredAt⟩

lemma isRecord_of_ofDraft? {d : Draft} (hd : d.IsPart) {a : Account} (h : ofDraft? d = some a) : a.IsRecord := by
  simp only [ofDraft?, Option.bind_eq_bind, Option.bind_eq_some_iff] at h
  obtain ⟨id, hid, _, -, _, -, _, -, _, -, _, -, moment, hmoment, _, -, ids, hids, h⟩ := h
  cases h
  exact ⟨hd.id id hid, hd.familyIds ids hids, hd.registeredAt moment hmoment⟩

/-- **Every account that is read can be written.** -/
theorem isRecord_of_ofJson? {text : String} {a : Account} (h : ofJson? text = some a) : a.IsRecord := by
  have hall : readAll read (utf8 text) = .ok a := by
    unfold ofJson? at h
    cases hr : readAll read (utf8 text) with
    | error e =>
      rw [hr] at h
      cases h
    | ok b =>
      rw [hr] at h
      cases h
      rfl
  obtain ⟨rest, hread, -⟩ := Reader.exists_of_readAll hall
  obtain ⟨draft, mid, hrecord, hread⟩ := bind_ok_iff.1 hread
  have hempty : Draft.IsPart {} := ⟨nofun, nofun, nofun⟩
  obtain ⟨_, -, hdraft⟩ := isSound_record_of_preserves preserves_members allSound_members hempty hrecord
  cases hd : ofDraft? draft with
  | none =>
    rw [hd] at hread
    exact (throw_ok_iff.1 hread).elim
  | some b =>
    rw [hd] at hread
    obtain ⟨rfl, -⟩ := pure_ok_iff.1 hread
    exact isRecord_of_ofDraft? hdraft hd

/-! ## Both ways -/

/-- **Accounts can always be written again.** Every account with a moment that RFC 3339 can tell is written, to the
same text whatever the hash of its password is; with a member for the hash anywhere among those that were written, it
is read back; and every account that is read at all can be written. -/
theorem json_both_ways :
    (∀ a : Account, a.IsRecord →
      (∀ hash, ({ a with passwordHash := hash } : Account).toJson = .ok (String.ofList (writeObject a.jsonMembers))) ∧
      ∀ ms, ms.Perm (("password_hash", writeString a.passwordHash) :: a.jsonMembers) →
        ofJson? (String.ofList (writeObject ms)) = some a) ∧
    ∀ text a, ofJson? text = some a → a.IsRecord ∧ ∃ again, a.toJson = .ok again := by
  constructor
  · intro a ha
    exact ⟨toJson_of_isCivil ha.registeredAt, fun ms hms => ofJson?_written ha hms⟩
  · intro text a h
    have ha := isRecord_of_ofJson? h
    exact ⟨ha, exists_toJson_iff.2 ha.registeredAt⟩

/-- Half an hour west of Greenwich, with a fraction of a second that ends in zeros, and ids at the ends of the range. -/
theorem json_both_ways_west :
    let a : Account := ⟨-9223372036854775808, ⟨"a@x.com", "+1", "A\n", "\"B\""⟩, "$h",
      ⟨1704164645, 120000000, -1800, by decide⟩, .admin, [-1, 9223372036854775807]⟩
    String.ofList a.registeredAt.civilText = "2024-01-02T02:34:05.12-00:30" ∧
      ({ a with passwordHash := "other" } : Account).toJson = .ok (String.ofList (writeObject a.jsonMembers)) ∧
      ofJson? (String.ofList (writeObject (("password_hash", writeString "$h") :: a.jsonMembers))) = some a ∧
      ∃ again, a.toJson = .ok again := by
  intro a
  have ha : a.IsRecord := by
    refine ⟨by decide, by decide, ?_⟩
    constructor <;> decide +kernel
  have hwritten := json_both_ways.1 a ha
  have hread := hwritten.2 _ (List.Perm.refl _)
  exact ⟨by decide +kernel, hwritten.1 "other", hread, (json_both_ways.2 _ a hread).2⟩

/-- At an offset of a whole day there is no text, though the offset has whole minutes and the year has four digits. -/
theorem day_ahead_unwritten :
    let a : Account := ⟨1, ⟨"a@x.com", "+1", "A", "B"⟩, "$h", ⟨0, 0, 86400, by decide⟩, .user, []⟩
    a.registeredAt.offset % 60 = 0 ∧ (0 ≤ a.registeredAt.date.year ∧ a.registeredAt.date.year ≤ 9999) ∧
      a.toJson = .error .offsetHour := by
  intro a
  refine ⟨by decide, by decide +kernel, ?_⟩
  have htext : a.registeredAt.toRfc3339 = .error .offsetHour := by decide +kernel
  unfold toJson
  rw [htext]
  rfl

end Gatehouse.Account
