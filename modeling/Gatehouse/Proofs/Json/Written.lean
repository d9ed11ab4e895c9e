import Gatehouse.Proofs.Json.Fields
import Gatehouse.Proofs.Json.Number
import Gatehouse.Proofs.Json.Record
import Mathlib.Data.List.Forall2

/-!
# What is written stands in the grammar

* `spells_written` — what is written between quotes spells the text;
* `Tree.IsInteger`, `stands_writeInt` — a written whole number is a number of the grammar, and denotes it;
* `stands_followers`, `isText_writeObject` — a written object of whole numbers is an object of the grammar with the
  members that were written;
* `IsObjectOf`, `isObjectOf_writeObject` — and where no key is written twice, it says what was written under each key.
-/

namespace Gatehouse.Json

open Reader (Delimits)

/-! ## Strings -/

lemma Means.plainBytes {plain body bytes : Bytes} (hplain : ∀ b ∈ plain, IsPlain b) (h : Means body bytes) :
    Means (plain ++ body) (plain ++ bytes) := by
  induction plain with
  | nil => exact h
  | cons b plain ih => exact .plain (hplain b List.mem_cons_self) (ih fun c hc => hplain c (List.mem_cons_of_mem _ hc))

lemma means_escaped (cs : List Char) : Means (charBytes (cs.flatMap escapedChar)) (charBytes cs) := by
  induction cs with
  | nil => exact .nil
  | cons c cs ih =>
    rw [List.flatMap_cons, charBytes_append, charBytes_cons]
    rcases escapedChar_cases c with ⟨tail, he, hescape⟩ | ⟨he, hplain⟩
    · obtain ⟨body, hbody, hmeans⟩ := escape_ok (hescape (charBytes (cs.flatMap escapedChar))).1
      have hbytes : charBytes (escapedChar c) = 92 :: charBytes tail := by rw [he]; rfl
      rw [hbytes, List.cons_append, hbody]
      exact hmeans ih
    · have hbytes : charBytes (escapedChar c) = String.utf8EncodeChar c := by rw [he]; simp
      rw [hbytes]
      exact ih.plainBytes hplain

/-- **What is written between quotes spells the text.** -/
theorem spells_written (s : String) : Spells (charBytes (s.toList.flatMap escapedChar)) s := by
  rw [Spells, utf8_eq_charBytes]
  exact means_escaped s.toList

/-! ## Numbers -/

/-- A number without a point and an exponent denotes the whole number of its sign and digits. -/
def Numeral.IsInteger (m : Numeral) (n : Int) : Prop :=
  m.fraction = [] ∧ m.exponent = [] ∧ n = if m.isNegative then -(digitsValue m.whole : Int) else digitsValue m.whole

def Tree.IsInteger (t : Tree) (n : Int) : Prop := ∃ m, t = .number m ∧ m.IsInteger n

lemma digitsValue_asciiBytes {ds : List Char} (h : ∀ c ∈ ds, c.isDigit = true) :
    digitsValue (asciiBytes ds) = Nat.ofDigitChars 10 ds 0 := by
  have hfold : ∀ n, (asciiBytes ds).foldl (fun n d => n * 10 + (d.toNat - 48)) n = Nat.ofDigitChars 10 ds n := by
    induction ds with
    | nil => exact fun _ => rfl
    | cons c ds ih =>
      intro n
      rw [Nat.ofDigitChars_cons, ← append_digitByte (h c List.mem_cons_self)]
      exact ih (fun d hd => h d (List.mem_cons_of_mem _ hd)) _
  exact hfold 0

lemma isWhole_toDigits (n : Nat) {rest : Bytes} (hr : Delimits rest) :
    ∃ whole, IsWhole (charBytes (Nat.toDigits 10 n) ++ rest) whole rest ∧ digitsValue whole = n := by
  have hdigits : ∀ c ∈ Nat.toDigits 10 n, c.isDigit = true := fun _ => Text.isDigit_of_mem_toDigits
  have hvalue : digitsValue (asciiBytes (Nat.toDigits 10 n)) = n :=
    (digitsValue_asciiBytes hdigits).trans Nat.ofDigitChars_ten_toDigits
  rw [charBytes_digits hdigits]
  rcases Nat.eq_zero_or_pos n with rfl | hn
  · refine ⟨_, isWhole_zero ?_, rfl⟩
    rcases rest with _ | ⟨b, rest⟩
    · simp
    · simpa using (isDigit_eq_false_of_delimits hr).1
  · have hfirst := Text.head?_toDigits_ne_zero hn
    rcases hds : Nat.toDigits 10 n with _ | ⟨c, ds⟩
    · exact absurd hds Nat.toDigits_ne_nil
    · rw [hds] at hdigits hvalue hfirst
      have hc := hdigits c List.mem_cons_self
      have hzero := digitByte_ne_zero hc fun he => hfirst (congrArg some he)
      obtain ⟨htake, hdrop⟩ := Prod.mk.inj (takeDigits_digits (fun d hd => hdigits d (List.mem_cons_of_mem _ hd)) hr)
      have hwhole := isWhole_cons (isDigit_digitByte hc) hzero (asciiBytes ds ++ rest)
      rw [Except.ok.inj htake, hdrop] at hwhole
      exact ⟨_, hwhole, hvalue⟩

lemma isMagnitude_toDigits (n : Nat) {rest : Bytes} (hr : Delimits rest) :
    ∃ whole, digitsValue whole = n ∧
      ∀ negative, IsMagnitude (charBytes (Nat.toDigits 10 n) ++ rest) ⟨negative, whole, [], []⟩ rest := by
  obtain ⟨whole, hwhole, hvalue⟩ := isWhole_toDigits n hr
  have hend : rest.head? ≠ some 46 ∧ isExponentLetter rest.head? = false := by
    rcases rest with _ | ⟨b, rest⟩
    · exact ⟨by simp, rfl⟩
    · obtain ⟨-, hpoint, hletter⟩ := isDigit_eq_false_of_delimits hr
      exact ⟨fun h => hpoint (Option.some.inj h), hletter⟩
  exact ⟨whole, hvalue, fun _ => ⟨rest, rest, hwhole, .absent hend.1, .absent hend.2⟩⟩

lemma behindBlanks_cons {b : UInt8} (h : isSpace b = false) (rest : Bytes) : behindBlanks (b :: rest) = b :: rest :=
  List.dropWhile_cons_of_neg (by simp [h])

/-- **A written whole number** is a number of the grammar, and denotes it. -/
theorem stands_writeInt (n : Int) {rest : Bytes} (hr : Delimits rest) :
    ∃ t, Stands (.value t) (charBytes (writeInt n) ++ rest) rest ∧ t.IsInteger n := by
  cases n with
  | ofNat n =>
    obtain ⟨whole, hvalue, hmagnitude⟩ := isMagnitude_toDigits n hr
    obtain ⟨b, bytes, hb, hdigit⟩ := Reader.exists_charBytes_writeInt n
    have hfront : behindBlanks (charBytes (writeInt n) ++ rest) = charBytes (writeInt n) ++ rest := by
      rw [hb]
      exact behindBlanks_cons (isSpace_of_isDigit hdigit) _
    have hnumber : IsNumber (behindBlanks (charBytes (writeInt n) ++ rest)) ⟨false, whole, [], []⟩ rest := by
      rw [hfront]
      exact .positive rfl (hmagnitude false)
    exact ⟨_, .number hnumber, _, rfl, rfl, rfl, congrArg Int.ofNat hvalue.symm⟩
  | negSucc n =>
    obtain ⟨whole, hvalue, hmagnitude⟩ := isMagnitude_toDigits (n + 1) hr
    have hnumber : IsNumber (behindBlanks (charBytes (writeInt (.negSucc n)) ++ rest)) ⟨true, whole, [], []⟩ rest :=
      .negative (behindBlanks_cons (by decide) _) rfl (hmagnitude true)
    exact ⟨_, .number hnumber, _, rfl, rfl, rfl, congrArg (fun k : Nat => -(k : Int)) hvalue.symm⟩

/-! ## Objects -/

/-- The members of an object are those that are listed, in order: their keys, with whole numbers. -/
def Lists (ms : List (Bytes × Tree)) (entries : List (String × Int)) : Prop :=
  List.Forall₂ (fun m e => Spells m.1 e.1 ∧ m.2.IsInteger e.2) ms entries

def writtenEntry (e : String × Int) : String × List Char := (e.1, writeInt e.2)

lemma stands_member {isFirst : Bool} {text behind rest : Bytes} {ms : List (Bytes × Tree)}
    {entries : List (String × Int)} (e : String × Int)
    (hparted : IsParted isFirst text (charBytes (writeMember (writtenEntry e)) ++ behind)) (hd : Delimits behind)
    (h : Stands (.members false ms) behind rest) (hlists : Lists ms entries) :
    ∃ ms', Stands (.members isFirst ms') text rest ∧ Lists ms' (e :: entries) := by
  obtain ⟨t, ht, hinteger⟩ := stands_writeInt e.2 hd
  have hkey : IsKey (charBytes (writeMember (writtenEntry e)) ++ behind) (charBytes (e.1.toList.flatMap escapedChar))
      (charBytes (writeInt e.2) ++ behind) := by
    rw [writtenEntry, Reader.charBytes_writeMember]
    exact ⟨_, _, behindBlanks_cons (by decide) _, rfl, (spells_written e.1).isBody, behindBlanks_cons (by decide) _⟩
  exact ⟨_, .member hparted hkey ht h, .cons ⟨spells_written e.1, hinteger⟩ hlists⟩

/-- Written members behind a first one, up to the closing bracket. -/
lemma stands_followers (entries : List (String × Int)) (rest : Bytes) :
    ∃ ms, Stands (.members false ms) (charBytes (followers (entries.map writtenEntry)) ++ 125 :: rest) rest ∧
      Lists ms entries := by
  induction entries with
  | nil => exact ⟨[], .endMembers (behindBlanks_cons (by decide) _), .nil⟩
  | cons e entries ih =>
    obtain ⟨ms, hms, hlists⟩ := ih
    refine stands_member e ?_ (delimits_followers _ rest) hms hlists
    have hcomma : charBytes (followers ((e :: entries).map writtenEntry)) =
        44 :: charBytes (writeMember (writtenEntry e) ++ followers (entries.map writtenEntry)) := rfl
    rw [hcomma, charBytes_append, List.cons_append, List.append_assoc]
    exact behindBlanks_cons (by decide) _

/-- **A written object of whole numbers** is an object of the grammar with the members that were written. -/
theorem isText_writeObject (entries : List (String × Int)) :
    ∃ ms, IsText (utf8 (String.ofList (writeObject (entries.map writtenEntry)))) (.object ms) ∧ Lists ms entries := by
  have hopen : ∀ inside : List Char, charBytes (Char.ofNat 0x7B :: inside ++ [Char.ofNat 0x7D]) =
      123 :: (charBytes inside ++ [125]) := by
    intro inside
    rw [List.cons_append, charBytes_cons, charBytes_append]
    rfl
  suffices hmembers : ∃ ms, Stands (.members true ms)
      (charBytes (commaSeparated ((entries.map writtenEntry).map writeMember)) ++ [125]) [] ∧ Lists ms entries by
    obtain ⟨ms, hms, hlists⟩ := hmembers
    rw [utf8_ofList, writeObject, hopen]
    exact ⟨ms, ⟨[], .object (behindBlanks_cons (by decide) _) hms, rfl⟩, hlists⟩
  cases entries with
  | nil => exact ⟨[], .endMembers (behindBlanks_cons (by decide) _), .nil⟩
  | cons e entries =>
    obtain ⟨ms, hms, hlists⟩ := stands_followers entries []
    rw [List.map_cons, commaSeparated_cons, charBytes_append, List.append_assoc]
    exact stands_member e (by rw [IsParted, if_pos rfl]) (delimits_followers _ []) hms hlists

lemma Lists.exists_entry {ms : List (Bytes × Tree)} {entries : List (String × Int)} (h : Lists ms entries)
    {m : Bytes × Tree} (hm : m ∈ ms) : ∃ e ∈ entries, Spells m.1 e.1 := by
  induction h with
  | nil => cases hm
  | cons hn _ ih =>
    rcases List.mem_cons.1 hm with rfl | hm
    · exact ⟨_, List.mem_cons_self, hn.1⟩
    · obtain ⟨e, he, hspells⟩ := ih hm
      exact ⟨e, List.mem_cons_of_mem _ he, hspells⟩

/-- Members whose keys are listed once hold what is listed under each of them. -/
lemma Lists.exists_holds {ms : List (Bytes × Tree)} {entries : List (String × Int)} (h : Lists ms entries)
    (hkeys : (entries.map Prod.fst).Nodup) : ∀ e ∈ entries, ∃ t, Holds ms e.1 t ∧ t.IsInteger e.2 := by
  induction h with
  | nil => nofun
  | @cons m e ms entries hm hlists ih =>
    obtain ⟨hnew, hkeys⟩ := List.nodup_cons.1 hkeys
    intro d hd
    rcases List.mem_cons.1 hd with rfl | hd
    · refine ⟨m.2, ⟨[], m.1, ms, rfl, hm.1, fun n hn hspells => hnew ?_⟩, hm.2⟩
      -- a later member with this key would be listed under it again
      obtain ⟨c, hc, hn⟩ := Lists.exists_entry hlists hn
      rw [hspells.unique hn]
      exact List.mem_map_of_mem hc
    · obtain ⟨t, ht, hinteger⟩ := ih hkeys d hd
      refine ⟨t, ht.cons fun hspells => hnew ?_, hinteger⟩
      rw [hm.1.unique hspells]
      exact List.mem_map_of_mem hd

/-- A text is an object with these entries and no others, whatever their order. -/
def IsObjectOf (text : String) (entries : List (String × Int)) : Prop :=
  ∃ ms, IsText (utf8 text) (.object ms) ∧ ms.length = entries.length ∧
    ∀ e ∈ entries, ∃ t, Holds ms e.1 t ∧ t.IsInteger e.2

lemma IsObjectOf.perm {text : String} {entries others : List (String × Int)} (h : IsObjectOf text entries)
    (hperm : entries.Perm others) : IsObjectOf text others := by
  obtain ⟨ms, htext, hlength, hholds⟩ := h
  exact ⟨ms, htext, hlength.trans hperm.length_eq, fun e he => hholds e (hperm.mem_iff.2 he)⟩

theorem isObjectOf_writeObject {entries : List (String × Int)} (hkeys : (entries.map Prod.fst).Nodup) :
    IsObjectOf (String.ofList (writeObject (entries.map writtenEntry))) entries := by
  obtain ⟨ms, htext, hlists⟩ := isText_writeObject entries
  exact ⟨ms, htext, hlists.length_eq, hlists.exists_holds hkeys⟩

end Gatehouse.Json
