import Gatehouse.Json.Record
import Gatehouse.Proofs.Json.Reader

/-!
# Reading what was written: objects and records

* `Collects` — the members of an object, one after another, take a state to another;
* `membersFrom_written` — the members of a written object are read in the order in which they were written;
* `reads_record` — so that a record is read from the object that was written for it.
-/

namespace Gatehouse.Json

open Reader (Reads Delimits bind_ok)

/-! ## Members -/

/-- Written members, each handed to `member` with its key, take the state `s` to `t`. -/
inductive Collects {σ : Type} (member : String → σ → Reader σ) :
    (s : σ) → List (String × List Char) → (t : σ) → Prop
  | nil (s : σ) : Collects member s [] s
  | cons {s t u : σ} {name : String} {value : List Char} {ms : List (String × List Char)}
      (h : Reads (member name s) (':' :: value) t) (ht : Collects member t ms u) :
      Collects member s ((name, value) :: ms) u

def followers (ms : List (String × List Char)) : List Char := ms.flatMap fun m => ',' :: writeMember m

lemma commaSeparated_eq (item : List Char) (items : List (List Char)) :
    commaSeparated (item :: items) = item ++ items.flatMap (',' :: ·) := by
  induction items generalizing item with
  | nil => simp [commaSeparated]
  | cons next items ih =>
    rw [commaSeparated, ih next, List.flatMap_cons]
    · rfl
    · simp

lemma commaSeparated_cons (m : String × List Char) (ms : List (String × List Char)) :
    commaSeparated ((m :: ms).map writeMember) = writeMember m ++ followers ms := by
  rw [List.map_cons, commaSeparated_eq, List.flatMap_map]
  rfl

lemma length_le_followers (ms : List (String × List Char)) : ms.length ≤ (charBytes (followers ms)).length := by
  induction ms with
  | nil => exact Nat.zero_le _
  | cons m ms ih =>
    show ms.length + 1 ≤ (charBytes (',' :: writeMember m ++ followers ms)).length
    rw [charBytes_append, List.length_append]
    show ms.length + 1 ≤ (44 :: charBytes (writeMember m)).length + _
    rw [List.length_cons]
    omega

lemma delimits_followers (ms : List (String × List Char)) (rest : Bytes) :
    Delimits (charBytes (followers ms) ++ 125 :: rest) := by
  cases ms with
  | nil => exact Reader.delimits_brace rest
  | cons m ms => exact Reader.delimits_comma (charBytes (writeMember m ++ followers ms) ++ 125 :: rest)

namespace Reader

lemma hasMember_first (rest : Bytes) : hasMember true (34 :: rest) = (.ok true, 34 :: rest) := rfl

lemma hasMember_next (rest : Bytes) : hasMember false (44 :: 34 :: rest) = (.ok true, 34 :: rest) := rfl

lemma hasMember_end (isFirst : Bool) (rest : Bytes) : hasMember isFirst (125 :: rest) = (.ok false, 125 :: rest) := rfl

lemma colon_cons (rest : Bytes) : colon (58 :: rest) = (.ok (), rest) := rfl

lemma endObject_cons (rest : Bytes) : endObject (125 :: rest) = (.ok (), rest) := rfl

lemma closedBy_ok {α : Type} {inside : Reader α} {close : Reader Unit} {text mid rest : Bytes} {a : α}
    (hi : inside text = (.ok a, mid)) (hc : close mid = (.ok (), rest)) :
    closedBy inside close text = (.ok a, rest) := by
  unfold closedBy
  simp only [hi, hc]

lemma charBytes_writeMember (name : String) (value : List Char) (rest : Bytes) :
    charBytes (writeMember (name, value)) ++ rest =
      34 :: (charBytes (name.toList.flatMap escapedChar) ++ 34 :: (charBytes (':' :: value) ++ rest)) := by
  rw [writeMember, charBytes_append, List.append_assoc, charBytes_writeString]

section Members

variable {σ : Type} {member : String → σ → Reader σ} {s t : σ}

/-- One round: a key, and behind it what the member takes. -/
lemma membersFrom_round {name : String} {value : List Char} (h : Reads (member name s) (':' :: value) t)
    {rest text : Bytes} (hr : Delimits rest) {isFirst : Bool}
    (hm : hasMember isFirst text = (.ok true, charBytes (writeMember (name, value)) ++ rest)) (u : UInt8)
    (fuel : Bytes) :
    membersFrom member (u :: fuel) isFirst s text = membersFrom member fuel false t rest := by
  have hkey : key (charBytes (writeMember (name, value)) ++ rest) = (.ok name, charBytes (':' :: value) ++ rest) := by
    rw [charBytes_writeMember, key, bind_ok (advance_cons _ _)]
    exact stringTail_escaped name _
  rw [membersFrom, bind_ok hm, if_pos rfl, bind_ok hkey, bind_ok (h rest hr)]

lemma membersFrom_followers {ms : List (String × List Char)} (h : Collects member s ms t) (fuel rest : Bytes)
    (hf : ms.length < fuel.length) :
    membersFrom member fuel false s (charBytes (followers ms) ++ 125 :: rest) = (.ok t, 125 :: rest) := by
  induction h generalizing fuel with
  | nil s =>
    rcases fuel with _ | ⟨u, fuel⟩
    · simp at hf
    · rw [membersFrom]
      exact bind_ok (hasMember_end false rest) _
  | @cons s t u name value ms h ht ih =>
    rcases fuel with _ | ⟨b, fuel⟩
    · simp at hf
    · have hm : hasMember false (charBytes (followers ((name, value) :: ms)) ++ 125 :: rest) =
          (.ok true, charBytes (writeMember (name, value)) ++ (charBytes (followers ms) ++ 125 :: rest)) := by
        show hasMember false (44 :: (charBytes (writeMember (name, value) ++ followers ms) ++ 125 :: rest)) = _
        rw [charBytes_append, List.append_assoc, charBytes_writeMember]
        exact hasMember_next _
      rw [membersFrom_round h (delimits_followers ms rest) hm, ih fuel (by simpa using hf)]

/-- **The members of a written object are read in order,** up to its closing bracket. -/
theorem membersFrom_written {ms : List (String × List Char)} (h : Collects member s ms t) (fuel rest : Bytes)
    (hf : ms.length < fuel.length) :
    membersFrom member fuel true s (charBytes (commaSeparated (ms.map writeMember)) ++ 125 :: rest) =
      (.ok t, 125 :: rest) := by
  rcases fuel with _ | ⟨b, fuel⟩
  · simp at hf
  · cases h with
    | nil =>
      rw [membersFrom]
      exact bind_ok (hasMember_end true rest) _
    | @cons _ t _ name value ms h ht =>
      have hm : hasMember true (charBytes (writeMember (name, value)) ++ (charBytes (followers ms) ++ 125 :: rest)) =
          (.ok true, charBytes (writeMember (name, value)) ++ (charBytes (followers ms) ++ 125 :: rest)) := by
        rw [charBytes_writeMember]
        exact hasMember_first _
      rw [commaSeparated_cons, charBytes_append, List.append_assoc,
        membersFrom_round h (delimits_followers ms rest) hm]
      exact membersFrom_followers ht fuel rest (by simpa using hf)

end Members

end Reader

/-! ## Records -/

section Record

variable {δ α : Type} {members : List (Member δ)} {draft draft' start : δ} {name : String} {value : List Char}

lemma reads_member {m : Member δ} (hm : members.find? (·.key == name) = some m) (hs : m.isSet draft = false)
    (h : Reads (m.read draft) value draft') : Reads (Record.member members name draft) (':' :: value) draft' := by
  intro rest hr
  have hread : (Reader.colon >>= fun _ => m.read draft) (charBytes (':' :: value) ++ rest) = (.ok draft', rest) :=
    (bind_ok (Reader.colon_cons (charBytes value ++ rest)) _).trans (h rest hr)
  rw [Record.member, hm]
  simp only [hs]
  exact hread

lemma reads_other (hm : members.find? (·.key == name) = none) (h : Reads skip value ()) :
    Reads (Record.member members name draft) (':' :: value) draft := by
  intro rest hr
  have hskip : (skip >>= fun _ => pure draft) (charBytes value ++ rest) = (.ok draft, rest) := bind_ok (h rest hr) _
  rw [Record.member, hm]
  exact (bind_ok (Reader.colon_cons (charBytes value ++ rest)) _).trans hskip

lemma reads_field {key : String} {presence : Presence} {get : δ → Option α} {put : α → δ → δ} {read : Reader α}
    {a : α} (h : Reads read value a) (draft : δ) :
    Reads ((Member.field key presence get put read).read draft) value (put a draft) := by
  intro rest hr
  exact (bind_ok (h rest hr) _).trans rfl

/-- **A record is read from the object that was written for it.** -/
theorem reads_record {ms : List (String × List Char)} (h : Collects (Record.member members) start ms draft)
    (hall : members.all (fun m => m.presence != .required || m.isSet draft) = true) :
    Reads (Record.read members start) (writeObject ms) draft := by
  intro rest _
  have hbytes : charBytes (writeObject ms) ++ rest =
      123 :: (charBytes (commaSeparated (ms.map writeMember)) ++ 125 :: rest) := by
    show 123 :: (charBytes (commaSeparated (ms.map writeMember) ++ [Char.ofNat 0x7D])) ++ rest = _
    rw [charBytes_append, List.cons_append, List.append_assoc]
    rfl
  have hfuel : ms.length < (charBytes (commaSeparated (ms.map writeMember)) ++ 125 :: rest).length := by
    cases ms with
    | nil => simp
    | cons m ms =>
      have hrest := length_le_followers ms
      have hfirst : 0 < (charBytes (writeMember m)).length := Nat.zero_lt_succ _
      simp only [commaSeparated_cons, charBytes_append, List.length_append, List.length_cons]
      omega
  rw [hbytes, Record.read, bind_ok (Reader.peek_cons (by decide) _), if_pos rfl, bind_ok (Reader.advance_cons _ _)]
  refine Reader.closedBy_ok ?_ (Reader.endObject_cons rest)
  rw [Reader.get_bind, bind_ok (Reader.membersFrom_written h _ rest hfuel), if_pos hall]
  rfl

end Record

end Gatehouse.Json
