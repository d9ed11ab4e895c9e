import Gatehouse.Bytes
import Mathlib.Tactic.Lemma

/-!
# The bytes of a text

* `charBytes`, `utf8_ofList` — the encoding of a text is that of its characters, one after another;
* `utf8EncodeChar_of_lt`, `le_of_mem_utf8EncodeChar` — the bytes of a character in ASCII and of one outside;
* `ofUtf8?_utf8` — the encoding of a text is read back as the text.
-/

namespace Gatehouse

/-- The loop that lists a byte array, with the bytes in front of its place already collected. -/
lemma toList_loop (front behind : Bytes) :
    ByteArray.toList.loop ⟨(front ++ behind).toArray⟩ front.length front.reverse = front ++ behind := by
  induction behind generalizing front with
  | nil => simp [ByteArray.toList.loop, ByteArray.size]
  | cons b behind ih =>
    have hb : ByteArray.get! ⟨(front ++ b :: behind).toArray⟩ front.length = b := by
      simp [ByteArray.get!]
    have hcons : front ++ b :: behind = (front ++ [b]) ++ behind := by simp
    have hnext := ih (front ++ [b])
    rw [← hcons, List.length_append, List.reverse_append] at hnext
    rw [ByteArray.toList.loop, if_pos (by simp [ByteArray.size]), hb]
    exact hnext

@[simp] lemma toList_toByteArray (bytes : Bytes) : bytes.toByteArray.toList = bytes := by
  have hb : bytes.toByteArray = ⟨bytes.toArray⟩ := by
    apply ByteArray.ext
    apply Array.toList_inj.1
    rw [List.toList_data_toByteArray]
  rw [hb]
  exact toList_loop [] bytes

def charBytes (cs : List Char) : Bytes := cs.flatMap String.utf8EncodeChar

@[simp] lemma charBytes_nil : charBytes [] = [] := rfl

@[simp] lemma charBytes_cons (c : Char) (cs : List Char) :
    charBytes (c :: cs) = String.utf8EncodeChar c ++ charBytes cs := List.flatMap_cons

@[simp] lemma charBytes_append (cs ds : List Char) : charBytes (cs ++ ds) = charBytes cs ++ charBytes ds :=
  List.flatMap_append

theorem utf8_ofList (cs : List Char) : utf8 (String.ofList cs) = charBytes cs := by
  show (String.ofList cs).toByteArray.toList = _
  rw [String.toByteArray_ofList, List.utf8Encode, toList_toByteArray]
  rfl

lemma utf8_eq_charBytes (s : String) : utf8 s = charBytes s.toList := by
  rw [← utf8_ofList, String.ofList_toList]

lemma length_utf8 (s : String) : (utf8 s).length = s.utf8ByteSize := by
  have hbytes : s.toByteArray = (charBytes s.toList).toByteArray := by
    rw [← String.ofList_toList (s := s), String.toByteArray_ofList, String.toList_ofList]
    rfl
  have hsize : s.utf8ByteSize = s.toByteArray.size := rfl
  rw [utf8_eq_charBytes, hsize, hbytes, List.size_toByteArray]

lemma utf8EncodeChar_of_lt {c : Char} (h : c.toNat < 128) : String.utf8EncodeChar c = [UInt8.ofNat c.toNat] := by
  have hc : c.val.toNat ≤ 0x7f := Nat.le_of_lt_succ h
  unfold String.utf8EncodeChar
  rw [if_pos hc]
  rfl

lemma charBytes_ascii {cs : List Char} (h : ∀ c ∈ cs, c.toNat < 128) : charBytes cs = asciiBytes cs := by
  induction cs with
  | nil => rfl
  | cons c cs ih =>
    rw [charBytes_cons, utf8EncodeChar_of_lt (h c List.mem_cons_self),
      ih fun c hc => h c (List.mem_cons_of_mem _ hc)]
    rfl

lemma le_of_mem_utf8EncodeChar {c : Char} (h : 128 ≤ c.toNat) : ∀ b ∈ String.utf8EncodeChar c, 128 ≤ b.toNat := by
  have hc : ¬ c.val.toNat ≤ 0x7f := Nat.not_le_of_lt h
  unfold String.utf8EncodeChar
  simp only [hc, if_false]
  intro b hb
  split at hb
  · simp only [List.mem_cons, List.not_mem_nil, or_false] at hb
    rcases hb with rfl | rfl <;> rw [UInt8.toNat_ofNat'] <;> omega
  · split at hb
    · simp only [List.mem_cons, List.not_mem_nil, or_false] at hb
      rcases hb with rfl | rfl | rfl <;> rw [UInt8.toNat_ofNat'] <;> omega
    · simp only [List.mem_cons, List.not_mem_nil, or_false] at hb
      rcases hb with rfl | rfl | rfl | rfl <;> rw [UInt8.toNat_ofNat'] <;> omega

theorem ofUtf8?_utf8 (s : String) : ofUtf8? (utf8 s) = some s := by
  have hb : (utf8 s).toByteArray = s.toByteArray := by
    rw [utf8_eq_charBytes, ← String.utf8Encode_toList]
    rfl
  unfold ofUtf8? String.fromUTF8?
  rw [hb, dif_pos s.isValidUTF8]
  rfl

end Gatehouse
