import Gatehouse.Proofs.Json.Record

/-!
# Reading what was written: lists

* `itemsFrom_written` — the items of a written list are read in the order in which they were written;
* `reads_listOf` — so that a list is read from what was written for it.
-/

namespace Gatehouse.Json

open Reader (Reads Delimits bind_ok)

variable {α : Type}

/-- What is written starts a value: with no white space and no closing bracket. -/
def StartsItem (written : List Char) : Prop :=
  ∃ b bytes, charBytes written = b :: bytes ∧ isSpace b = false ∧ b ≠ 93

/-- What is written for an item of a list is read back, and can be told from the end of the list. -/
def IsItem (item : Reader α) (write : α → List Char) (a : α) : Prop := StartsItem (write a) ∧ Reads item (write a) a

namespace Reader

lemma hasItem_end (isFirst : Bool) (rest : Bytes) : hasItem isFirst (93 :: rest) = (.ok false, 93 :: rest) := rfl

lemma endList_cons (rest : Bytes) : endList (93 :: rest) = (.ok (), rest) := rfl

lemma hasItem_first {b : UInt8} (hb : isSpace b = false) (hne : b ≠ 93) (rest : Bytes) :
    hasItem true (b :: rest) = (.ok true, b :: rest) := by
  rw [hasItem, bind_ok (peek_cons hb rest)]
  dsimp only
  rw [if_neg hne, if_pos rfl]
  rfl

lemma hasItem_next {b : UInt8} (hb : isSpace b = false) (hne : b ≠ 93) (rest : Bytes) :
    hasItem false (44 :: b :: rest) = (.ok true, b :: rest) := by
  rw [hasItem, bind_ok (peek_cons (by decide) _)]
  dsimp only
  rw [if_neg (by decide), if_neg Bool.false_ne_true, if_pos rfl, bind_ok (advance_cons _ _), bind_ok (peek_cons hb rest)]
  dsimp only
  rw [if_neg hne]
  rfl

section Items

variable {item : Reader α} {write : α → List Char}

lemma delimits_items (items : List (List Char)) (rest : Bytes) :
    Delimits (charBytes (items.flatMap (',' :: ·)) ++ 93 :: rest) := by
  cases items with
  | nil => simp [Delimits]
  | cons next items => exact delimits_comma (charBytes (next ++ items.flatMap (',' :: ·)) ++ 93 :: rest)

/-- One round: an item, behind the comma that parts it from those in front. -/
lemma itemsFrom_round {a : α} (h : Reads item (write a) a) {rest text : Bytes} (hr : Delimits rest) {isFirst : Bool}
    (hm : hasItem isFirst text = (.ok true, charBytes (write a) ++ rest)) {found : List α}
    (hfound : found.isEmpty = isFirst) (u : UInt8) (fuel : Bytes) :
    itemsFrom item (u :: fuel) found text = itemsFrom item fuel (a :: found) rest := by
  rw [itemsFrom, hfound, bind_ok hm, if_pos rfl, bind_ok (h rest hr)]

lemma itemsFrom_end (found : List α) (u : UInt8) (fuel rest : Bytes) :
    itemsFrom item (u :: fuel) found (93 :: rest) = (.ok found.reverse, 93 :: rest) := by
  rw [itemsFrom]
  exact bind_ok (hasItem_end found.isEmpty rest) _

/-- **The items behind a first one are read in order,** up to the closing bracket. -/
lemma itemsFrom_followers {as : List α} (h : ∀ a ∈ as, IsItem item write a) (first : α) (found : List α)
    {fuel : Bytes} (hf : as.length < fuel.length) (rest : Bytes) :
    itemsFrom item fuel (first :: found) (charBytes ((as.map write).flatMap (',' :: ·)) ++ 93 :: rest) =
      (.ok ((first :: found).reverse ++ as), 93 :: rest) := by
  induction as generalizing first found fuel with
  | nil =>
    rcases fuel with _ | ⟨u, fuel⟩
    · simp at hf
    · rw [List.append_nil]
      exact itemsFrom_end _ u fuel rest
  | cons a as ih =>
    obtain ⟨⟨⟨b, bytes, hbytes, hblank, hne⟩, ha⟩, has⟩ := List.forall_mem_cons.1 h
    rcases fuel with _ | ⟨u, fuel⟩
    · simp at hf
    · have hm : hasItem false (charBytes (((a :: as).map write).flatMap (',' :: ·)) ++ 93 :: rest) =
          (.ok true, charBytes (write a) ++ (charBytes ((as.map write).flatMap (',' :: ·)) ++ 93 :: rest)) := by
        show hasItem false (44 :: (charBytes (write a ++ (as.map write).flatMap (',' :: ·)) ++ 93 :: rest)) = _
        rw [charBytes_append, List.append_assoc, hbytes]
        exact hasItem_next hblank hne _
      rw [itemsFrom_round ha (delimits_items (as.map write) rest) hm rfl u fuel, ih has a (first :: found) (by simpa using hf)]
      simp

lemma length_le_items (items : List (List Char)) : items.length ≤ (charBytes (items.flatMap (',' :: ·))).length := by
  induction items with
  | nil => exact Nat.zero_le _
  | cons item items ih =>
    show items.length + 1 ≤ (44 :: charBytes (item ++ items.flatMap (',' :: ·))).length
    rw [charBytes_append, List.length_cons, List.length_append]
    omega

/-- **The items of a written list are read in order.** -/
theorem itemsFrom_written {as : List α} (h : ∀ a ∈ as, IsItem item write a) {fuel : Bytes}
    (hf : as.length < fuel.length) (rest : Bytes) :
    itemsFrom item fuel [] (charBytes (commaSeparated (as.map write)) ++ 93 :: rest) = (.ok as, 93 :: rest) := by
  rcases fuel with _ | ⟨u, fuel⟩
  · simp at hf
  · cases as with
    | nil => exact itemsFrom_end [] u fuel rest
    | cons a as =>
      obtain ⟨⟨⟨b, bytes, hbytes, hblank, hne⟩, ha⟩, has⟩ := List.forall_mem_cons.1 h
      have hm : hasItem true (charBytes (write a) ++ (charBytes ((as.map write).flatMap (',' :: ·)) ++ 93 :: rest)) =
          (.ok true, charBytes (write a) ++ (charBytes ((as.map write).flatMap (',' :: ·)) ++ 93 :: rest)) := by
        rw [hbytes]
        exact hasItem_first hblank hne _
      rw [List.map_cons, commaSeparated_eq, charBytes_append, List.append_assoc,
        itemsFrom_round ha (delimits_items (as.map write) rest) hm rfl u fuel,
        itemsFrom_followers has a [] (by simpa using hf)]
      rfl

/-- **A list is read from what was written for it.** -/
theorem reads_listOf {as : List α} (h : ∀ a ∈ as, IsItem item write a) :
    Reads (listOf item) (writeList (as.map write)) as := by
  intro rest _
  have hbytes : charBytes (writeList (as.map write)) ++ rest =
      91 :: (charBytes (commaSeparated (as.map write)) ++ 93 :: rest) := by
    show 91 :: (charBytes (commaSeparated (as.map write) ++ [']'])) ++ rest = _
    rw [charBytes_append, List.cons_append, List.append_assoc]
    rfl
  have hfuel : as.length < (charBytes (commaSeparated (as.map write)) ++ 93 :: rest).length := by
    cases as with
    | nil => simp
    | cons a as =>
      obtain ⟨⟨⟨b, bytes, hfirst, -⟩, -⟩, -⟩ := List.forall_mem_cons.1 h
      have hrest := length_le_items (as.map write)
      rw [List.length_map] at hrest
      simp only [List.map_cons, commaSeparated_eq, charBytes_append, hfirst, List.length_append, List.length_cons]
      omega
  rw [hbytes, listOf, bind_ok (peek_cons (by decide) _), if_pos rfl, bind_ok (advance_cons _ _)]
  refine closedBy_ok ?_ (endList_cons rest)
  rw [get_bind]
  exact itemsFrom_written h hfuel rest

end Items

end Reader

end Gatehouse.Json
