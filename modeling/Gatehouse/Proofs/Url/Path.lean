import Gatehouse.Url.Parser
import Mathlib.Data.List.Basic
import Mathlib.Tactic.Lemma
import Mathlib.Tactic.SplitIfs

/-!
# Paths of URLs

* `Slashless`, `slashless_pathFrom` — no segment of a path that is read has a slash in it;
* `getLast?_write` — so that the text of a path ends in a slash exactly if its last segment is empty;
* `closeEnd`, `addSegments_closed` — a slash at the end of a text closes the path that is read from it, unless it is
  closed already;
* `dropEmptyFront_eq_self`, `dropEmptyFront_closeEnd` — paths of files;
* `IsOrdinary`, `addSegments_ordinary` — segments that are added as they stand.
-/

namespace Gatehouse.Url

/-! ## Segments without slashes -/

/-- No segment of a path has a slash in it. -/
def Slashless (path : List (List Char)) : Prop := ∀ segment ∈ path, '/' ∉ segment

lemma hexDigit_ne_slash (n : Nat) : '/' ≠ Percent.hexDigit n := by
  have hdigits : ∀ k < 16, '/' ≠ (Nat.digitChar k).toUpper := by decide
  exact hdigits (n % 16) (Nat.mod_lt n (by decide))

lemma slash_not_mem_encode (mustEncode : Char → Bool) {cs : List Char} (h : '/' ∉ cs) :
    '/' ∉ Percent.encode mustEncode cs := by
  intro hmem
  obtain ⟨c, hc, hmem⟩ := List.mem_flatMap.1 hmem
  unfold Percent.encodeChar at hmem
  split at hmem
  · obtain ⟨b, -, hmem⟩ := List.mem_flatMap.1 hmem
    simp [Percent.encodeByte, hexDigit_ne_slash] at hmem
  · exact h (List.mem_singleton.1 hmem ▸ hc)

lemma Slashless.append {path path' : List (List Char)} (h : Slashless path) (h' : Slashless path') :
    Slashless (path ++ path') := by
  intro segment hmem
  rcases List.mem_append.1 hmem with hmem | hmem
  · exact h segment hmem
  · exact h' segment hmem

lemma slashless_singleton {segment : List Char} (h : '/' ∉ segment) : Slashless [segment] := by
  intro s hs
  rwa [List.mem_singleton.1 hs]

lemma Slashless.mono {path path' : List (List Char)} (h : Slashless path) (hsubset : path' ⊆ path) : Slashless path' :=
  fun segment hmem => h segment (hsubset hmem)

lemma stepBack_subset (path : List (List Char)) : stepBack path ⊆ path := by
  unfold stepBack
  split
  · exact fun _ h => h
  · exact List.dropLast_subset path

def addSegment (file : Bool) (path : List (List Char)) (segment : List Char) (isLast : Bool) : List (List Char) :=
  let atEnd : List (List Char) := if isLast then [[]] else []
  if isDoubleDot segment then stepBack path ++ atEnd
  else if isSingleDot segment then path ++ atEnd
  else if file && path.isEmpty && isDrive segment then [keepDrive segment]
  else path ++ [segment]

lemma addSegments_cons (file : Bool) (path : List (List Char)) (segment : List Char) (rest : List (List Char)) :
    addSegments file path (segment :: rest) =
      addSegments file (addSegment file path (Percent.encode Percent.inPath segment) rest.isEmpty) rest := by
  rw [addSegments, addSegment]
  split_ifs <;> rfl

lemma slashless_addSegment {file : Bool} {path : List (List Char)} {segment : List Char} (hpath : Slashless path)
    (hsegment : '/' ∉ segment) (isLast : Bool) : Slashless (addSegment file path segment isLast) := by
  have hend : Slashless (if isLast then [[]] else []) := by
    cases isLast with
    | true => exact slashless_singleton List.not_mem_nil
    | false => exact fun _ h => absurd h List.not_mem_nil
  unfold addSegment
  dsimp only
  split
  · exact (hpath.mono (stepBack_subset path)).append hend
  split
  · exact hpath.append hend
  split
  · apply slashless_singleton
    rw [keepDrive, List.mem_append]
    rintro (hmem | hmem)
    · exact hsegment (List.mem_of_mem_take hmem)
    · simp at hmem
  · exact hpath.append (slashless_singleton hsegment)

lemma slashless_addSegments (file : Bool) {path segments : List (List Char)} (hpath : Slashless path)
    (hsegments : Slashless segments) : Slashless (addSegments file path segments) := by
  induction segments generalizing path with
  | nil => exact hpath
  | cons segment segments ih =>
    obtain ⟨hsegment, hsegments⟩ := List.forall_mem_cons.1 hsegments
    rw [addSegments_cons]
    exact ih (slashless_addSegment hpath (slash_not_mem_encode _ hsegment) _) hsegments

/-- What stands between separators has none of them. -/
lemma eq_false_of_mem_splitOnP {p : Char → Bool} {text segment : List Char} (h : segment ∈ text.splitOnP p) {c : Char}
    (hc : c ∈ segment) : p c = false := by
  induction text generalizing segment with
  | nil =>
    rw [List.splitOnP_nil, List.mem_singleton] at h
    rw [h] at hc
    cases hc
  | cons x text ih =>
    rw [List.splitOnP_cons_eq_if_modifyHead] at h
    split at h
    · rcases List.mem_cons.1 h with rfl | h
      · cases hc
      · exact ih h hc
    next hx =>
      obtain ⟨first, others, hparts⟩ := List.exists_cons_of_ne_nil (List.splitOnP_ne_nil p text)
      rw [hparts] at h ih
      rcases List.mem_cons.1 h with rfl | h
      · rcases List.mem_cons.1 hc with rfl | hc
        · simpa using hx
        · exact ih List.mem_cons_self hc
      · exact ih (List.mem_cons_of_mem _ h) hc

lemma slashless_cutSegments (special : Bool) (text : List Char) : Slashless (cutSegments special text) := by
  intro segment hmem hslash
  have hsep := eq_false_of_mem_splitOnP hmem hslash
  simp [isSlash] at hsep

/-- **No segment of a path that is read has a slash in it.** -/
theorem slashless_pathFrom (scheme : List Char) {start : List (List Char)} (h : Slashless start) (text : List Char) :
    Slashless (pathFrom scheme start text) :=
  slashless_addSegments _ h (slashless_cutSegments _ _)

/-! ## The end of a path -/

def closeEnd (path : List (List Char)) : List (List Char) := if path.getLast? = some [] then path else path ++ [[]]

lemma closeEnd_of_open {path : List (List Char)} (h : path.getLast? ≠ some []) : closeEnd path = path ++ [[]] := if_neg h

lemma closeEnd_of_closed {path : List (List Char)} (h : path.getLast? = some []) : closeEnd path = path := if_pos h

lemma closeEnd_cons (first : List Char) {path : List (List Char)} (h : path ≠ []) :
    closeEnd (first :: path) = first :: closeEnd path := by
  unfold closeEnd
  rw [List.getLast?_cons_of_ne_nil h]
  split <;> rfl

lemma closeEnd_ne_nil (path : List (List Char)) : closeEnd path ≠ [] := by
  unfold closeEnd
  split
  · rintro rfl
    contradiction
  · simp

lemma getLast?_closeEnd (path : List (List Char)) : (closeEnd path).getLast? = some [] := by
  unfold closeEnd
  split
  · assumption
  · exact List.getLast?_concat

lemma exists_closeEnd (path : List (List Char)) : ∃ front, closeEnd path = front ++ [[]] := by
  unfold closeEnd
  split
  · next hlast => exact ⟨path.dropLast, (List.dropLast_append_getLast? _ hlast).symm⟩
  · exact ⟨path, rfl⟩

lemma write_append (path path' : List (List Char)) :
    (Path.segments (path ++ path')).write = (Path.segments path).write ++ (Path.segments path').write :=
  List.flatMap_append

/-- **The text of a path ends in a slash** exactly if its last segment is empty. -/
theorem getLast?_write {path : List (List Char)} (h : Slashless path) :
    (Path.segments path).write.getLast? = some '/' ↔ path.getLast? = some [] := by
  rcases path.eq_nil_or_concat with rfl | ⟨front, last, rfl⟩
  · simp [Path.write]
  · rw [List.concat_eq_append] at h ⊢
    have hlast : (Path.segments [last]).write = '/' :: last := by simp [Path.write]
    rw [write_append, hlast, List.getLast?_append_of_ne_nil _ (by simp), List.getLast?_concat]
    rcases last.eq_nil_or_concat with rfl | ⟨segment, c, rfl⟩
    · simp
    · rw [List.concat_eq_append] at h ⊢
      have hc : c ≠ '/' := by
        rintro rfl
        exact h _ (List.mem_append_right _ (List.mem_singleton_self _)) (by simp)
      rw [← List.cons_append, List.getLast?_concat]
      simp [hc]

lemma encode_ne_nil (mustEncode : Char → Bool) {cs : List Char} (h : cs ≠ []) : Percent.encode mustEncode cs ≠ [] := by
  obtain ⟨c, cs, rfl⟩ := List.exists_cons_of_ne_nil h
  have hchar : Percent.encodeChar mustEncode c ≠ [] := by
    unfold Percent.encodeChar
    split
    · have hbytes : String.utf8EncodeChar c ≠ [] := by
        intro hnil
        have := String.length_utf8EncodeChar c
        rw [hnil] at this
        exact absurd this.symm (Nat.ne_of_gt (Char.utf8Size_pos c))
      obtain ⟨b, bytes, hb⟩ := List.exists_cons_of_ne_nil hbytes
      rw [hb, List.flatMap_cons]
      simp [Percent.encodeByte]
    · simp
  rw [Percent.encode, List.flatMap_cons]
  simp [hchar]

lemma addSegments_empty (file : Bool) (path : List (List Char)) : addSegments file path [[]] = path ++ [[]] := by
  have hplain : isDoubleDot [] = false ∧ isSingleDot [] = false ∧ isDrive [] = false := by decide
  rw [addSegments_cons, Percent.encode, List.flatMap_nil, addSegment, addSegments]
  simp [hplain]

/-- Behind a segment that is not empty, an empty one closes the path unless dots at the end have closed it. -/
lemma closeEnd_addSegment {file : Bool} {path : List (List Char)} {segment : List Char} (h : segment ≠ []) :
    closeEnd (addSegment file path segment true) = addSegment file path segment false ++ [[]] := by
  have hopen : ∀ (front : List (List Char)) (s : List Char), s ≠ [] → closeEnd (front ++ [s]) = front ++ [s] ++ [[]] := by
    intro front s hs
    apply closeEnd_of_open
    rw [List.getLast?_concat]
    simpa using hs
  unfold addSegment
  dsimp only
  split
  · rw [if_neg Bool.false_ne_true, List.append_nil]
    exact closeEnd_of_closed List.getLast?_concat
  split
  · rw [if_neg Bool.false_ne_true, List.append_nil]
    exact closeEnd_of_closed List.getLast?_concat
  split
  · exact hopen [] (keepDrive segment) (by simp [keepDrive])
  · exact hopen path segment h

/-- **A slash at the end of a text closes the path** that is read from it. -/
theorem addSegments_closed (file : Bool) (path : List (List Char)) {segments : List (List Char)} (hne : segments ≠ [])
    (hlast : segments.getLast? ≠ some []) :
    addSegments file path (segments ++ [[]]) = closeEnd (addSegments file path segments) := by
  induction segments generalizing path with
  | nil => exact absurd rfl hne
  | cons segment segments ih =>
    rcases segments with _ | ⟨next, segments⟩
    · have hsegment : Percent.encode Percent.inPath segment ≠ [] := encode_ne_nil _ (by simpa using hlast)
      rw [List.cons_append, addSegments_cons, addSegments_cons]
      exact (addSegments_empty file _).trans (closeEnd_addSegment hsegment).symm
    · rw [List.cons_append, addSegments_cons, addSegments_cons]
      exact ih _ (by simp) (by simpa using hlast)

/-! ## Paths of files -/

/-- No empty segment stands in front of another one. -/
def IsTidyFront (path : List (List Char)) : Prop := ∀ segment rest, path ≠ [] :: segment :: rest

lemma isTidyFront_dropEmptyFront (path : List (List Char)) : IsTidyFront (dropEmptyFront path) := by
  induction path with
  | nil => exact fun _ _ => nofun
  | cons first path ih =>
    rcases path with _ | ⟨segment, rest⟩
    · intro _ _ h
      cases first <;> cases h
    · cases first with
      | nil => exact ih
      | cons c first => exact fun _ _ => nofun

lemma dropEmptyFront_subset (path : List (List Char)) : dropEmptyFront path ⊆ path := by
  induction path with
  | nil => exact fun _ h => h
  | cons first path ih =>
    unfold dropEmptyFront
    split
    · next heq =>
      cases heq
      exact fun _ h => List.mem_cons_of_mem _ (ih h)
    · exact fun _ h => h

lemma dropEmptyFront_eq_self {path : List (List Char)} (h : IsTidyFront path) : dropEmptyFront path = path := by
  unfold dropEmptyFront
  split
  · exact absurd rfl (h _ _)
  · rfl

lemma dropEmptyFront_nil_cons {path : List (List Char)} (h : path ≠ []) :
    dropEmptyFront ([] :: path) = dropEmptyFront path := by
  obtain ⟨segment, rest, rfl⟩ := List.exists_cons_of_ne_nil h
  rfl

lemma dropEmptyFront_closeEnd (path : List (List Char)) :
    dropEmptyFront (closeEnd path) = closeEnd (dropEmptyFront path) := by
  induction path with
  | nil => rfl
  | cons first path ih =>
    rcases path with _ | ⟨segment, rest⟩
    · cases first <;> rfl
    · have hne : segment :: rest ≠ [] := by simp
      rw [closeEnd_cons first hne]
      cases first with
      | nil =>
        rw [dropEmptyFront_nil_cons (closeEnd_ne_nil _), dropEmptyFront_nil_cons hne]
        exact ih
      | cons c first =>
        show (c :: first) :: closeEnd (segment :: rest) = closeEnd ((c :: first) :: segment :: rest)
        rw [closeEnd_cons _ hne]

lemma IsTidyFront.closeEnd {path : List (List Char)} (h : IsTidyFront path) : IsTidyFront (closeEnd path) := by
  have hdrop : dropEmptyFront (Url.closeEnd path) = Url.closeEnd path := by
    rw [dropEmptyFront_closeEnd, dropEmptyFront_eq_self h]
  rw [← hdrop]
  exact isTidyFront_dropEmptyFront _

/-! ## Segments that are added as they stand -/

/-- A segment that is neither encoded nor resolved. -/
structure IsOrdinary (segment : List Char) : Prop where
  encode : Percent.encode Percent.inPath segment = segment
  isDoubleDot : isDoubleDot segment = false
  isSingleDot : isSingleDot segment = false
  isDrive : isDrive segment = false

instance (segment : List Char) : Decidable (IsOrdinary segment) :=
  decidable_of_iff (Percent.encode Percent.inPath segment = segment ∧ Url.isDoubleDot segment = false ∧
      Url.isSingleDot segment = false ∧ Url.isDrive segment = false)
    ⟨fun ⟨hencode, hdouble, hsingle, hdrive⟩ => ⟨hencode, hdouble, hsingle, hdrive⟩,
      fun h => ⟨h.encode, h.isDoubleDot, h.isSingleDot, h.isDrive⟩⟩

/-- **Such segments are added as they stand.** -/
theorem addSegments_ordinary (file : Bool) (path : List (List Char)) {segments : List (List Char)}
    (h : ∀ segment ∈ segments, IsOrdinary segment) : addSegments file path segments = path ++ segments := by
  induction segments generalizing path with
  | nil => rw [List.append_nil]; rfl
  | cons segment segments ih =>
    obtain ⟨hsegment, hsegments⟩ := List.forall_mem_cons.1 h
    have hone : addSegment file path segment segments.isEmpty = path ++ [segment] := by
      rw [addSegment]
      simp [hsegment.isDoubleDot, hsegment.isSingleDot, hsegment.isDrive]
    rw [addSegments_cons, hsegment.encode, hone, ih _ hsegments, List.append_assoc]
    rfl

end Gatehouse.Url
