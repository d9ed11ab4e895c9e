import Gatehouse.Proofs.Url.Read
import Mathlib.Data.List.TakeWhile

/-!
# A slash at the end of a path

* `IsOpen`, `IsTail` — a text that goes up to the end of a path without a slash there, and what follows a path;
* `Url.close` — the URL with an empty segment at the end of its path;
* `withPath_slash`, `eq_close_of_authority`, `eq_close_of_file`, `eq_close_of_withScheme` — a slash that is written at
  the end of the path closes what is read;
* `exists_of_cutScheme_append` — the scheme in front of all this.
-/

namespace Gatehouse.Url

variable {u v : Url} {scheme text tail : List Char} {special : Bool}

/-! ## Texts up to the end of the path -/

/-- A text that stands in front of query and fragment and does not end in a slash. -/
structure IsOpen (special : Bool) (text : List Char) : Prop where
  isPath : ∀ c ∈ text, endsPath c = false
  last : ∀ c, text.getLast? = some c → isSlash special c = false

/-- A text that can follow a path: a query or a fragment, or nothing. -/
def IsTail (text : List Char) : Prop := text.head?.all endsPath = true

lemma IsOpen.of_suffix (h : IsOpen special text) {suffix : List Char} (hsuffix : suffix <:+ text) :
    IsOpen special suffix := by
  obtain ⟨front, rfl⟩ := hsuffix
  constructor
  · intro c hc
    exact h.isPath c (List.mem_append_right _ hc)
  · intro c hc
    have hne : suffix ≠ [] := by
      rintro rfl
      cases hc
    apply h.last
    rwa [List.getLast?_append_of_ne_nil _ hne]

lemma IsOpen.ne_nil_of_slash {c : Char} (h : IsOpen special (c :: text)) (hc : isSlash special c = true) :
    text ≠ [] := by
  rintro rfl
  rw [h.last c rfl] at hc
  cases hc

lemma IsOpen.dropWhile_ne_nil (h : IsOpen special text) (hne : text ≠ []) : text.dropWhile (isSlash special) ≠ [] := by
  intro hnil
  have hslash := List.dropWhile_eq_nil_iff.1 hnil _ (List.getLast_mem hne)
  rw [h.last _ (List.getLast?_eq_some_getLast hne)] at hslash
  cases hslash

lemma dropSlash_cons (special : Bool) (c : Char) (rest : List Char) :
    dropSlash special (c :: rest) = if isSlash special c then rest else c :: rest := rfl

lemma IsOpen.dropSlash (h : IsOpen special text) : IsOpen special (dropSlash special text) := by
  cases text with
  | nil => exact h
  | cons c rest =>
    rw [dropSlash_cons]
    split
    · exact h.of_suffix (List.suffix_cons c rest)
    · exact h

lemma IsOpen.dropSlash_ne_nil (h : IsOpen special text) (hne : text ≠ []) : Url.dropSlash special text ≠ [] := by
  obtain ⟨c, rest, rfl⟩ := List.exists_cons_of_ne_nil hne
  rw [dropSlash_cons]
  split
  · next hc => exact h.ne_nil_of_slash hc
  · exact hne

lemma dropSlash_append (hne : text ≠ []) (behind : List Char) :
    dropSlash special (text ++ behind) = dropSlash special text ++ behind := by
  obtain ⟨c, rest, rfl⟩ := List.exists_cons_of_ne_nil hne
  rw [List.cons_append, dropSlash_cons, dropSlash_cons]
  split <;> rfl

lemma dropSlash_slash (special : Bool) (text : List Char) : dropSlash special ('/' :: text) = text := rfl

lemma isSlash_of_endsPath {c : Char} (h : endsPath c = true) (special : Bool) : isSlash special c = false := by
  unfold endsPath at h
  rcases Bool.or_eq_true_iff.1 h with h | h <;> (rw [eq_of_beq h]; cases special <;> rfl)

lemma IsTail.dropSlash (h : IsTail tail) (special : Bool) : Url.dropSlash special tail = tail := by
  cases tail with
  | nil => rfl
  | cons c rest =>
    have hc : isSlash special c = false := isSlash_of_endsPath h special
    rw [dropSlash_cons, hc, if_neg Bool.false_ne_true]

lemma IsTail.endsAuthority (h : IsTail tail) (special : Bool) : tail.head?.all (Url.endsAuthority special) = true := by
  cases tail with
  | nil => rfl
  | cons c tail =>
    have hc : endsPath c = true := h
    simp [Url.endsAuthority, hc]

lemma takeWhile_dropWhile_append {stops : Char → Bool} (text : List Char) (h : tail.head?.all stops = true) :
    (text ++ tail).takeWhile (fun c => !stops c) = text.takeWhile (fun c => !stops c) ∧
      (text ++ tail).dropWhile (fun c => !stops c) = text.dropWhile (fun c => !stops c) ++ tail := by
  induction text with
  | nil =>
    cases tail with
    | nil => exact ⟨rfl, rfl⟩
    | cons c tail =>
      have hc : stops c = true := h
      simp [hc]
  | cons c text ih =>
    cases hc : stops c with
    | true => simp [hc]
    | false => simpa [hc] using ih

lemma takeWhile_dropWhile_path (h : ∀ c ∈ text, endsPath c = false) (htail : IsTail tail) :
    (text ++ tail).takeWhile (fun c => !endsPath c) = text ∧ (text ++ tail).dropWhile (fun c => !endsPath c) = tail := by
  obtain ⟨htake, hdrop⟩ := takeWhile_dropWhile_append text htail
  have hall : ∀ c ∈ text, (!endsPath c) = true := fun c hc => by simp [h c hc]
  rw [htake, hdrop, List.takeWhile_eq_self_iff.2 hall, List.dropWhile_eq_nil_iff.2 hall]
  exact ⟨rfl, rfl⟩

/-! ## URLs with a slash at the end -/

/-- The URL with an empty segment at the end of its path. -/
def close (u : Url) : Url :=
  match u.path with
  | .segments list => { u with path := .segments (closeEnd list) }
  | .plain _ => u

lemma close_withTail (u : Url) (list : List (List Char)) (text : List Char) :
    (({ u with path := .segments list } : Url).withTail text).close =
      ({ u with path := .segments (closeEnd list) } : Url).withTail text := by
  rw [withTail_withPath u (.segments list), withTail_withPath u (.segments (closeEnd list))]
  rfl

/-- The last of the parts that a text is cut into is empty only behind a separator. -/
lemma getLast?_splitOnP_ne {p : Char → Bool} (hne : text ≠ []) (h : ∀ c, text.getLast? = some c → p c = false) :
    (text.splitOnP p).getLast? ≠ some [] := by
  induction text with
  | nil => exact absurd rfl hne
  | cons c text ih =>
    rw [List.splitOnP_cons_eq_if_modifyHead]
    by_cases htext : text = []
    · subst htext
      simp [h c rfl]
    · rw [List.getLast?_cons_of_ne_nil htext] at h
      have hlast := ih htext h
      obtain ⟨first, others, hparts⟩ := List.exists_cons_of_ne_nil (List.splitOnP_ne_nil p text)
      rw [hparts] at hlast ⊢
      split
      · rwa [List.getLast?_cons_of_ne_nil (List.cons_ne_nil first others)]
      · rw [List.modifyHead_cons]
        rcases others with _ | ⟨second, others⟩
        · simp
        · rwa [List.getLast?_cons_of_ne_nil (List.cons_ne_nil second others)] at hlast ⊢

lemma cutSegments_slash (special : Bool) (text : List Char) :
    cutSegments special (text ++ ['/']) = cutSegments special text ++ [[]] := by
  unfold cutSegments
  rw [List.splitOnP_append_cons text [] (by simp [isSlash]), List.splitOnP_nil]

lemma cutSegments_ne_nil (special : Bool) (text : List Char) : cutSegments special text ≠ [] :=
  List.splitOnP_ne_nil _ _

lemma getLast?_cutSegments_ne (hne : text ≠ []) (h : IsOpen special text) :
    (cutSegments special text).getLast? ≠ some [] :=
  getLast?_splitOnP_ne hne h.last

lemma takeWhile_dropWhile_slash (h : ∀ c ∈ text, endsPath c = false) (htail : IsTail tail) :
    (text ++ '/' :: tail).takeWhile (fun c => !endsPath c) = text ++ ['/'] ∧
      (text ++ '/' :: tail).dropWhile (fun c => !endsPath c) = tail := by
  have hpath : ∀ c ∈ text ++ ['/'], endsPath c = false := by
    intro c hc
    rcases List.mem_append.1 hc with hc | hc
    · exact h c hc
    · rw [List.mem_singleton.1 hc]
      rfl
  have hboth := takeWhile_dropWhile_path hpath htail
  rwa [List.append_assoc, List.singleton_append] at hboth

/-- **A slash at the end of the text closes the path.** -/
theorem pathFrom_slash (start : List (List Char)) (hopen : IsOpen (isSpecial scheme) text) (hne : text ≠ [])
    (htail : IsTail tail) :
    pathFrom scheme start (text ++ '/' :: tail) = closeEnd (pathFrom scheme start (text ++ tail)) := by
  unfold pathFrom
  rw [(takeWhile_dropWhile_path hopen.isPath htail).1, (takeWhile_dropWhile_slash hopen.isPath htail).1,
    cutSegments_slash]
  exact addSegments_closed _ _ (cutSegments_ne_nil _ _) (getLast?_cutSegments_ne hne hopen)

theorem withPath_slash (hopen : IsOpen (isSpecial u.scheme) text) (hne : text ≠ []) (htail : IsTail tail) :
    u.withPath [] (text ++ '/' :: tail) = (u.withPath [] (text ++ tail)).close := by
  unfold withPath
  rw [pathFrom_slash [] hopen hne htail, (takeWhile_dropWhile_path hopen.isPath htail).2,
    (takeWhile_dropWhile_slash hopen.isPath htail).2]
  dsimp only
  rw [close_withTail]
  split
  · rw [dropEmptyFront_closeEnd]
  · rfl

/-! ## Paths behind a host -/

lemma withPath_tail (u : Url) (h : IsTail tail) :
    u.withPath [] tail = ({ u with path := .segments [[]] } : Url).withTail tail := by
  obtain ⟨htake, hdrop⟩ := takeWhile_dropWhile_path (fun _ hc => absurd hc List.not_mem_nil) h
  rw [List.nil_append] at htake hdrop
  unfold withPath pathFrom
  rw [htake, hdrop, cutSegments, List.splitOnP_nil, addSegments_empty]
  dsimp only
  split <;> rfl

/-- Without any text in front of the tail, the path is closed already. -/
lemma close_withPath_tail (u : Url) (h : IsTail tail) : (u.withPath [] tail).close = u.withPath [] tail := by
  rw [withPath_tail u h, close_withTail]
  rfl

lemma withPathStart_cons (u : Url) {c : Char} (h : endsPath c = false) (rest : List Char) :
    u.withPathStart (c :: rest) = u.withPath [] (dropSlash (isSpecial u.scheme) (c :: rest)) :=
  if_neg (by simp [h])

lemma withPathStart_slash (hpath : u.path = .segments []) (hopen : IsOpen (isSpecial u.scheme) text)
    (htail : IsTail tail) : u.withPathStart (text ++ '/' :: tail) = (u.withPathStart (text ++ tail)).close := by
  by_cases hne : text = []
  · subst hne
    rw [List.nil_append, List.nil_append, withPathStart_cons u rfl, dropSlash_slash]
    unfold withPathStart
    dsimp only
    split
    · have hself : ({ u with path := .segments [] } : Url) = u := by rw [← hpath]
      have hclose := close_withTail u [] tail
      rw [hself] at hclose
      exact (withPath_tail u htail).trans hclose.symm
    · rw [htail.dropSlash, close_withPath_tail u htail]
  · obtain ⟨c, rest, rfl⟩ := List.exists_cons_of_ne_nil hne
    have hc : endsPath c = false := hopen.isPath c List.mem_cons_self
    rw [List.cons_append, List.cons_append, withPathStart_cons u hc, withPathStart_cons u hc, ← List.cons_append,
      ← List.cons_append, dropSlash_append hne, dropSlash_append hne]
    exact withPath_slash hopen.dropSlash (hopen.dropSlash_ne_nil hne) htail

/-- What stands behind the port goes in front of the path, which is open at its end all the same. -/
lemma isOpen_behind {behind : List Char} (hbehind : behind ⊆ frontOf scheme text)
    (hopen : IsOpen (isSpecial scheme) text) : IsOpen (isSpecial scheme) (behind ++ restOf scheme text) := by
  have hfront : ∀ c ∈ behind, endsAuthority (isSpecial scheme) c = false := by
    intro c hc
    simpa using List.mem_takeWhile_imp (hbehind hc)
  have hrest : IsOpen (isSpecial scheme) (restOf scheme text) := hopen.of_suffix (List.dropWhile_suffix _)
  constructor
  · intro c hc
    rcases List.mem_append.1 hc with hc | hc
    · exact (Bool.or_eq_false_iff.1 (hfront c hc)).2
    · exact hrest.isPath c hc
  · intro c hc
    by_cases hne : restOf scheme text = []
    · rw [hne, List.append_nil] at hc
      exact (Bool.or_eq_false_iff.1 (hfront c (List.mem_of_getLast? hc))).1
    · rw [List.getLast?_append_of_ne_nil _ hne] at hc
      exact hrest.last c hc

/-- **A slash behind an authority and its path.** -/
theorem eq_close_of_authority (hu : authority? scheme (text ++ tail) = some u)
    (hv : authority? scheme (text ++ '/' :: tail) = some v) (hopen : IsOpen (isSpecial scheme) text)
    (htail : IsTail tail) : v = u.close := by
  have hstop : ('/' :: tail).head?.all (endsAuthority (isSpecial scheme)) = true := rfl
  obtain ⟨hfront, hrest⟩ := takeWhile_dropWhile_append text (htail.endsAuthority (isSpecial scheme))
  obtain ⟨hfront', hrest'⟩ := takeWhile_dropWhile_append text hstop
  obtain ⟨url, behind, rfl, hpath, hbehind, rfl, rfl⟩ := exists_of_authority (hfront.trans hfront'.symm) hu hv
  have hbehind' : behind ⊆ frontOf url.scheme text := by rwa [frontOf, hfront] at hbehind
  have hopen' := isOpen_behind hbehind' hopen
  rw [restOf, restOf, hrest, hrest', ← List.append_assoc, ← List.append_assoc]
  exact withPathStart_slash hpath hopen' htail

lemma close_of_authority_tail (hspecial : isSpecial scheme = true) (htail : IsTail tail)
    (h : authority? scheme tail = some u) : u.close = u := by
  have hstop := takeWhile_dropWhile_append [] (htail.endsAuthority (isSpecial scheme))
  obtain ⟨hfront, hrest⟩ : frontOf scheme tail = [] ∧ restOf scheme tail = tail := hstop
  obtain ⟨url, behind, rfl, -, hbehind, rfl, -⟩ := exists_of_authority rfl h h
  rw [hfront] at hbehind
  have hstart : url.withPathStart tail = url.withPath [] tail := by
    unfold withPathStart
    dsimp only
    rw [hspecial, htail.dropSlash]
    rfl
  rw [List.subset_nil.1 hbehind, hrest, List.nil_append, hstart]
  exact close_withPath_tail url htail

/-! ## Files -/

lemma head?_closeEnd (path : List (List Char)) :
    (closeEnd path).head?.any isKeptDrive = path.head?.any isKeptDrive := by
  rcases path with _ | ⟨first, rest⟩
  · rfl
  · unfold closeEnd
    split <;> rfl

lemma withPath_slash_tail (hfile : isFile u.scheme = true) (h : IsTail tail) :
    u.withPath [] ('/' :: tail) = u.withPath [] tail := by
  obtain ⟨htake, hdrop⟩ := takeWhile_dropWhile_slash (fun _ hc => absurd hc List.not_mem_nil) h
  rw [List.nil_append] at htake hdrop
  have hcut : cutSegments (isSpecial u.scheme) ([] ++ ['/']) = [[], []] := by
    rw [cutSegments_slash, cutSegments, List.splitOnP_nil]
    rfl
  have hadd : addSegments true [] [[], []] = [[], []] := by decide
  rw [withPath_tail u h]
  unfold withPath pathFrom
  rw [htake, hdrop, hcut, hfile, hadd]
  rfl

lemma withPath_slash_of_file (hfile : isFile u.scheme = true) (hopen : IsOpen (isSpecial u.scheme) text) (htail : IsTail tail) :
    u.withPath [] (text ++ '/' :: tail) = (u.withPath [] (text ++ tail)).close := by
  by_cases hne : text = []
  · subst hne
    exact (withPath_slash_tail hfile htail).trans (close_withPath_tail u htail).symm
  · exact withPath_slash hopen hne htail

/-- The file on a host whose path is read from a text. With a drive at the start of its path it is on this host. -/
def onHost (host : Host) (rest : List Char) : Url :=
  let path := dropSlash true rest
  let onDrive := (pathFrom fileUrl.scheme [] path).head?.any isKeptDrive
  { fileUrl with host := some (if onDrive then .empty else host) }.withPath [] path

lemma onHost_slash (host : Host) (hopen : IsOpen true text) (htail : IsTail tail) :
    onHost host (text ++ '/' :: tail) = (onHost host (text ++ tail)).close := by
  by_cases hne : text = []
  · subst hne
    unfold onHost
    rw [List.nil_append, List.nil_append, dropSlash_slash, htail.dropSlash, close_withPath_tail _ htail]
  · have hpathOpen : IsOpen (isSpecial fileUrl.scheme) (dropSlash true text) := hopen.dropSlash
    have hpathNe := hopen.dropSlash_ne_nil hne
    unfold onHost
    dsimp only
    rw [dropSlash_append hne, dropSlash_append hne, pathFrom_slash [] hpathOpen hpathNe htail, head?_closeEnd]
    exact withPath_slash hpathOpen hpathNe htail

/-- **A slash behind the host of a file and its path.** -/
theorem eq_close_of_fileHost (hu : fileHost? (text ++ tail) = some u) (hv : fileHost? (text ++ '/' :: tail) = some v)
    (hopen : IsOpen true text) (hne : text ≠ []) (htail : IsTail tail) : v = u.close := by
  have hstop : ('/' :: tail).head?.all (endsAuthority true) = true := rfl
  obtain ⟨hfront, hrest⟩ := takeWhile_dropWhile_append text (htail.endsAuthority true)
  obtain ⟨hfront', hrest'⟩ := takeWhile_dropWhile_append text hstop
  have hopen' : IsOpen true (text.dropWhile fun c => !endsAuthority true c) :=
    hopen.of_suffix (List.dropWhile_suffix _)
  unfold fileHost? at hu hv
  dsimp only at hu hv
  rw [hfront, hrest] at hu
  rw [hfront', hrest'] at hv
  split at hu
  · next hdrive =>
    rw [if_pos hdrive] at hv
    cases hu
    cases hv
    exact withPath_slash hopen hne htail
  next hdrive =>
  rw [if_neg hdrive] at hv
  split at hu
  · next hempty =>
    rw [if_pos hempty] at hv
    cases hu
    cases hv
    exact withPath_slash_of_file rfl hopen' htail
  next hempty =>
  rw [if_neg hempty] at hv
  obtain ⟨host, hhost, hu⟩ := Option.bind_eq_some_iff.1 hu
  obtain ⟨_, hhost', hv⟩ := Option.bind_eq_some_iff.1 hv
  cases hhost.symm.trans hhost'
  split at hu
  · next hlocal =>
    rw [if_pos hlocal] at hv
    cases hu
    cases hv
    exact withPath_slash_of_file rfl hopen' htail
  · next hlocal =>
    rw [if_neg hlocal] at hv
    cases hu
    cases hv
    exact onHost_slash host hopen' htail

lemma file?_behindSlash {c d : Char} (hc : isSlash true c = true) (hd : isSlash true d = false) (rest : List Char) :
    file? none (c :: d :: rest) = some (fileUrl.withPath [] (d :: rest)) := by
  rw [file?, if_neg (by simp [hd]), if_pos hc]
  rfl

lemma file?_host {c d : Char} (hc : isSlash true c = true) (hd : isSlash true d = true) (rest : List Char) :
    file? none (c :: d :: rest) = fileHost? rest := by
  rw [file?, if_pos (by simp [hc, hd])]

lemma file?_tail (h : IsTail tail) : file? none tail = some (fileUrl.withPath [] tail) := by
  cases tail with
  | nil => rfl
  | cons c rest => exact file?_plain none (isSlash_of_endsPath h true) rest

lemma file?_slash_tail (h : IsTail tail) : file? none ('/' :: tail) = some (fileUrl.withPath [] tail) := by
  cases tail with
  | nil => rfl
  | cons c rest => exact file?_behindSlash rfl (isSlash_of_endsPath h true) rest

lemma filePath_slash (hopen : IsOpen true text) (hne : text ≠ []) (htail : IsTail tail) :
    fileUrl.withPath [] (text ++ '/' :: tail) = (fileUrl.withPath [] (text ++ tail)).close :=
  have hopen' : IsOpen (isSpecial fileUrl.scheme) text := hopen
  withPath_slash hopen' hne htail

/-- **A slash behind the path of a file.** -/
theorem eq_close_of_file (hu : file? none (text ++ tail) = some u) (hv : file? none (text ++ '/' :: tail) = some v)
    (hopen : IsOpen true text) (htail : IsTail tail) : v = u.close := by
  rcases text with _ | ⟨c, rest⟩
  · rw [List.nil_append, file?_tail htail] at hu
    rw [List.nil_append, file?_slash_tail htail] at hv
    cases hu
    cases hv
    exact (close_withPath_tail _ htail).symm
  cases hc : isSlash true c with
  | false =>
    rw [List.cons_append, file?_plain none hc] at hu hv
    cases hu
    cases hv
    exact filePath_slash hopen (List.cons_ne_nil c rest) htail
  | true =>
    have hrest : IsOpen true rest := hopen.of_suffix (List.suffix_cons c rest)
    obtain ⟨d, behind, rfl⟩ := List.exists_cons_of_ne_nil (hopen.ne_nil_of_slash hc)
    cases hd : isSlash true d with
    | false =>
      rw [List.cons_append, List.cons_append, file?_behindSlash hc hd] at hu hv
      cases hu
      cases hv
      exact filePath_slash hrest (List.cons_ne_nil d behind) htail
    | true =>
      rw [List.cons_append, List.cons_append, file?_host hc hd] at hu hv
      exact eq_close_of_fileHost hu hv (hrest.of_suffix (List.suffix_cons d behind)) (hrest.ne_nil_of_slash hd) htail

/-! ## Any scheme -/

lemma dropSlashes_append (hopen : IsOpen true text) (hne : text ≠ []) (behind : List Char) :
    dropSlashes (text ++ behind) = dropSlashes text ++ behind := by
  unfold dropSlashes
  rw [List.dropWhile_append, if_neg (by simpa using hopen.dropWhile_ne_nil hne)]

lemma dropSlashes_tail (h : IsTail tail) : dropSlashes tail = tail := by
  cases tail with
  | nil => rfl
  | cons c rest => exact List.dropWhile_cons_of_neg (by simp [isSlash_of_endsPath h true])

lemma exists_ordinary_slash (scheme : List Char) :
    ∃ url : Url, url.scheme = scheme ∧
      ∀ c rest, c ≠ '/' → ordinary? scheme ('/' :: c :: rest) = some (url.withPath [] (c :: rest)) := by
  let url : Url := {
    scheme, username := [], password := [], host := none, port := none, path := .plain []
    query := none, fragment := none }
  refine ⟨url, rfl, fun c rest hc => ?_⟩
  unfold ordinary?
  dsimp only
  split
  · next heq =>
    cases heq
    exact absurd rfl hc
  · next heq =>
    cases heq
    rfl
  · next hslash => exact absurd rfl (hslash (c :: rest))

lemma eq_close_of_ordinary (hu : ordinary? scheme (text ++ tail) = some u)
    (hv : ordinary? scheme (text ++ '/' :: tail) = some v) (hbase : (text ++ tail).head? = some '/')
    (hopen : IsOpen (isSpecial scheme) text) (htail : IsTail tail) : v = u.close := by
  rcases text with _ | ⟨c, rest⟩
  · unfold IsTail at htail
    rw [List.nil_append] at hbase
    rw [hbase] at htail
    cases htail
  · cases hbase
    have hrest : IsOpen (isSpecial scheme) rest := hopen.of_suffix (List.suffix_cons '/' rest)
    obtain ⟨d, behind, rfl⟩ := List.exists_cons_of_ne_nil (hopen.ne_nil_of_slash rfl)
    by_cases hd : d = '/'
    · subst hd
      exact eq_close_of_authority hu hv (hrest.of_suffix (List.suffix_cons '/' behind)) htail
    · obtain ⟨url, rfl, hread⟩ := exists_ordinary_slash scheme
      rw [List.cons_append, List.cons_append, hread _ _ hd] at hu hv
      cases hu
      cases hv
      exact withPath_slash hrest (List.cons_ne_nil d behind) htail

/-- **A slash at the end of the path,** in a text behind a scheme, closes the path that is read. -/
theorem eq_close_of_withScheme (hu : withScheme? none scheme (text ++ tail) = some u)
    (hv : withScheme? none scheme (text ++ '/' :: tail) = some v)
    (hbase : isSpecial scheme = true ∨ (text ++ tail).head? = some '/') (hopen : IsOpen (isSpecial scheme) text)
    (htail : IsTail tail) : v = u.close := by
  unfold withScheme? at hu hv
  dsimp only at hu hv
  by_cases hfile : isFile scheme = true
  · rw [if_pos hfile] at hu hv
    exact eq_close_of_file hu hv (isSpecial_of_isFile hfile ▸ hopen) htail
  rw [if_neg hfile] at hu hv
  by_cases hspecial : isSpecial scheme = true
  · rw [if_pos hspecial] at hu hv
    have hopen' : IsOpen true text := hspecial ▸ hopen
    by_cases hne : text = []
    · subst hne
      have hsame : dropSlashes ([] ++ '/' :: tail) = dropSlashes ([] ++ tail) := rfl
      dsimp only [Option.filter_none] at hu hv
      rw [hsame] at hv
      cases hu.symm.trans hv
      rw [List.nil_append, dropSlashes_tail htail] at hu
      exact (close_of_authority_tail hspecial htail hu).symm
    · dsimp only [Option.filter_none] at hu hv
      rw [dropSlashes_append hopen' hne] at hu hv
      exact eq_close_of_authority hu hv (hopen.of_suffix (List.dropWhile_suffix _)) htail
  · rw [if_neg hspecial] at hu hv
    exact eq_close_of_ordinary hu hv (hbase.resolve_left hspecial) hopen htail

/-! ## Cutting off the scheme -/

def isSchemeChar (c : Char) : Bool := c.isAlphanum || c == '+' || c == '-' || c == '.'

lemma cutScheme_eq (text : List Char) :
    cutScheme text =
      match text.dropWhile isSchemeChar with
      | ':' :: rest =>
        let scheme := text.takeWhile isSchemeChar
        if scheme.head?.any Char.isAlpha then some (scheme.map Char.toLower, rest) else none
      | _ => none := rfl

/-- A search that stops in a text does not depend on what follows it. -/
lemma takeWhile_dropWhile_of_ne_nil {p : Char → Bool} (h : text.dropWhile p ≠ []) (behind : List Char) :
    (text ++ behind).takeWhile p = text.takeWhile p ∧ (text ++ behind).dropWhile p = text.dropWhile p ++ behind := by
  induction text with
  | nil => exact absurd rfl h
  | cons c text ih =>
    cases hc : p c with
    | true => simpa [hc] using ih (by simpa [hc] using h)
    | false => simp [hc]

/-- The colon behind a scheme is not that of the tail, which starts with a mark of its own. -/
lemma dropWhile_ne_nil_of_colon {rest : List Char} (h : (text ++ tail).dropWhile isSchemeChar = ':' :: rest)
    (htail : IsTail tail) : text.dropWhile isSchemeChar ≠ [] := by
  intro hnil
  rw [List.dropWhile_append, hnil, if_pos List.isEmpty_nil] at h
  cases tail with
  | nil => cases h
  | cons c tail =>
    have hmark : endsPath c = true := htail
    have hc : isSchemeChar c = false := by
      rcases Bool.or_eq_true_iff.1 hmark with hc | hc <;> (rw [eq_of_beq hc]; decide)
    rw [List.dropWhile_cons_of_neg (by simp [hc])] at h
    cases h
    cases hmark

/-- **The scheme is cut off in front of the end of the path.** -/
theorem exists_of_cutScheme_append {rest : List Char} (h : cutScheme (text ++ tail) = some (scheme, rest))
    (htail : IsTail tail) :
    ∃ path, path <:+ text ∧ rest = path ++ tail ∧
      ∀ behind, cutScheme (text ++ behind) = some (scheme, path ++ behind) := by
  rw [cutScheme_eq] at h
  split at h
  · next hcolon =>
    have hne := dropWhile_ne_nil_of_colon hcolon htail
    have hpart := takeWhile_dropWhile_of_ne_nil hne
    rw [(hpart tail).2] at hcolon
    obtain ⟨first, path, hpath⟩ := List.exists_cons_of_ne_nil hne
    rw [hpath] at hcolon
    cases hcolon
    dsimp only at h
    rw [(hpart tail).1] at h
    refine ⟨path, (List.suffix_cons ':' path).trans (hpath ▸ List.dropWhile_suffix _), ?_, fun behind => ?_⟩
    · split at h <;> cases h
      rfl
    · rw [cutScheme_eq, (hpart behind).1, (hpart behind).2, hpath, List.cons_append]
      split at h
      · next halpha =>
        cases h
        exact if_pos halpha
      · cases h
  · cases h

end Gatehouse.Url
