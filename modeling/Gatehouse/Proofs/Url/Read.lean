import Gatehouse.Proofs.Url.Path

/-!
# How URLs are read

* `exists_of_authority` — user name, password, host and port are read from what stands in front of the path;
* `exists_of_fileHost`, `exists_of_file` — the path of a file is read from its start;
* `IsTidy`, `isTidy_of_parse` — no segment of a URL that is read has a slash in it, and a file has no empty ones in front;
* `scheme_of_withScheme` — what is read behind a scheme has this scheme.
-/

namespace Gatehouse.Url

variable {u : Url} {scheme text : List Char}

/-! ## Query and fragment -/

lemma withTail_path (u : Url) (text : List Char) : (u.withTail text).path = u.path := by
  unfold withTail
  split
  · split <;> rfl
  · rfl
  · rfl

lemma withTail_scheme (u : Url) (text : List Char) : (u.withTail text).scheme = u.scheme := by
  unfold withTail
  split
  · split <;> rfl
  · rfl
  · rfl

/-- The query and the fragment are read without regard to the path. -/
lemma withTail_withPath (u : Url) (path : Path) (text : List Char) :
    ({ u with path := path } : Url).withTail text = { u.withTail text with path := path } := by
  unfold withTail
  dsimp only
  split
  · split <;> rfl
  · rfl
  · rfl

/-! ## Authorities -/

/-- The part of a text in front of the path. -/
def frontOf (scheme text : List Char) : List Char := text.takeWhile fun c => !endsAuthority (isSpecial scheme) c

/-- The path of a text and what follows it. -/
def restOf (scheme text : List Char) : List Char := text.dropWhile fun c => !endsAuthority (isSpecial scheme) c

lemma port?_subset {port : Option Nat} {rest : List Char} (h : port? text = some (port, rest)) : rest ⊆ text := by
  unfold port? at h
  dsimp only at h
  split at h
  · cases h
  · split at h
    · cases h
      exact (List.dropWhile_suffix _).subset
    · cases h

lemma cutAtSign_subset {credentials place : List Char} (h : cutAtSign text = some (credentials, place)) :
    place ⊆ text := by
  unfold cutAtSign at h
  dsimp only at h
  split at h
  · cases h
  · cases h
    intro c hc
    exact List.mem_reverse.1 ((List.takeWhile_prefix _).subset (List.mem_reverse.1 hc))

lemma exists_of_host {host? : Option Host} {url : Host → Url} {refused refused' : Host → Prop}
    [DecidablePred refused] [DecidablePred refused'] {path path' : List Char} {v : Url}
    (hu : (do let host ← host?; if refused host then none else pure ((url host).withPathStart path)) = some u)
    (hv : (do let host ← host?; if refused' host then none else pure ((url host).withPathStart path')) = some v) :
    ∃ host, u = (url host).withPathStart path ∧ v = (url host).withPathStart path' := by
  obtain ⟨host, hhost, hu⟩ := Option.bind_eq_some_iff.1 hu
  obtain ⟨_, hhost', hv⟩ := Option.bind_eq_some_iff.1 hv
  cases hhost.symm.trans hhost'
  obtain ⟨-, hu⟩ := Option.ite_none_left_eq_some.1 hu
  obtain ⟨-, hv⟩ := Option.ite_none_left_eq_some.1 hv
  exact ⟨host, (Option.some.inj hu).symm, (Option.some.inj hv).symm⟩

/-- **The path does not count for user name, password, host and port.** What is read of two texts that differ in it
alone is one URL, behind which each of the paths is read. -/
theorem exists_of_authority {text' : List Char} {v : Url} (hfront : frontOf scheme text = frontOf scheme text')
    (hu : authority? scheme text = some u) (hv : authority? scheme text' = some v) :
    ∃ (url : Url) (behind : List Char), url.scheme = scheme ∧ url.path = .segments [] ∧ behind ⊆ frontOf scheme text ∧
      u = url.withPathStart (behind ++ restOf scheme text) ∧ v = url.withPathStart (behind ++ restOf scheme text') := by
  unfold frontOf at hfront
  unfold authority? at hu hv
  dsimp only at hu hv
  rw [← hfront] at hv
  obtain ⟨⟨port, behind⟩, hport, hu⟩ := Option.bind_eq_some_iff.1 hu
  obtain ⟨⟨_, _⟩, hport', hv⟩ := Option.bind_eq_some_iff.1 hv
  cases hport.symm.trans hport'
  have hbehind : behind ⊆ frontOf scheme text := by
    intro c hc
    have hplace := List.mem_of_mem_drop (List.mem_of_mem_drop (port?_subset hport hc))
    split at hplace
    · next hcut => exact cutAtSign_subset hcut hplace
    · exact hplace
  -- the host is read in one of two ways, and the URL is made in the same way behind both
  split at hu
  · next hspecial =>
    rw [if_pos hspecial] at hv
    obtain ⟨host, rfl, rfl⟩ := exists_of_host hu hv
    exact ⟨_, behind, rfl, rfl, hbehind, rfl, rfl⟩
  · next hspecial =>
    rw [if_neg hspecial] at hv
    obtain ⟨host, rfl, rfl⟩ := exists_of_host hu hv
    exact ⟨_, behind, rfl, rfl, hbehind, rfl, rfl⟩

lemma exists_of_authority_self (h : authority? scheme text = some u) :
    ∃ (url : Url) (behind : List Char), url.scheme = scheme ∧ url.path = .segments [] ∧ u = url.withPathStart behind := by
  obtain ⟨url, behind, hscheme, hpath, -, hu, -⟩ := exists_of_authority rfl h h
  exact ⟨url, _, hscheme, hpath, hu⟩

/-! ## Files -/

lemma isSpecial_of_isFile (h : isFile scheme = true) : isSpecial scheme = true := by
  rw [eq_of_beq h]
  rfl

lemma exists_of_fileHost (h : fileHost? text = some u) :
    ∃ (url : Url) (path : List Char), isFile url.scheme = true ∧ u = url.withPath [] path := by
  unfold fileHost? at h
  dsimp only at h
  split at h
  · cases h
    exact ⟨_, _, rfl, rfl⟩
  · split at h
    · cases h
      exact ⟨_, _, rfl, rfl⟩
    · obtain ⟨host, -, h⟩ := Option.bind_eq_some_iff.1 h
      split at h
      · cases h
        exact ⟨_, _, rfl, rfl⟩
      · cases h
        exact ⟨_, _, rfl, rfl⟩

/-- **The path of a file is read from its start.** -/
lemma exists_of_file (h : file? none text = some u) :
    ∃ (url : Url) (path : List Char), isFile url.scheme = true ∧ u = url.withPath [] path := by
  unfold file? at h
  split at h
  · split at h
    · exact exists_of_fileHost h
    · split at h <;> (cases h; exact ⟨fileUrl, _, rfl, rfl⟩)
  · split at h
    · cases h
      exact ⟨fileUrl, [], rfl, rfl⟩
    · cases h
      exact ⟨fileUrl, _, rfl, rfl⟩
  · cases h
    exact ⟨fileUrl, [], rfl, rfl⟩

/-- A text without a slash in front is a path below that of the base, if there is one. -/
lemma file?_plain (base : Option Url) {c : Char} (hc : isSlash true c = false) (rest : List Char) :
    file? base (c :: rest) = some (file?.plain base (c :: rest)) := by
  cases rest with
  | nil => rw [file?, if_neg (by simp [hc])]
  | cons d rest => rw [file?, if_neg (by simp [hc]), if_neg (by simp [hc])]

/-! ## Paths that are read -/

/-- What the path of a URL that is read is like: its segments have no slashes in them, and the path of a file has no
empty segments in front. -/
def IsTidy (u : Url) : Prop :=
  ∀ list, u.path = .segments list → Slashless list ∧ (isFile u.scheme = true → IsTidyFront list)

lemma isTidy_withPath (u : Url) (text : List Char) : (u.withPath [] text).IsTidy := by
  intro list hlist
  have hread : Slashless (pathFrom u.scheme [] text) :=
    slashless_pathFrom u.scheme (fun _ h => absurd h List.not_mem_nil) text
  unfold withPath at hlist ⊢
  rw [withTail_path] at hlist
  rw [withTail_scheme]
  cases hlist
  dsimp only
  split
  · exact ⟨hread.mono (dropEmptyFront_subset _), fun _ => isTidyFront_dropEmptyFront _⟩
  · next hfile => exact ⟨hread, fun h => absurd h hfile⟩

lemma IsTidy.withTail (h : u.IsTidy) (text : List Char) : (u.withTail text).IsTidy := by
  intro list hlist
  rw [withTail_path] at hlist
  rw [withTail_scheme]
  exact h list hlist

lemma IsTidy.withPathStart (h : u.IsTidy) (text : List Char) : (u.withPathStart text).IsTidy := by
  unfold Url.withPathStart
  dsimp only
  split
  · exact h.withTail text
  · exact isTidy_withPath u _

lemma isTidy_of_authority (h : authority? scheme text = some u) : u.IsTidy := by
  obtain ⟨url, behind, -, hpath, rfl⟩ := exists_of_authority_self h
  apply IsTidy.withPathStart
  intro list hlist
  cases hpath.symm.trans hlist
  exact ⟨fun _ hmem => absurd hmem List.not_mem_nil, fun _ _ _ => nofun⟩

lemma isTidy_of_ordinary (h : ordinary? scheme text = some u) : u.IsTidy := by
  unfold ordinary? at h
  dsimp only at h
  split at h
  · exact isTidy_of_authority h
  · cases h
    exact isTidy_withPath _ _
  · cases h
    apply IsTidy.withTail
    intro list hlist
    cases hlist

/-- **What is read has a tidy path.** -/
theorem isTidy_of_parse {text : String} (h : parse? text = some u) : u.IsTidy := by
  obtain ⟨⟨scheme, rest⟩, -, h⟩ := Option.bind_eq_some_iff.1 h
  unfold withScheme? at h
  dsimp only at h
  split at h
  · obtain ⟨url, path, -, rfl⟩ := exists_of_file h
    exact isTidy_withPath url path
  · split at h
    · exact isTidy_of_authority h
    · exact isTidy_of_ordinary h

/-! ## Schemes -/

lemma withPath_scheme (u : Url) (start : List (List Char)) (text : List Char) :
    (u.withPath start text).scheme = u.scheme := by
  unfold withPath
  dsimp only
  rw [withTail_scheme]

lemma withPathStart_scheme (u : Url) (text : List Char) : (u.withPathStart text).scheme = u.scheme := by
  unfold withPathStart
  dsimp only
  split
  · exact withTail_scheme u text
  · exact withPath_scheme u _ _

lemma scheme_of_authority (h : authority? scheme text = some u) : u.scheme = scheme := by
  obtain ⟨url, behind, rfl, -, rfl⟩ := exists_of_authority_self h
  exact withPathStart_scheme url behind

lemma scheme_of_withScheme (h : withScheme? none scheme text = some u) : u.scheme = scheme := by
  unfold withScheme? at h
  dsimp only at h
  split at h
  · next hfile =>
    obtain ⟨url, path, hurl, rfl⟩ := exists_of_file h
    rw [withPath_scheme, eq_of_beq hurl, eq_of_beq hfile]
  · split at h
    · exact scheme_of_authority h
    · unfold ordinary? at h
      dsimp only at h
      split at h
      · exact scheme_of_authority h
      · cases h
        exact withPath_scheme _ _ _
      · cases h
        exact withTail_scheme _ _

end Gatehouse.Url
