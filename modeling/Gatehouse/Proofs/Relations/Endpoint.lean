import Gatehouse.Proofs.Relations.Base
import Gatehouse.Proofs.Url.Slash

/-!
# Where requests go

* `Url.IsBranch`, `Url.join?_branch` — a path that is joined to a base with a slash at its end goes below it;
* `Url.OneSlashApart`, `Url.eq_close_of_parse` — two texts with and without a slash at the end of the path;
* `Wire.LosesBar`, `Wire.withTrailingSlash_eq_close` — the slash that a base is given closes its path, and what else it
  may change;
* `Wire.endpoint_below` — so that scheme, user name, password, host, port and path of a base are kept.
-/

namespace Gatehouse

/-! ## Paths that go below a base -/

namespace Url

variable {u base : Url} {path : String} {segments list : List (List Char)}

/-- A text that is a path of these segments, each as it stands. -/
structure IsBranch (path : String) (segments : List (List Char)) : Prop extends IsPlainPath path where
  isPath : (tidy path.toList).any endsPath = false
  noDrive : startsWithDrive (tidy path.toList) = false
  cut : ∀ special, cutSegments special (tidy path.toList) = segments
  ordinary : ∀ segment ∈ segments, IsOrdinary segment
  first : segments.head? ≠ some []
  write : (Path.segments segments).write = '/' :: path.toList

/-- Behind the slash of a closed path, nothing of it is taken back. -/
lemma shorten_concat (file : Bool) (list : List (List Char)) : shorten file (list ++ [[]]) = list := by
  unfold shorten
  split
  · next segment heq =>
    obtain ⟨rfl, rfl⟩ : list = [] ∧ segment = [] := by
      rcases list with _ | ⟨first, list⟩
      · exact ⟨rfl, by simpa using heq.symm⟩
      · simp at heq
    simp [isKeptDrive]
  · exact List.dropLast_concat

/-- In a closed path without empty segments in front, other segments may take the place of the last one. -/
lemma dropEmptyFront_append (htidy : IsTidyFront (list ++ [[]])) (hfirst : segments.head? ≠ some []) :
    dropEmptyFront (list ++ segments) = list ++ segments := by
  apply dropEmptyFront_eq_self
  intro segment rest hpath
  rcases list with _ | ⟨first, list⟩
  · rw [List.nil_append] at hpath
    rw [hpath] at hfirst
    exact hfirst rfl
  · obtain ⟨rfl, -⟩ := List.cons.inj hpath
    have hne : list ++ [[]] ≠ [] := by simp
    obtain ⟨second, others, hclosed⟩ := List.exists_cons_of_ne_nil hne
    exact htidy second others (congrArg _ hclosed)

lemma withPath_branch (h : IsBranch path segments) (htidy : isFile u.scheme = true → IsTidyFront (list ++ [[]])) :
    u.withPath list (tidy path.toList) = { u with path := .segments (list ++ segments) } := by
  obtain ⟨htake, hdrop⟩ := takeWhile_dropWhile_path (by simpa using h.isPath) (show IsTail [] from rfl)
  rw [List.append_nil] at htake hdrop
  unfold withPath pathFrom
  rw [htake, hdrop, h.cut, addSegments_ordinary _ _ h.ordinary]
  dsimp only
  split
  · next hfile =>
    rw [dropEmptyFront_append (htidy hfile) h.first]
    rfl
  · rfl

lemma IsBranch.exists_cons (h : IsBranch path segments) :
    ∃ c rest, tidy path.toList = c :: rest ∧ isSlash true c = false ∧ c ≠ '#' ∧ c ≠ '?' := by
  obtain ⟨c, rest, htext, hslash, hmark⟩ := h.head
  refine ⟨c, rest, htext, hslash, hmark, ?_⟩
  rintro rfl
  exact List.any_eq_false.1 h.isPath '?' (htext ▸ List.mem_cons_self) rfl

lemma file?_branch (h : IsBranch path segments) (base : Url) :
    file? (some base) (tidy path.toList) =
      some ({ base with query := none, fragment := none }.withPath (shorten true base.path.list) (tidy path.toList)) := by
  have hdrive := h.noDrive
  obtain ⟨c, rest, htext, hslash, hmark, hquestion⟩ := h.exists_cons
  rw [htext] at hdrive ⊢
  rw [file?_plain (some base) hslash]
  unfold file?.plain
  dsimp only
  split
  · next heq => cases heq
  · next heq =>
    cases heq
    exact absurd rfl hmark
  · next heq =>
    cases heq
    exact absurd rfl hquestion
  · rw [hdrive, if_neg Bool.false_ne_true]

lemma relative?_branch (h : IsBranch path segments) (base : Url) :
    relative? base (tidy path.toList) =
      some ({ base with query := none, fragment := none }.withPath (shorten (isFile base.scheme) base.path.list)
        (tidy path.toList)) := by
  obtain ⟨c, rest, htext, hslash, hmark, hquestion⟩ := h.exists_cons
  rw [htext]
  unfold relative?
  dsimp only
  split
  · next heq => cases heq
  · next heq =>
    cases heq
    exact absurd rfl hmark
  · next heq =>
    cases heq
    exact absurd rfl hquestion
  · next heq =>
    cases heq
    rw [if_pos (by simp [hslash])]

/-- **A path goes below a base with a slash at its end:** scheme, user name, password, host and port stay, and so do the
segments of the base. -/
theorem join?_branch (h : IsBranch path segments) (hpath : base.path = .segments (list ++ [[]]))
    (htidy : isFile base.scheme = true → IsTidyFront (list ++ [[]])) :
    base.join? path = some { base with path := .segments (list ++ segments), query := none, fragment := none } := by
  have hlist : base.path.list = list ++ [[]] := by rw [hpath, Path.list]
  have hbelow : ({ base with query := none, fragment := none } : Url).withPath list (tidy path.toList) =
      { base with path := .segments (list ++ segments), query := none, fragment := none } := withPath_branch h htidy
  unfold join?
  dsimp only
  rw [h.noScheme]
  simp only [withoutScheme?, hpath]
  split
  · rw [file?_branch h, hlist, shorten_concat, hbelow]
  · rw [relative?_branch h, hlist, shorten_concat, hbelow]

/-! ## Texts with and without a slash -/

/-- Two texts that are read alike but for one slash, which the second one has at the end of its path. -/
def OneSlashApart (special : Bool) (text text' : String) : Prop :=
  ∃ front tail, IsOpen special front ∧ IsTail tail ∧
    tidy text.toList = front ++ tail ∧ tidy text'.toList = front ++ '/' :: tail

/-- **Such texts are read as one URL,** whose path the slash closes. -/
theorem eq_close_of_parse {text text' : String} {u v : Url} (hu : parse? text = some u) (hv : parse? text' = some v)
    (hbase : u.IsBase) (h : OneSlashApart (isSpecial u.scheme) text text') : v = u.close := by
  obtain ⟨front, tail, hopen, htail, htext, htext'⟩ := h
  obtain ⟨⟨scheme, rest⟩, hcut, hu⟩ := Option.bind_eq_some_iff.1 hu
  obtain ⟨⟨scheme', rest'⟩, hcut', hv⟩ := Option.bind_eq_some_iff.1 hv
  rw [htext] at hcut
  rw [htext'] at hcut'
  obtain ⟨path, hpath, rfl, hscheme⟩ := exists_of_cutScheme_append hcut htail
  cases (hscheme _).symm.trans hcut'
  rw [scheme_of_withScheme hu] at hopen
  exact eq_close_of_withScheme hu hv ((isBase_of_withScheme hu).1 hbase) (hopen.of_suffix hpath) htail

end Url

/-! ## Endpoints -/

namespace Relations.Wire

open Url (IsBranch IsTidyFront OneSlashApart Slashless closeEnd isFile isSpecial)

variable {text : String} {u base e : Url} {c : Call}

lemma isBranch_pathOf (c : Call) : ∃ segments, IsBranch (pathOf c) segments := by
  have hplain := isPlainPath_pathOf c
  cases c with
  | removeMember userId familyId =>
    show ∃ segments, IsBranch "FamilyLeader/RemoveUser" segments
    exact ⟨["FamilyLeader".toList, "RemoveUser".toList], hplain, by decide +kernel, by decide +kernel,
      by decide +kernel, by decide +kernel, by decide +kernel, by decide +kernel⟩
  | deleteInvites userId =>
    show ∃ segments, IsBranch "Invite/DeleteUserInvites" segments
    exact ⟨["Invite".toList, "DeleteUserInvites".toList], hplain, by decide +kernel, by decide +kernel,
      by decide +kernel, by decide +kernel, by decide +kernel, by decide +kernel⟩

/-- A path in text with a slash at its end, be it that it has one already. -/
def slashed (path : List Char) : List Char := if path.getLast? = some '/' then path else path ++ ['/']

/-- Bases that the slash changes: the path of a file below a drive that is named with a bar, without a slash at the end. -/
def LosesBar (u : Url) : Prop :=
  isFile u.scheme = true ∧ u.path.write.getLast? ≠ some '/' ∧
    ∃ letter rest, letter.isAlpha = true ∧ u.path = .segments ([letter, '|'] :: rest)

/-- A URL that is another one as far as its path, with these two texts for a path, one behind the other. -/
structure IsBelow (u : Url) (front path : List Char) (e : Url) : Prop where
  scheme : e.scheme = u.scheme
  username : e.username = u.username
  password : e.password = u.password
  host : e.host = u.host
  port : e.port = u.port
  path : e.path.write = front ++ path
  query : e.query = none
  fragment : e.fragment = none

/-- **Below a path that is closed,** the endpoint has this path and that of the request. -/
lemma endpoint?_of_closed {front : List (List Char)} (htidy : isFile u.scheme = true → IsTidyFront (front ++ [[]]))
    (c : Call) :
    ∃ e, endpoint? { u with path := .segments (front ++ [[]]) } (pathOf c) = some e ∧
      IsBelow u (Url.Path.segments (front ++ [[]])).write (pathOf c).toList e := by
  obtain ⟨segments, hbranch⟩ := isBranch_pathOf c
  refine ⟨_, Url.join?_branch hbranch rfl htidy, rfl, rfl, rfl, rfl, rfl, ?_, rfl, rfl⟩
  dsimp only
  rw [Url.write_append, Url.write_append, hbranch.write, List.append_assoc]
  rfl

lemma write_closeEnd {list : List (List Char)} (h : Slashless list) :
    (Url.Path.segments (closeEnd list)).write = slashed (Url.Path.segments list).write := by
  unfold closeEnd slashed
  by_cases hlast : list.getLast? = some []
  · rw [if_pos hlast, if_pos ((Url.getLast?_write h).2 hlast)]
  · rw [if_neg hlast, if_neg (mt (Url.getLast?_write h).1 hlast), Url.write_append]
    rfl

lemma closePath_cons (file : Bool) (first : List Char) (rest : List (List Char)) :
    closePath file (first :: rest) =
      (if file && Url.isDrive first then Url.keepDrive first else first) :: rest ++ [[]] := rfl

lemma keepDrive_eq {first : List Char} (hdrive : Url.isDrive first = true)
    (hbar : ∀ letter, letter.isAlpha = true → first ≠ [letter, '|']) : Url.keepDrive first = first := by
  unfold Url.isDrive at hdrive
  split at hdrive
  · next letter mark =>
    obtain ⟨hletter, hmark⟩ := Bool.and_eq_true_iff.1 hdrive
    rcases Bool.or_eq_true_iff.1 hmark with hmark | hmark
    · rw [eq_of_beq hmark]
      rfl
    · rw [eq_of_beq hmark] at hbar
      exact absurd rfl (hbar letter hletter)
  · cases hdrive

/-- **The slash at the end of a base closes its path** and does nothing else, if it does not change the drive. -/
theorem withTrailingSlash_eq_close (htidy : u.IsTidy) (hbase : u.IsBase) (hbar : ¬ LosesBar u) :
    withTrailingSlash u = u.close := by
  obtain ⟨list, hpath⟩ := hbase
  have hslashless := (htidy list hpath).1
  unfold withTrailingSlash Url.close
  rw [hpath]
  dsimp only
  by_cases hlast : list.getLast? = some []
  · rw [if_pos hlast, Url.closeEnd_of_closed hlast, ← hpath]
  · rw [if_neg hlast, Url.closeEnd_of_open hlast]
    rcases list with _ | ⟨first, rest⟩
    · rfl
    · rw [closePath_cons]
      split
      · next hdrive =>
        obtain ⟨hfile, hdrive⟩ := Bool.and_eq_true_iff.1 hdrive
        have hkeep : Url.keepDrive first = first := by
          apply keepDrive_eq hdrive
          rintro letter hletter rfl
          apply hbar
          refine ⟨hfile, ?_, letter, rest, hletter, hpath⟩
          rw [hpath]
          exact mt (Url.getLast?_write hslashless).1 hlast
        rw [hkeep]
      · rfl

/-- The slash of a base that loses its bar: a colon stands in its place. -/
lemma exists_withTrailingSlash_of_losesBar (htidy : u.IsTidy) (h : LosesBar u) :
    ∃ letter rest, u.path = .segments ([letter, '|'] :: rest) ∧
      withTrailingSlash u = { u with path := .segments ([letter, ':'] :: rest ++ [[]]) } := by
  obtain ⟨hfile, hlast, letter, rest, hletter, hpath⟩ := h
  refine ⟨letter, rest, hpath, ?_⟩
  have hdrive : Url.isDrive [letter, '|'] = true := by simp [Url.isDrive, hletter]
  rw [hpath] at hlast
  have hopen := mt (Url.getLast?_write (htidy _ hpath).1).2 hlast
  unfold withTrailingSlash
  rw [hpath]
  dsimp only
  rw [if_neg hopen, closePath_cons, hfile, hdrive]
  rfl

lemma withTrailingSlash_close (hbase : u.IsBase) : withTrailingSlash u.close = u.close := by
  obtain ⟨list, hpath⟩ := hbase
  have hclose : u.close.path = .segments (closeEnd list) := by rw [Url.close, hpath]
  unfold withTrailingSlash
  rw [hclose]
  exact if_pos (Url.getLast?_closeEnd list)

/-- **Below a URL with its path closed** the endpoint is the one that is meant. -/
theorem exists_endpoint_close (htidy : u.IsTidy) (hbase : u.IsBase) (c : Call) :
    ∃ e, endpoint? u.close (pathOf c) = some e ∧ IsBelow u (slashed u.path.write) (pathOf c).toList e := by
  obtain ⟨list, hpath⟩ := hbase
  obtain ⟨hslashless, hfront⟩ := htidy list hpath
  obtain ⟨front, hclosed⟩ := Url.exists_closeEnd list
  have hclose : u.close = { u with path := .segments (front ++ [[]]) } := by rw [Url.close, hpath, ← hclosed]
  rw [hclose, hpath, ← write_closeEnd hslashless, hclosed]
  exact endpoint?_of_closed (fun hfile => hclosed ▸ (hfront hfile).closeEnd) c

lemma exists_endpoint_of_losesBar (htidy : u.IsTidy) (hbar : LosesBar u) (c : Call) :
    ∃ e letter rest, endpoint? (withTrailingSlash u) (pathOf c) = some e ∧ u.path.write = '/' :: letter :: '|' :: rest ∧
      IsBelow u ('/' :: letter :: ':' :: rest ++ ['/']) (pathOf c).toList e := by
  obtain ⟨letter, rest, hpath, hslash⟩ := exists_withTrailingSlash_of_losesBar htidy hbar
  have hfront : IsTidyFront ([letter, ':'] :: rest ++ [[]]) := fun _ _ => nofun
  obtain ⟨e, he, hbelow⟩ := endpoint?_of_closed (fun _ => hfront) c
  refine ⟨e, letter, (Url.Path.segments rest).write, hslash ▸ he, by rw [hpath]; rfl, ?_⟩
  rw [Url.write_append] at hbelow
  exact hbelow

lemma isBase_of_endpoint (he : endpoint? (withTrailingSlash u) (pathOf c) = some e) : u.IsBase := by
  rw [← isBase_withTrailingSlash]
  by_contra hbase
  have hnone := Url.join?_of_not_isBase (isPlainPath_pathOf c) hbase
  cases hnone.symm.trans he

/-- **Where requests go,** for every text that is accepted as a base URL. Whenever a path can be joined to it, the endpoint
has scheme, user name, password, host and port of what is read of the text, and neither a query nor a fragment. Its path
is that of the base, with one slash added unless it ends in one, and behind it that of the request. The one exception
are files below a drive that is named with a bar: there the slash that is added makes the bar a colon. So a text that
has the slash already leads to this endpoint in any case, and to the same one exactly if there is no such bar. -/
theorem endpoint_below (hu : Url.parse? text = some u) (hbase : baseOf? text = some base)
    (he : endpoint? base (pathOf c) = some e) :
    (¬ LosesBar u → IsBelow u (slashed u.path.write) (pathOf c).toList e) ∧
    (LosesBar u → ∃ letter rest, u.path.write = '/' :: letter :: '|' :: rest ∧
      IsBelow u ('/' :: letter :: ':' :: rest ++ ['/']) (pathOf c).toList e) ∧
    ∀ text' base', OneSlashApart (isSpecial u.scheme) text text' → baseOf? text' = some base' →
      ∃ e', endpoint? base' (pathOf c) = some e' ∧ IsBelow u (slashed u.path.write) (pathOf c).toList e' ∧
        (e' = e ↔ ¬ LosesBar u) := by
  have htidy := Url.isTidy_of_parse hu
  obtain rfl : base = withTrailingSlash u := by
    rw [baseOf?, hu] at hbase
    exact (Option.some.inj hbase).symm
  have hserves := isBase_of_endpoint he
  obtain ⟨meant, hmeant, hbelow⟩ := exists_endpoint_close htidy hserves c
  have hkeeps : ¬ LosesBar u → meant = e := by
    intro hbar
    rw [withTrailingSlash_eq_close htidy hserves hbar, hmeant] at he
    exact Option.some.inj he
  have hloses : LosesBar u → ∃ letter rest, u.path.write = '/' :: letter :: '|' :: rest ∧
      IsBelow u ('/' :: letter :: ':' :: rest ++ ['/']) (pathOf c).toList e := by
    intro hbar
    obtain ⟨_, letter, rest, he', hwrite, hcolon⟩ := exists_endpoint_of_losesBar htidy hbar c
    cases he.symm.trans he'
    exact ⟨letter, rest, hwrite, hcolon⟩
  refine ⟨fun hbar => hkeeps hbar ▸ hbelow, hloses, fun text' base' happart hbase' => ?_⟩
  obtain ⟨v, hv, rfl⟩ := Option.map_eq_some_iff.1 hbase'
  cases Url.eq_close_of_parse hu hv hserves happart
  refine ⟨meant, (withTrailingSlash_close hserves).symm ▸ hmeant, hbelow, fun heq hbar => ?_, hkeeps⟩
  -- the two paths differ in the third character
  obtain ⟨letter, rest, hwrite, hcolon⟩ := hloses hbar
  have hpath := hbelow.path.symm.trans (heq ▸ hcolon.path)
  rw [slashed, if_neg hbar.2.1, hwrite] at hpath
  simp at hpath

/-- A base with user name, password, port, path, query and fragment, and the same base with a slash at the end of its
path. -/
theorem endpoint_below_api :
    ∃ u base e, Url.parse? "http://u:p@h:8081/api?x=1#f" = some u ∧ baseOf? "http://u:p@h:8081/api?x=1#f" = some base ∧
      endpoint? base (pathOf (.removeMember 1 2)) = some e ∧ e.path.write = "/api/FamilyLeader/RemoveUser".toList ∧
      IsBelow u "/api/".toList "FamilyLeader/RemoveUser".toList e ∧
      (baseOf? "http://u:p@h:8081/api/?x=1#f").bind (endpoint? · (pathOf (.removeMember 1 2))) = some e := by
  let u : Url := {
    scheme := "http".toList, username := ['u'], password := ['p'], host := some (.domain ['h']), port := some 8081
    path := .segments ["api".toList], query := some "x=1".toList, fragment := some ['f'] }
  let base : Url := { u with path := .segments ["api".toList, []] }
  let e : Url := {
    u with path := .segments ["api".toList, "FamilyLeader".toList, "RemoveUser".toList], query := none, fragment := none }
  have hu : Url.parse? "http://u:p@h:8081/api?x=1#f" = some u := by decide +kernel
  have hbase : baseOf? "http://u:p@h:8081/api?x=1#f" = some base := by decide +kernel
  have hbase' : baseOf? "http://u:p@h:8081/api/?x=1#f" = some base := by decide +kernel
  have he : endpoint? base (pathOf (.removeMember 1 2)) = some e := by decide +kernel
  have hbar : ¬ LosesBar u := fun h => absurd h.1 (by decide)
  have happart : OneSlashApart (isSpecial u.scheme) "http://u:p@h:8081/api?x=1#f" "http://u:p@h:8081/api/?x=1#f" := by
    have hpath : ("http://u:p@h:8081/api".toList.any Url.endsPath) = false := by decide
    refine ⟨"http://u:p@h:8081/api".toList, "?x=1#f".toList, ⟨by simpa using hpath, ?_⟩, rfl, by decide +kernel,
      by decide +kernel⟩
    intro c hc
    cases hc
    rfl
  obtain ⟨hbelow, -, hslash⟩ := endpoint_below hu hbase he
  obtain ⟨e', he', -, hsame⟩ := hslash _ _ happart hbase'
  refine ⟨u, base, e, hu, hbase, he, rfl, hbelow hbar, ?_⟩
  rw [hbase', ← hsame.2 hbar]
  exact he'

/-- A drive that is named with a bar is named with a colon in the endpoint. -/
theorem bar_becomes_colon :
    ¬ ∀ text u base c e, Url.parse? text = some u → baseOf? text = some base → endpoint? base (pathOf c) = some e →
      e.path.write = slashed u.path.write ++ (pathOf c).toList := by
  intro hkeeps
  let u : Url := { Url.fileUrl with path := .segments ["C|".toList] }
  let base : Url := { Url.fileUrl with path := .segments ["C:".toList, []] }
  let e : Url := { Url.fileUrl with path := .segments ["C:".toList, "FamilyLeader".toList, "RemoveUser".toList] }
  have hu : Url.parse? "file:///C|" = some u := by decide +kernel
  have hbase : baseOf? "file:///C|" = some base := by decide +kernel
  have he : endpoint? base (pathOf (.removeMember 1 2)) = some e := by decide +kernel
  have hpath := hkeeps _ u base (.removeMember 1 2) e hu hbase he
  exact absurd hpath (by decide +kernel)

end Relations.Wire

end Gatehouse
