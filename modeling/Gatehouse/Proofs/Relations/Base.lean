import Gatehouse.Proofs.Url.Read
import Gatehouse.Relations.Wire
import Mathlib.Tactic.Lemma

/-!
# Which base URLs can serve

* `Url.IsBase` — a URL with segments for a path, which is one that paths can be joined to;
* `Url.isBase_of_withScheme` — which texts are read as such a URL;
* `Url.join?_of_isBase`, `Url.join?_of_not_isBase` — what becomes of a path without a scheme that is joined to a URL;
* `Wire.endpoints_exist` — so that the text of a base decides whether requests can be sent at all.
-/

namespace Gatehouse

/-! ## Paths of URLs -/

namespace Url

variable {u base : Url} {scheme text : List Char}

/-- The path of the URL is a list of segments, so that paths can be joined to it. -/
def IsBase (u : Url) : Prop := ∃ segments, u.path = .segments segments

lemma isBase_withPath (u : Url) (start : List (List Char)) (text : List Char) : (u.withPath start text).IsBase :=
  ⟨_, withTail_path _ _⟩

lemma IsBase.withPathStart (h : u.IsBase) (text : List Char) : (u.withPathStart text).IsBase := by
  unfold Url.withPathStart
  dsimp only
  split
  · rw [IsBase, withTail_path]
    exact h
  · exact isBase_withPath _ _ _

/-! ## Reading -/

lemma isBase_of_authority (h : authority? scheme text = some u) : u.IsBase := by
  obtain ⟨url, behind, -, hpath, rfl⟩ := exists_of_authority_self h
  exact IsBase.withPathStart ⟨[], hpath⟩ behind

lemma isBase_of_file (h : file? none text = some u) : u.IsBase := by
  obtain ⟨url, path, -, rfl⟩ := exists_of_file h
  exact isBase_withPath url [] path

/-- Behind a scheme that is not special, a slash makes a path of segments. -/
lemma isBase_of_ordinary (h : ordinary? scheme text = some u) : u.IsBase ↔ text.head? = some '/' := by
  unfold ordinary? at h
  dsimp only at h
  split at h
  · exact iff_of_true (isBase_of_authority h) rfl
  · cases h
    exact iff_of_true (isBase_withPath _ _ _) rfl
  · next hslashes hslash =>
    cases h
    refine iff_of_false ?_ ?_
    · rintro ⟨segments, hpath⟩
      rw [withTail_path] at hpath
      cases hpath
    · intro hhead
      cases text with
      | nil => cases hhead
      | cons c rest =>
        cases hhead
        exact hslash rest rfl

/-- **A URL that stands by itself** has a path of segments exactly if its scheme is special or a slash follows it. -/
theorem isBase_of_withScheme (h : withScheme? none scheme text = some u) :
    u.IsBase ↔ isSpecial scheme = true ∨ text.head? = some '/' := by
  unfold withScheme? at h
  dsimp only at h
  split at h
  · next hfile => exact iff_of_true (isBase_of_file h) (.inl (isSpecial_of_isFile hfile))
  · split at h
    · next hspecial => exact iff_of_true (isBase_of_authority h) (.inl hspecial)
    · next hspecial =>
      rw [isBase_of_ordinary h]
      exact ⟨.inr, fun hor => hor.resolve_left hspecial⟩

/-! ## Joining -/

/-- A text that is a path and nothing else: without a scheme, and with neither a slash nor a fragment in front. -/
structure IsPlainPath (path : String) : Prop where
  noScheme : cutScheme (tidy path.toList) = none
  head : ∃ c rest, tidy path.toList = c :: rest ∧ isSlash true c = false ∧ c ≠ '#'

variable {path : String}

lemma exists_relative_plain (base : Url) {c : Char} (hc : isSlash true c = false) (rest : List Char) :
    ∃ u, relative? base (c :: rest) = some u := by
  unfold relative?
  dsimp only
  split
  · exact ⟨_, rfl⟩
  · exact ⟨_, rfl⟩
  · exact ⟨_, rfl⟩
  · next d behind _ _ heq =>
    cases heq
    rw [if_pos (by simp [hc])]
    exact ⟨_, rfl⟩

theorem join?_of_isBase (h : IsPlainPath path) (hbase : base.IsBase) : ∃ u, base.join? path = some u := by
  obtain ⟨c, rest, htext, hc, -⟩ := h.head
  obtain ⟨segments, hsegments⟩ := hbase
  unfold join?
  dsimp only
  rw [h.noScheme, htext]
  simp only [withoutScheme?, hsegments]
  split
  · exact ⟨_, file?_plain base hc rest⟩
  · exact exists_relative_plain base hc rest

theorem join?_of_not_isBase (h : IsPlainPath path) (hbase : ¬ base.IsBase) : base.join? path = none := by
  obtain ⟨c, rest, htext, -, hc⟩ := h.head
  unfold join?
  dsimp only
  rw [h.noScheme, htext]
  cases hpath : base.path with
  | segments list => exact absurd ⟨list, hpath⟩ hbase
  | plain text =>
    simp only [withoutScheme?, hpath]
    split
    · next heq => cases heq; exact absurd rfl hc
    · rfl

end Url

/-! ## Endpoints -/

namespace Relations.Wire

open Url (IsBase IsPlainPath)

variable {text : String} {base : Url}

/-- Base URLs that requests can be sent to, by their text: their scheme is one of those with hosts, or a slash follows
it. -/
def CanServe (text : String) : Prop :=
  ∃ scheme rest, Url.cutScheme (Url.tidy text.toList) = some (scheme, rest) ∧
    (Url.isSpecial scheme = true ∨ rest.head? = some '/')

lemma isBase_withTrailingSlash (u : Url) : (withTrailingSlash u).IsBase ↔ u.IsBase := by
  unfold withTrailingSlash IsBase
  cases hpath : u.path with
  | segments list => dsimp only; split <;> simp [hpath]
  | plain text =>
    dsimp only
    split
    · simp [hpath]
    · split <;> simp

/-- The text of a base decides which kind of path it has. -/
theorem isBase_of_baseOf (h : baseOf? text = some base) : base.IsBase ↔ CanServe text := by
  obtain ⟨u, hu, rfl⟩ := Option.map_eq_some_iff.1 h
  obtain ⟨⟨scheme, rest⟩, hcut, hread⟩ := Option.bind_eq_some_iff.1 hu
  rw [isBase_withTrailingSlash, Url.isBase_of_withScheme hread, CanServe]
  constructor
  · intro hserves
    exact ⟨scheme, rest, hcut, hserves⟩
  · rintro ⟨scheme', rest', hcut', hserves⟩
    cases hcut.symm.trans hcut'
    exact hserves

lemma isPlainPath_pathOf (c : Call) : IsPlainPath (pathOf c) := by
  cases c with
  | removeMember userId familyId =>
    show IsPlainPath "FamilyLeader/RemoveUser"
    exact ⟨by decide +kernel, 'F', "amilyLeader/RemoveUser".toList, by decide +kernel⟩
  | deleteInvites userId =>
    show IsPlainPath "Invite/DeleteUserInvites"
    exact ⟨by decide +kernel, 'I', "nvite/DeleteUserInvites".toList, by decide +kernel⟩

/-- **Which base URLs can serve,** of all texts that are accepted as one. If the scheme is one of those with hosts, or a
slash follows it, there is an endpoint for every request. Otherwise the text is accepted all the same, but there is none
for any request: each ends as if the other side were in trouble, and nothing is sent. -/
theorem endpoints_exist (h : baseOf? text = some base) :
    (CanServe text → ∀ c, ∃ url, endpoint? base (pathOf c) = some url) ∧
    (¬ CanServe text → ∀ c, endpoint? base (pathOf c) = none ∧
      ∀ (π : Type) (peer : Peer π) state, ∃ detail,
        client base peer c state = (.error (.unavailable detail), state)) := by
  rw [← isBase_of_baseOf h]
  constructor
  · intro hbase c
    exact Url.join?_of_isBase (isPlainPath_pathOf c) hbase
  · intro hbase c
    have hnone : endpoint? base (pathOf c) = none := Url.join?_of_not_isBase (isPlainPath_pathOf c) hbase
    refine ⟨hnone, fun π peer state => ⟨"relative URL with a cannot-be-a-base base", ?_⟩⟩
    rw [client, hnone]

/-- The address of this host is a base that serves, and a request to it is joined to its path. -/
theorem endpoints_exist_http :
    ∃ base, baseOf? "http://127.0.0.1:8081/api" = some base ∧ ∀ c, ∃ url, endpoint? base (pathOf c) = some url := by
  obtain ⟨base, hbase⟩ : ∃ base, baseOf? "http://127.0.0.1:8081/api" = some base :=
    Option.isSome_iff_exists.1 (by decide +kernel)
  have hserves : CanServe "http://127.0.0.1:8081/api" :=
    ⟨"http".toList, "//127.0.0.1:8081/api".toList, by decide +kernel, .inl rfl⟩
  exact ⟨base, hbase, (endpoints_exist hbase).1 hserves⟩

/-- A host and a port without a scheme in front are accepted as a base, and there is no endpoint for any request. -/
theorem host_and_port_cannot_serve :
    ¬ ∀ text base, baseOf? text = some base → ∀ c, ∃ url, endpoint? base (pathOf c) = some url := by
  intro hserves
  obtain ⟨base, hbase, hnone⟩ : ∃ base, baseOf? "localhost:8081" = some base ∧
      endpoint? base "FamilyLeader/RemoveUser" = none := ⟨_, rfl, by decide +kernel⟩
  obtain ⟨url, hurl⟩ := hserves _ base hbase (.removeMember 1 2)
  cases hnone.symm.trans hurl

end Relations.Wire

end Gatehouse
