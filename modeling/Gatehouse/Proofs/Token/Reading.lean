import Gatehouse.Proofs.Json.Fields
import Gatehouse.Token.Claims
import Gatehouse.Token.Header

/-!
# What headers and payloads say

The header and the payload of a token as JSON, apart from the readers, and what the readers take for them.

* `NamesAlgorithm`, `header_sound` — **a header that is read names its algorithm;**
* `States`, `claims_sound` — **a payload that is good for both readings of it is an object that states its claims;**
* `conditions_ne_ok_of_list` — a payload in the form of a list is good for one reading at most.
-/

namespace Gatehouse.Token

open Json
open Json.Reader (IsSound bind_ok_iff pure_ok_iff throw_ok_iff)

/-! ## Headers -/

/-- The names of the algorithms that are accepted, each with its hash function. -/
def acceptedNames : List (String × Digest.Sha2.Variant) :=
  [("HS256", Digest.Sha2.sha256), ("HS384", Digest.Sha2.sha384), ("HS512", Digest.Sha2.sha512)]

/-- A header names an algorithm: under `alg` in an object, or as the second of ten items of a list. -/
def NamesAlgorithm (t : Tree) (name : String) : Prop :=
  ∃ v : Tree, v.Names name ∧ ((∃ ms, t = .object ms ∧ Holds ms "alg" v) ∨
    ∃ items, t = .list items ∧ items.length = 10 ∧ items[1]? = some v)

lemma NamesAlgorithm.unique {t : Tree} {name name' : String} (h : NamesAlgorithm t name)
    (h' : NamesAlgorithm t name') : name = name' := by
  obtain ⟨v, hv, ⟨ms, rfl, hms⟩ | ⟨items, rfl, -, hitem⟩⟩ := h
  · obtain ⟨v', hv', ⟨_, he, hms'⟩ | ⟨_, he, -⟩⟩ := h'
    · cases he
      cases hms.unique hms'
      exact hv.unique hv'
    · cases he
  · obtain ⟨v', hv', ⟨_, he, -⟩ | ⟨_, he, -, hitem'⟩⟩ := h'
    · cases he
    · cases he
      cases hitem.symm.trans hitem'
      exact hv.unique hv'

lemma mem_acceptedNames {name : String} {algorithm : Algorithm} {hash : Digest.Sha2.Variant}
    (hname : Algorithm.ofName? name = some algorithm) (hhash : algorithm.hash? = some hash) :
    (name, hash) ∈ acceptedNames := by
  unfold Algorithm.ofName? at hname
  split at hname
  · cases hname; cases hhash; exact .head _
  · cases hname; cases hhash; exact .tail _ (.head _)
  · cases hname; cases hhash; exact .tail _ (.tail _ (.head _))
  · split at hname
    · cases hname; cases hhash
    · cases hname

lemma isSound_formOnly {α : Type} {key : String} {value : Reader α} {P : α → Tree → Prop} (h : IsSound value P)
    (header : Header) : IsSound ((Header.formOnly key value).read header) fun _ _ => True := by
  intro text rest header' hr
  obtain ⟨a, mid, hvalue, hput⟩ := bind_ok_iff.1 hr
  obtain ⟨-, rfl⟩ := pure_ok_iff.1 hput
  obtain ⟨t, ht, -⟩ := Reader.isSound_nullable h hvalue
  exact ⟨t, ht, trivial⟩

lemma isSound_key : IsSound Key.read fun _ _ => True := by
  intro text rest u h
  obtain ⟨members, mid, hpairs, h⟩ := bind_ok_iff.1 h
  obtain ⟨t, ht, -⟩ := Reader.isSound_pairsOf (Reader.isSound_value _) hpairs
  split at h
  · obtain ⟨-, rfl⟩ := pure_ok_iff.1 h
    exact ⟨t, ht, trivial⟩
  · exact (throw_ok_iff.1 h).elim

lemma treats_formOnly {α : Type} {key : String} {value : Reader α} {P : Algorithm → Tree → Prop} (hk : key ≠ "alg") :
    Treats (Header.formOnly key value) "alg" Header.algorithm P where
  isSet := fun he => absurd he hk
  sets := fun he => absurd he hk
  keeps := by
    rintro - header t header' ⟨text, rest, hr, -⟩
    obtain ⟨_, _, -, hput⟩ := bind_ok_iff.1 hr
    obtain ⟨rfl, -⟩ := pure_ok_iff.1 hput
    rfl

abbrev algorithmMember : Member Header :=
  .field "alg" .required Header.algorithm (fun a h => { h with algorithm := some a })
    (Reader.variant Algorithm.ofName?)

lemma forall_header_members {Q : Member Header → Prop} (halg : Q algorithmMember)
    (hform : ∀ {α : Type} {key : String} {value : Reader α} {P : α → Tree → Prop}, key ≠ "alg" → IsSound value P →
      Q (Header.formOnly key value)) : ∀ m ∈ Header.members, Q m := by
  have hstring {key : String} (hk : key ≠ "alg") := hform hk Reader.isSound_string
  have hlist : Q (Header.formOnly "x5c" _) := hform (by decide) (Reader.isSound_listOf Reader.isSound_string)
  have hkey : Q (Header.formOnly "jwk" _) := hform (by decide) isSound_key
  simp only [Header.members, List.forall_mem_cons, List.not_mem_nil, false_implies, implies_true, and_true]
  exact ⟨hstring (by decide), halg, hstring (by decide), hstring (by decide), hkey, hstring (by decide),
    hstring (by decide), hlist, hstring (by decide), hstring (by decide)⟩

lemma allSound_header : AllSound Header.members :=
  forall_header_members (isSound_field Reader.isSound_variant) fun _ h => isSound_formOnly h

lemma belongs_algorithm : Belongs Header.members "alg" Header.algorithm
    fun a t => ∃ name, Algorithm.ofName? name = some a ∧ t.Names name :=
  forall_header_members (treats_field Reader.isSound_variant fun _ _ => rfl) fun hk _ => treats_formOnly hk

/-- **A header that is read names its algorithm.** -/
theorem header_sound {text : Bytes} {algorithm : Algorithm} (h : readAll Header.read text = .ok algorithm) :
    ∃ t name, IsText text t ∧ NamesAlgorithm t name ∧ Algorithm.ofName? name = some algorithm := by
  have hread : IsSound Header.read fun a t => ∃ name, NamesAlgorithm t name ∧ Algorithm.ofName? name = some a := by
    intro text rest a hr
    obtain ⟨header, mid, hrecord, hr⟩ := bind_ok_iff.1 hr
    obtain ⟨t, ht, hform⟩ := isSound_record allSound_header {} hrecord
    cases halg : header.algorithm with
    | none =>
      rw [halg] at hr
      exact (throw_ok_iff.1 hr).elim
    | some a' =>
      rw [halg] at hr
      obtain ⟨rfl, rfl⟩ := pure_ok_iff.1 hr
      rcases hform with ⟨ms, rfl, hfolds⟩ | ⟨items, rfl, hplaces⟩
      · obtain ⟨v, hv, name, hname, hnames⟩ :=
          hfolds.field belongs_algorithm ⟨algorithmMember, .tail _ (.head _), rfl⟩ rfl halg
        exact ⟨_, ht, name, ⟨v, hnames, .inl ⟨ms, rfl, hv⟩⟩, hname⟩
      · obtain ⟨v, hv, name, hname, hnames⟩ := hplaces.field belongs_algorithm (by decide) rfl halg
        have hlength := hplaces.length (forall_header_members (by decide) fun _ _ => Presence.noConfusion)
        exact ⟨_, ht, name, ⟨v, hnames, .inr ⟨items, rfl, hlength, hv⟩⟩, hname⟩
  obtain ⟨t, ht, name, hnames, hname⟩ := hread.readAll h
  exact ⟨t, name, ht, hnames, hname⟩

/-! ## Payloads -/

/-- A payload is an object that states claims: under `sub` and `email` strings, under `role` the name of the role,
and under `exp` the second of expiry. -/
def States (t : Tree) (c : Claims) : Prop :=
  ∃ ms, t = .object ms ∧
    (∃ v, Holds ms "sub" v ∧ v.IsString c.subject) ∧ (∃ v, Holds ms "email" v ∧ v.IsString c.email) ∧
    (∃ v, Holds ms "role" v ∧ v.Names c.role.name) ∧ (∃ v, Holds ms "exp" v ∧ v.IsNatural c.expiry)

lemma forall_claims_members {Q : Member Claims.Draft → Prop}
    (hsub : Q (.field "sub" .required Claims.Draft.subject (fun s d => { d with subject := some s }) Reader.string))
    (hemail : Q (.field "email" .required Claims.Draft.email (fun s d => { d with email := some s }) Reader.string))
    (hrole : Q (.field "role" .required Claims.Draft.role (fun r d => { d with role := some r })
      (Reader.variant Role.ofName?)))
    (hexp : Q (.field "exp" .required Claims.Draft.expiry (fun n d => { d with expiry := some n }) Reader.natWord)) :
    ∀ m ∈ Claims.members, Q m := by
  simp only [Claims.members, List.forall_mem_cons, List.not_mem_nil, false_implies, implies_true, and_true]
  exact ⟨hsub, hemail, hrole, hexp⟩

lemma allSound_claims : AllSound Claims.members :=
  forall_claims_members (isSound_field Reader.isSound_string) (isSound_field Reader.isSound_string)
    (isSound_field Reader.isSound_variant) (isSound_field Reader.isSound_natWord)

lemma belongs_subject : Belongs Claims.members "sub" Claims.Draft.subject fun s t => t.IsString s :=
  forall_claims_members (treats_field Reader.isSound_string fun _ _ => rfl) (treats_other (by decide) fun _ _ => rfl)
    (treats_other (by decide) fun _ _ => rfl) (treats_other (by decide) fun _ _ => rfl)

lemma belongs_email : Belongs Claims.members "email" Claims.Draft.email fun s t => t.IsString s :=
  forall_claims_members (treats_other (by decide) fun _ _ => rfl) (treats_field Reader.isSound_string fun _ _ => rfl)
    (treats_other (by decide) fun _ _ => rfl) (treats_other (by decide) fun _ _ => rfl)

lemma belongs_role : Belongs Claims.members "role" Claims.Draft.role
    fun r t => ∃ name, Role.ofName? name = some r ∧ t.Names name :=
  forall_claims_members (treats_other (by decide) fun _ _ => rfl) (treats_other (by decide) fun _ _ => rfl)
    (treats_field Reader.isSound_variant fun _ _ => rfl) (treats_other (by decide) fun _ _ => rfl)

lemma belongs_expiry : Belongs Claims.members "exp" Claims.Draft.expiry fun n t => t.IsNatural n :=
  forall_claims_members (treats_other (by decide) fun _ _ => rfl) (treats_other (by decide) fun _ _ => rfl)
    (treats_other (by decide) fun _ _ => rfl) (treats_field Reader.isSound_natWord fun _ _ => rfl)

lemma ofDraft?_eq_some {draft : Claims.Draft} {c : Claims} (h : Claims.ofDraft? draft = some c) :
    draft.subject = some c.subject ∧ draft.email = some c.email ∧ draft.role = some c.role ∧
      draft.expiry = some c.expiry := by
  simp only [Claims.ofDraft?, Option.bind_eq_bind, Option.bind_eq_some_iff, Option.pure_def, Option.some.injEq] at h
  obtain ⟨_, hs, _, he, _, hr, _, hx, rfl⟩ := h
  exact ⟨hs, he, hr, hx⟩

lemma claims_read_ok {text rest : Bytes} {c : Claims} (h : Claims.read text = (.ok c, rest)) :
    ∃ draft, Record.read Claims.members {} text = (.ok draft, rest) ∧ Claims.ofDraft? draft = some c := by
  obtain ⟨draft, mid, hrecord, h⟩ := bind_ok_iff.1 h
  cases hdraft : Claims.ofDraft? draft with
  | none =>
    rw [hdraft] at h
    exact (throw_ok_iff.1 h).elim
  | some c' =>
    rw [hdraft] at h
    obtain ⟨rfl, rfl⟩ := pure_ok_iff.1 h
    exact ⟨draft, hrecord, hdraft⟩

/-- A payload whose claims are read is an object that states them, or a list. -/
lemma isSound_claims : IsSound Claims.read fun c t => States t c ∨ ∃ items, t = .list items := by
  intro text rest c h
  obtain ⟨draft, hrecord, hdraft⟩ := claims_read_ok h
  obtain ⟨hs, he, hr, hx⟩ := ofDraft?_eq_some hdraft
  obtain ⟨t, ht, ⟨ms, rfl, hms⟩ | ⟨items, rfl, -⟩⟩ := isSound_record allSound_claims {} hrecord
  · obtain ⟨sub, hsub, hsubject⟩ := hms.field belongs_subject ⟨_, .head _, rfl⟩ rfl hs
    obtain ⟨email, hemail, haddress⟩ := hms.field belongs_email ⟨_, .tail _ (.head _), rfl⟩ rfl he
    obtain ⟨role, hrole, name, hname, hnames⟩ := hms.field belongs_role ⟨_, .tail _ (.tail _ (.head _)), rfl⟩ rfl hr
    obtain ⟨exp, hexp, hexpiry⟩ :=
      hms.field belongs_expiry ⟨_, .tail _ (.tail _ (.tail _ (.head _))), rfl⟩ rfl hx
    rw [Role.ofName?_eq_some_iff.1 hname] at hnames
    exact ⟨_, ht, .inl ⟨ms, rfl, ⟨sub, hsub, hsubject⟩, ⟨email, hemail, haddress⟩, ⟨role, hrole, hnames⟩,
      ⟨exp, hexp, hexpiry⟩⟩⟩
  · exact ⟨_, ht, .inr ⟨items, rfl⟩⟩

/-! ### Payloads that are lists

The claims of a list are its four items, and the conditions ask for five. Where a condition is not of the kind that
is expected, reading goes on where it stopped, so the two readings have to be followed item by item. -/

section List

variable {δ : Type} {m : Member δ} {members : List (Member δ)} {isFirst : Bool} {draft draft' last : δ}
  {text mid rest : Bytes}

lemma positions_field_ok {α : Type} {key : String} {get : δ → Option α} {put : α → δ → δ} {value : Reader α}
    (h : Record.positions (.field key .required get put value :: members) isFirst draft text = (.ok last, rest)) :
    ∃ a item mid, Reader.hasItem isFirst text = (.ok true, item) ∧ value item = (.ok a, mid) ∧
      Record.positions members false (put a draft) mid = (.ok last, rest) := by
  rw [Record.positions, bind_ok_iff] at h
  obtain ⟨more, item, hmore, h⟩ := h
  cases more with
  | true =>
    obtain ⟨_, mid, hread, htail⟩ := bind_ok_iff.1 h
    obtain ⟨a, _, hvalue, hput⟩ := bind_ok_iff.1 hread
    obtain ⟨rfl, rfl⟩ := pure_ok_iff.1 hput
    exact ⟨a, item, _, hmore, hvalue, htail⟩
  | false =>
    rw [if_neg Bool.false_ne_true] at h
    exact (throw_ok_iff.1 h).elim

lemma positions_item {item : Bytes} (hmore : Reader.hasItem isFirst text = (.ok true, item))
    (hread : m.read draft item = (.ok draft', mid)) :
    Record.positions (m :: members) isFirst draft text = Record.positions members false draft' mid := by
  rw [Record.positions, Reader.bind_ok hmore, if_pos rfl, Reader.bind_ok hread]

/-- A member that is only noted takes what its reader takes, also where that fails. -/
lemma noted_read {α : Type} {key : String} {presence : Presence} {value : Reader α} (c : Conditions)
    (h : (value text).2 = rest) : ∃ c', (Conditions.noted key presence value).read c text = (.ok c', rest) := by
  refine ⟨{ c with seen := key :: c.seen }, ?_⟩
  have hattempt : attempt value text = (.ok (value text).1.toOption, rest) := by
    unfold attempt
    rcases hv : value text with ⟨e | a, left⟩ <;> rw [hv] at h <;> cases h <;> rfl
  exact (Reader.bind_ok hattempt _).trans rfl

lemma string_ok {s : String} (h : Reader.string text = (.ok s, rest)) :
    (behindBlanks text).head? = some 34 ∧ stringTail (behindBlanks text).tail = (.ok s, rest) := by
  rw [Reader.string, peek_bind] at h
  split at h
  · exact ⟨‹_›, h⟩
  · exact (Reader.refuse_ne_ok h).elim

lemma numeric_of_string {s : String} (h : Reader.string text = (.ok s, rest)) : (Conditions.numeric text).2 = rest := by
  obtain ⟨hhead, htail⟩ := string_ok h
  have hdigit : ¬ isDigit 34 = true := by decide
  have hliteral : ¬ startsLiteral 34 = true := by decide
  have hrefuse : (Reader.refuse : Reader Number) (behindBlanks text) = (.error .mismatch, rest) := by
    rw [Reader.refuse, peekByte_bind, hhead]
    dsimp only
    rw [if_neg hliteral, if_neg (by decide), if_neg hdigit, if_pos rfl, advance_bind, Reader.bind_ok htail]
    rfl
  rw [Conditions.numeric, peek_bind, hhead, if_neg (by decide), if_neg (by decide), Reader.anyNumber, peek_bind,
    behindBlanks_idem, hhead, if_neg (by decide), if_neg (by simpa using hdigit), hrefuse]

lemma value_of_natWord {n nesting : Nat} (h : Reader.natWord text = (.ok n, rest)) :
    (Reader.value (nesting + 1) text).2 = rest := by
  rw [Reader.natWord, bind_ok_iff] at h
  obtain ⟨k, mid, hk, h⟩ := h
  have hmid : mid = rest := by
    cases k with
    | natural _ => exact (pure_ok_iff.1 h).2
    | negative _ => exact (throw_ok_iff.1 h).elim
    | real => exact (throw_ok_iff.1 h).elim
  rw [hmid, Reader.anyNumber, peek_bind] at hk
  rw [Reader.value, peek_bind]
  split at hk
  · rename_i hminus
    rw [advance_bind] at hk
    have hliteral : ¬ startsLiteral 45 = true := by decide
    rw [hminus, if_neg (by decide), if_neg (by decide), Reader.scalar, peekByte_bind, hminus]
    dsimp only
    rw [if_neg (by decide), if_neg hliteral, if_pos rfl, advance_bind, Reader.bind_ok hk]
    rfl
  · split at hk
    · rename_i hany
      obtain ⟨b, hb, hdigit⟩ := (Option.any_eq_true _ _).1 hany
      have hne {other : UInt8} (ho : isDigit other = false) : b ≠ other := by
        rintro rfl
        rw [hdigit] at ho
        cases ho
      have hliteral : ¬ startsLiteral b = true := by
        simp [startsLiteral, hne (show isDigit 110 = false from rfl), hne (show isDigit 116 = false from rfl),
          hne (show isDigit 102 = false from rfl)]
      rw [hb, if_neg fun he => hne rfl (Option.some.inj he), if_neg fun he => hne rfl (Option.some.inj he),
        Reader.scalar, peekByte_bind, hb]
      dsimp only
      rw [if_neg (hne rfl), if_neg hliteral, if_neg (hne rfl), if_pos hdigit, Reader.bind_ok hk]
      rfl
    · exact (Reader.refuse_ne_ok hk).elim

/-- Where a string or `null` is wanted, a name is taken as a string; a name in the form of an object is refused and
left where it stands. -/
lemma nullable_of_variant {α : Type} {ofName? : String → Option α} {a : α}
    (h : Reader.variant ofName? text = (.ok a, rest)) :
    (Reader.nullable Reader.string text).2 = rest ∨
      ((Reader.nullable Reader.string text).2 = behindBlanks text ∧ (behindBlanks text).head? = some 123) := by
  rw [Reader.variant, peek_bind] at h
  rw [Reader.nullable, peek_bind]
  split at h
  · rename_i hbrace
    refine .inr ⟨?_, hbrace⟩
    have hdigit : ¬ isDigit 123 = true := by decide
    have hliteral : ¬ startsLiteral 123 = true := by decide
    have hrefuse : Reader.string (behindBlanks text) = (.error .mismatch, behindBlanks text) := by
      rw [Reader.string, peek_bind, behindBlanks_idem, hbrace, if_neg (by decide), Reader.refuse, peekByte_bind, hbrace]
      dsimp only
      rw [if_neg hliteral, if_neg (by decide), if_neg hdigit, if_neg (by decide), if_pos (by decide)]
      rfl
    rw [hbrace, if_neg (by decide), Reader.bind_eq, hrefuse]
    rfl
  · split at h
    · rename_i hquote
      obtain ⟨name, mid, hname, h⟩ := bind_ok_iff.1 h
      have hmid : mid = rest := by
        cases ha : ofName? name with
        | none =>
          rw [ha] at h
          exact (throw_ok_iff.1 h).elim
        | some a' =>
          rw [ha] at h
          exact (pure_ok_iff.1 h).2
      rw [hquote, if_neg (by decide), Reader.bind_ok hname]
      exact .inl hmid
    · exact (throw_ok_iff.1 h).elim

lemma hasItem_of_brace (h : (behindBlanks text).head? = some 123) {more : Bool} :
    Reader.hasItem false (behindBlanks text) ≠ (.ok more, rest) := by
  intro hmore
  rw [Reader.hasItem, peek_bind, behindBlanks_idem, h] at hmore
  dsimp only at hmore
  rw [if_neg (by decide), if_neg Bool.false_ne_true, if_neg (by decide)] at hmore
  exact throw_ok_iff.1 hmore

/-- **No payload in the form of a list is good for both readings of it.** -/
theorem conditions_ne_ok_of_list {c : Claims} {conditions : Conditions} {left : Bytes}
    (hlist : (behindBlanks text).head? = some 91) (hclaims : Claims.read text = (.ok c, rest)) :
    Conditions.read text ≠ (.ok conditions, left) := by
  intro hconditions
  obtain ⟨draft, hrecord, -⟩ := claims_read_ok hclaims
  rw [Record.read, peek_bind, hlist, if_neg (by decide), if_pos rfl, advance_bind] at hrecord
  obtain ⟨_, hpositions, hend⟩ := Reader.closedBy_eq_ok hrecord
  rw [Conditions.read, Record.read, peek_bind, hlist, if_neg (by decide), if_pos rfl, advance_bind] at hconditions
  obtain ⟨_, hseen, -⟩ := Reader.closedBy_eq_ok hconditions
  obtain ⟨_, _, _, hmore₁, hsub, hpositions⟩ := positions_field_ok hpositions
  obtain ⟨_, _, _, hmore₂, hemail, hpositions⟩ := positions_field_ok hpositions
  obtain ⟨_, _, _, hmore₃, hrole, hpositions⟩ := positions_field_ok hpositions
  obtain ⟨_, _, _, hmore₄, hexp, hpositions⟩ := positions_field_ok hpositions
  obtain ⟨-, rfl⟩ := pure_ok_iff.1 hpositions
  -- the subject and the email address stand in the places of two numbers
  obtain ⟨_, h₁⟩ := noted_read {} (numeric_of_string hsub)
  rw [Conditions.members, positions_item hmore₁ h₁] at hseen
  obtain ⟨_, h₂⟩ := noted_read _ (numeric_of_string hemail)
  rw [positions_item hmore₂ h₂] at hseen
  -- the role stands in the place of the subject
  rcases nullable_of_variant hrole with hname | ⟨hname, hbrace⟩
  · obtain ⟨_, h₃⟩ := noted_read _ hname
    rw [positions_item hmore₃ h₃] at hseen
    have hvalue : (Reader.value (maxNesting - 1) _).2 = _ := value_of_natWord hexp
    obtain ⟨_, h₄⟩ := noted_read _ hvalue
    rw [positions_item hmore₄ h₄, Record.positions, bind_ok_iff] at hseen
    -- nothing stands in the place of the audience
    obtain ⟨_, _, hmore, hseen⟩ := hseen
    rcases Reader.hasItem_ok hmore with ⟨rfl, -, -⟩ | ⟨-, parted, hparted, -⟩
    · rw [if_neg Bool.false_ne_true, if_neg (by decide)] at hseen
      exact throw_ok_iff.1 hseen
    · cases hparted.symm.trans (Reader.endList_ok hend)
  · obtain ⟨_, h₃⟩ := noted_read _ hname
    rw [positions_item hmore₃ h₃, Record.positions, bind_ok_iff] at hseen
    obtain ⟨_, _, hmore, -⟩ := hseen
    exact hasItem_of_brace hbrace hmore

end List

/-- **A payload that is good for both readings is an object that states its claims.** -/
theorem claims_sound {payload : Bytes} {c : Claims} {conditions : Conditions}
    (hclaims : readAll Claims.read payload = .ok c) (hconditions : readAll Conditions.read payload = .ok conditions) :
    ∃ t, IsText payload t ∧ States t c := by
  obtain ⟨t, ht, hstates | ⟨items, rfl⟩⟩ := isSound_claims.readAll hclaims
  · exact ⟨t, ht, hstates⟩
  · obtain ⟨_, hlist, -⟩ := ht
    obtain ⟨_, hread, -⟩ := Reader.exists_of_readAll hclaims
    obtain ⟨_, hread', -⟩ := Reader.exists_of_readAll hconditions
    cases hlist with
    | list he _ => exact (conditions_ne_ok_of_list (by rw [he]; rfl) hread hread').elim

end Gatehouse.Token
