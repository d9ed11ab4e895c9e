import Gatehouse.Phc
import Gatehouse.Proofs.Base64
import Gatehouse.Proofs.Text.Integer
import Mathlib.Data.Option.Basic

/-!
# Hashes as text, both ways

* `Phc.WellFormed` — what the parts of a hash have to be for its text to be one;
* `version?_eq_some_iff`, `params?_eq_some_iff`, `output?_eq_some_iff` — the fields, one by one: each is read exactly
  from what is written for it;
* `takeVersion_eq_some_iff`, `takeParams_eq_some_iff` — the two fields that may be missing, in front of others;
* `parse?_eq_some_iff` — a text is read as a hash exactly if the hash is well-formed and the text is what is written for
  it.
-/

namespace Gatehouse.Phc

/-! ## Characters -/

lemma not_mem_of_isName {cs : List Char} (h : isName cs = true) {c : Char} (hc : isNameChar c = false) : c ∉ cs := by
  intro hm
  simp only [isName, Bool.and_eq_true, List.all_eq_true] at h
  exact absurd (h.2 c hm) (by simp [hc])

lemma not_mem_of_isValue {cs : List Char} (h : isValue cs = true) {c : Char} (hc : isValueChar c = false) :
    c ∉ cs := by
  intro hm
  simp only [isValue, Bool.and_eq_true, List.all_eq_true] at h
  exact absurd (h.2 c hm) (by simp [hc])

lemma isValueChar_of_isDigit {c : Char} (hc : c.isDigit = true) : isValueChar c = true := by
  obtain ⟨hlow, hhigh⟩ : 48 ≤ c.val ∧ c.val ≤ 57 := by simpa [Char.isDigit] using hc
  have hbounds : '0' ≤ c ∧ c ≤ '9' := ⟨hlow, hhigh⟩
  simp [isValueChar, hbounds]

lemma digit_isValueChar : ∀ n < 64, isValueChar (Base64.standard.digit n) = true := by decide +kernel

lemma not_mem_encode (bytes : Bytes) {c : Char} (hc : isValueChar c = false) :
    c ∉ Base64.encode Base64.standard bytes := by
  intro hm
  have hvalue := Base64.forall_mem_encode (P := (isValueChar · = true)) digit_isValueChar bytes c hm
  exact absurd hvalue (by simp [hc])

/-! ## Numbers and versions -/

lemma decimal?_eq_some_iff {cs : List Char} {n : Nat} :
    decimal? cs = some n ↔ cs = Nat.toDigits 10 n ∧ n < 0x100000000 := by
  constructor
  · intro h
    obtain ⟨hzero, h⟩ := Option.ite_none_left_eq_some.1 h
    obtain ⟨hdigits, hlt⟩ := Option.filter_eq_some_iff.1 h
    exact ⟨(Text.toDigits_of_digits? hdigits hzero).symm, by simpa using hlt⟩
  · rintro ⟨rfl, hlt⟩
    have hzero : ¬ ((Nat.toDigits 10 n).head? = some '0' ∧ 1 < (Nat.toDigits 10 n).length) := by
      rintro ⟨hhead, hlen⟩
      rcases Nat.eq_zero_or_pos n with rfl | hn
      · exact absurd hlen (by decide)
      · exact Text.head?_toDigits_ne_zero hn hhead
    rw [decimal?, if_neg hzero, Text.digits?_toDigits, Option.filter_some, if_pos (by simpa using hlt)]

lemma isValue_toDigits {n : Nat} (h : n < 0x100000000) : isValue (Nat.toDigits 10 n) = true := by
  have hlen : (Nat.toDigits 10 n).length ≤ 64 :=
    (Nat.length_toDigits_le_iff (by decide) (by decide)).2 (Nat.lt_trans h (by decide))
  have hall : (Nat.toDigits 10 n).all isValueChar = true :=
    List.all_eq_true.2 fun c hc => isValueChar_of_isDigit (Text.isDigit_of_mem_toDigits hc)
  simp [isValue, hlen, hall]

/-- **A version** is written in decimal. -/
theorem version?_eq_some_iff {cs : List Char} {n : Nat} :
    version? cs = some n ↔ cs = Nat.toDigits 10 n ∧ n < 0x100000000 := by
  unfold version?
  constructor
  · intro h
    obtain ⟨-, h⟩ := Option.ite_none_right_eq_some.1 h
    exact decimal?_eq_some_iff.1 h
  · rintro ⟨rfl, hlt⟩
    rw [if_pos (isValue_toDigits hlt)]
    exact decimal?_eq_some_iff.2 ⟨rfl, hlt⟩

/-! ## Parameters -/

def IsParam (p : List Char × List Char) : Prop := isName p.1 = true ∧ isValue p.2 = true

def writeParam (p : List Char × List Char) : List Char := p.1 ++ '=' :: p.2

lemma IsParam.comma_not_mem {p : List Char × List Char} (h : IsParam p) : ',' ∉ writeParam p := by
  simp only [writeParam, List.mem_append, List.mem_cons, not_or]
  exact ⟨not_mem_of_isName h.1 (by decide), by decide, not_mem_of_isValue h.2 (by decide)⟩

lemma writeParams_eq (params : List (List Char × List Char)) :
    writeParams params = [','].intercalate (params.map writeParam) := by
  induction params with
  | nil => rfl
  | cons p params ih =>
    cases params with
    | nil => simp [writeParams, writeParam]
    | cons q params =>
      rw [writeParams, ih]
      · simp [List.intercalate, writeParam]
      · simp

lemma param?_eq_some_iff {cs : List Char} {p : List Char × List Char} :
    param? cs = some p ↔ cs = writeParam p ∧ IsParam p := by
  unfold param?
  constructor
  · intro h
    split at h
    · next name value hsplit =>
      obtain ⟨hvalid, hp⟩ := Option.ite_none_right_eq_some.1 h
      cases hp
      have hcs : ['='].intercalate [name, value] = cs := by rw [← hsplit, List.intercalate_splitOn]
      refine ⟨?_, by simpa [IsParam] using hvalid⟩
      rw [← hcs]
      simp [writeParam]
    · cases h
  · rintro ⟨rfl, hname, hvalue⟩
    obtain ⟨name, value⟩ := p
    have hsplit : (writeParam (name, value)).splitOn '=' = [name, value] := by
      rw [writeParam, List.splitOn_append_cons_self_of_not_mem (not_mem_of_isName hname (by decide)),
        List.splitOn_eq_singleton (not_mem_of_isValue hvalue (by decide))]
    rw [hsplit]
    dsimp only
    rw [if_pos (by simpa using ⟨hname, hvalue⟩)]

lemma mapM_param?_eq_some_iff {fields : List (List Char)} {params : List (List Char × List Char)} :
    fields.mapM param? = some params ↔ fields = params.map writeParam ∧ ∀ p ∈ params, IsParam p := by
  induction fields generalizing params with
  | nil =>
    cases params <;> simp
  | cons field fields ih =>
    rw [List.mapM_cons]
    simp only [Option.bind_eq_bind, Option.bind_eq_some_iff, param?_eq_some_iff, ih, Option.pure_def, Option.some.injEq]
    constructor
    · rintro ⟨p, ⟨rfl, hp⟩, rest, ⟨rfl, hrest⟩, rfl⟩
      exact ⟨rfl, List.forall_mem_cons.2 ⟨hp, hrest⟩⟩
    · rintro ⟨hfields, hparams⟩
      cases params with
      | nil => cases hfields
      | cons p params =>
        cases hfields
        obtain ⟨hp, hrest⟩ := List.forall_mem_cons.1 hparams
        exact ⟨p, ⟨rfl, hp⟩, params, ⟨rfl, hrest⟩, rfl⟩

/-- **Parameters** are written with commas between them. -/
theorem params?_eq_some_iff {cs : List Char} {params : List (List Char × List Char)} :
    params? cs = some params ↔
      params ≠ [] ∧ cs = writeParams params ∧ cs.length ≤ 127 ∧ ∀ p ∈ params, IsParam p := by
  unfold params?
  constructor
  · intro h
    obtain ⟨hlen, h⟩ := Option.ite_none_left_eq_some.1 h
    obtain ⟨hfields, hparams⟩ := mapM_param?_eq_some_iff.1 h
    refine ⟨?_, ?_, by omega, hparams⟩
    · rintro rfl
      exact List.splitOn_ne_nil _ _ hfields
    · rw [writeParams_eq, ← hfields, List.intercalate_splitOn]
  · rintro ⟨hne, rfl, hlen, hparams⟩
    have hcomma : ∀ field ∈ params.map writeParam, ',' ∉ field := by
      intro field hfield
      obtain ⟨p, hp, rfl⟩ := List.mem_map.1 hfield
      exact (hparams p hp).comma_not_mem
    have hsplit : (writeParams params).splitOn ',' = params.map writeParam := by
      rw [writeParams_eq]
      exact List.splitOn_intercalate ',' hcomma (by simpa using hne)
    rw [if_neg (by omega), hsplit]
    exact mapM_param?_eq_some_iff.2 ⟨rfl, hparams⟩

/-! ## Salt and output -/

lemma salt?_eq_some_iff {cs salt : List Char} :
    salt? cs = some salt ↔ cs = salt ∧ 4 ≤ salt.length ∧ isValue salt = true := by
  unfold salt?
  constructor
  · intro h
    obtain ⟨hvalid, hsalt⟩ := Option.ite_none_right_eq_some.1 h
    cases hsalt
    exact ⟨rfl, by simpa using hvalid⟩
  · rintro ⟨rfl, hvalid⟩
    rw [if_pos (by simpa using hvalid)]

lemma output?_eq_some_iff {cs : List Char} {bytes : Bytes} :
    output? cs = some bytes ↔ cs = Base64.encode Base64.standard bytes ∧ 10 ≤ bytes.length ∧ bytes.length ≤ 64 := by
  unfold output?
  constructor
  · intro h
    obtain ⟨hdecode, hlen⟩ := Option.filter_eq_some_iff.1 h
    exact ⟨Base64.eq_encode_of_decode? hdecode, by simpa using hlen⟩
  · rintro ⟨rfl, hlen⟩
    rw [Base64.decode?_encode Base64.standard_isProper, Option.filter_some, if_pos (by simpa using hlen)]

/-! ## Fields that may be missing -/

/-- What is not a version field: it is neither the first field, nor would it be taken for one. -/
lemma takeVersion_eq_none {fields : List (List Char)}
    (h : ∀ value rest, fields = ('v' :: '=' :: value) :: rest → ',' ∈ value) :
    takeVersion fields = some (none, fields) := by
  unfold takeVersion
  split
  · next value rest => rw [if_pos (by simpa using h value rest rfl)]
  · rfl

/-- **The version in front of fields.** -/
theorem takeVersion_eq_some_iff {fields rest : List (List Char)} {version : Option Nat} :
    takeVersion fields = some (version, rest) ↔
      fields = (version.map fun n => 'v' :: '=' :: Nat.toDigits 10 n).toList ++ rest ∧
      (∀ n, version = some n → n < 0x100000000) ∧
      (version = none → ∀ value others, rest = ('v' :: '=' :: value) :: others → ',' ∈ value) := by
  constructor
  · intro h
    unfold takeVersion at h
    split at h
    · next value others =>
      split at h
      · next hcomma =>
        cases h
        refine ⟨rfl, by simp, ?_⟩
        rintro - _ _ ⟨⟩
        simpa using hcomma
      · obtain ⟨n, hn, h⟩ := Option.map_eq_some_iff.1 h
        cases h
        obtain ⟨rfl, hlt⟩ := version?_eq_some_iff.1 hn
        refine ⟨rfl, ?_, by simp⟩
        rintro _ ⟨⟩
        exact hlt
    · next hother =>
      cases h
      refine ⟨rfl, by simp, ?_⟩
      rintro - value others rfl
      exact absurd rfl (hother value others)
  · rintro ⟨rfl, hlt, hnone⟩
    cases version with
    | none => exact takeVersion_eq_none (hnone rfl)
    | some n =>
      have hcomma : ',' ∉ Nat.toDigits 10 n := not_mem_of_isValue (isValue_toDigits (hlt n rfl)) (by decide)
      have hversion : version? (Nat.toDigits 10 n) = some n := version?_eq_some_iff.2 ⟨rfl, hlt n rfl⟩
      show takeVersion (('v' :: '=' :: Nat.toDigits 10 n) :: rest) = some (some n, rest)
      rw [takeVersion, if_neg (by simpa using hcomma), hversion]
      rfl

/-- **The parameters in front of fields.** -/
theorem takeParams_eq_some_iff {fields rest : List (List Char)} {params : List (List Char × List Char)} :
    takeParams fields = some (params, rest) ↔
      fields = (if params.isEmpty then [] else [writeParams params]) ++ rest ∧ (writeParams params).length ≤ 127 ∧
      (∀ p ∈ params, IsParam p) ∧ (params = [] → ∀ field others, rest = field :: others → '=' ∉ field) := by
  constructor
  · intro h
    unfold takeParams at h
    split at h
    · next field others =>
      split at h
      · obtain ⟨ps, hps, h⟩ := Option.map_eq_some_iff.1 h
        cases h
        obtain ⟨hne, rfl, hlen, hparams⟩ := params?_eq_some_iff.1 hps
        refine ⟨?_, hlen, hparams, fun hnil => absurd hnil hne⟩
        rw [if_neg (by simpa using hne)]
        rfl
      · next hequals =>
        cases h
        refine ⟨rfl, by simp [writeParams], by simp, ?_⟩
        rintro - _ _ ⟨⟩
        simpa using hequals
    · cases h
      refine ⟨rfl, by simp [writeParams], by simp, ?_⟩
      rintro - _ _ ⟨⟩
  · rintro ⟨rfl, hlen, hparams, hnone⟩
    cases params with
    | nil =>
      cases rest with
      | nil => rfl
      | cons field others =>
        show takeParams (field :: others) = some ([], field :: others)
        rw [takeParams, if_neg (by simpa using hnone rfl field others rfl)]
    | cons p ps =>
      have hequals : '=' ∈ writeParams (p :: ps) := by
        cases ps <;> simp [writeParams]
      have hread : params? (writeParams (p :: ps)) = some (p :: ps) :=
        params?_eq_some_iff.2 ⟨by simp, rfl, hlen, hparams⟩
      show takeParams (writeParams (p :: ps) :: rest) = some (p :: ps, rest)
      rw [takeParams, if_pos (by simpa using hequals), hread]
      rfl

/-! ## Whole texts -/

/-- A hash whose text is read back: its parts fit their fields, an output has a salt in front of it, and no parameter
would be taken for the version. -/
structure WellFormed (h : Phc) : Prop where
  algorithm : isName h.algorithm = true
  version_lt : ∀ n, h.version = some n → n < 0x100000000
  isParam : ∀ p ∈ h.params, IsParam p
  length_params : (writeParams h.params).length ≤ 127
  noVersion : h.version = none → ∀ value, h.params ≠ [(['v'], value)]
  salt : ∀ salt, h.salt = some salt → 4 ≤ salt.length ∧ isValue salt = true
  output : ∀ bytes, h.output = some bytes → 10 ≤ bytes.length ∧ bytes.length ≤ 64
  salted : h.salt = none → h.output = none

lemma fields_eq (h : Phc) : h.fields =
    h.algorithm :: ((h.version.map fun n => 'v' :: '=' :: Nat.toDigits 10 n).toList ++
    ((if h.params.isEmpty then [] else [writeParams h.params]) ++
      (h.salt.toList ++ (h.output.map (Base64.encode Base64.standard)).toList))) := by
  simp [fields]

lemma flatMap_dollar (fields : List (List Char)) : fields.flatMap ('$' :: ·) = ['$'].intercalate ([] :: fields) := by
  induction fields with
  | nil => rfl
  | cons field fields ih =>
    rw [List.flatMap_cons, ih]
    cases fields <;> simp [List.intercalate]

theorem splitOn_fields {fields : List (List Char)} (h : ∀ field ∈ fields, '$' ∉ field) :
    (fields.flatMap ('$' :: ·)).splitOn '$' = [] :: fields := by
  rw [flatMap_dollar]
  exact List.splitOn_intercalate '$' (List.forall_mem_cons.2 ⟨List.not_mem_nil, h⟩) (by simp)

lemma dollar_not_mem_writeParams {params : List (List Char × List Char)} (h : ∀ p ∈ params, IsParam p) :
    '$' ∉ writeParams params := by
  have hparam : ∀ p, IsParam p → '$' ∉ writeParam p := by
    intro p hp
    simp only [writeParam, List.mem_append, List.mem_cons, not_or]
    exact ⟨not_mem_of_isName hp.1 (by decide), by decide, not_mem_of_isValue hp.2 (by decide)⟩
  fun_induction writeParams params with
  | case1 => exact List.not_mem_nil
  | case2 name value => exact hparam (name, value) (h _ List.mem_cons_self)
  | case3 name value params hne ih =>
    have hfirst := hparam (name, value) (h _ List.mem_cons_self)
    have hrest := ih fun p hp => h p (List.mem_cons_of_mem _ hp)
    simp only [writeParam, List.mem_append, List.mem_cons, not_or] at hfirst ⊢
    exact ⟨hfirst, by decide, hrest⟩

lemma WellFormed.dollar_not_mem {h : Phc} (hw : h.WellFormed) : ∀ field ∈ h.fields, '$' ∉ field := by
  intro field hfield
  rw [fields_eq] at hfield
  simp only [List.mem_cons, List.mem_append, Option.mem_toList, Option.map_eq_some_iff] at hfield
  rcases hfield with rfl | ⟨n, hn, rfl⟩ | hparams | hsalt | ⟨bytes, -, rfl⟩
  · exact not_mem_of_isName hw.algorithm (by decide)
  · have hdigits : '$' ∉ Nat.toDigits 10 n := not_mem_of_isValue (isValue_toDigits (hw.version_lt n hn)) (by decide)
    simpa using hdigits
  · split at hparams
    · cases hparams
    · rw [List.mem_singleton.1 hparams]
      exact dollar_not_mem_writeParams hw.isParam
  · exact not_mem_of_isValue (hw.salt field hsalt).2 (by decide)
  · exact not_mem_encode bytes (by decide)

lemma wellFormed_of_fields {algorithm : List Char} {version : Option Nat} {params : List (List Char × List Char)}
    {fields last : List (List Char)} (halgorithm : isName algorithm = true)
    (hversion : takeVersion fields = some (version, (if params.isEmpty then [] else [writeParams params]) ++ last))
    (hparams : takeParams ((if params.isEmpty then [] else [writeParams params]) ++ last) = some (params, last))
    {salt : Option (List Char)} (hsalt : ∀ text, salt = some text → 4 ≤ text.length ∧ isValue text = true)
    {output : Option Bytes} (houtput : ∀ bytes, output = some bytes → 10 ≤ bytes.length ∧ bytes.length ≤ 64)
    (hsalted : salt = none → output = none) : WellFormed ⟨algorithm, version, params, salt, output⟩ := by
  obtain ⟨-, hlt, hnoVersion⟩ := takeVersion_eq_some_iff.1 hversion
  obtain ⟨-, hlen, hparam, -⟩ := takeParams_eq_some_iff.1 hparams
  refine ⟨halgorithm, hlt, hparam, hlen, ?_, hsalt, houtput, hsalted⟩
  rintro hnone value (rfl : params = _)
  -- the only parameter would have been taken for a version
  have hcomma : ',' ∈ value := hnoVersion hnone value last rfl
  exact not_mem_of_isValue (hparam _ List.mem_cons_self).2 (by decide) hcomma

lemma WellFormed.equals_not_mem {h : Phc} (hw : h.WellFormed) {field : List Char} {others : List (List Char)}
    (hlast : h.salt.toList ++ (h.output.map (Base64.encode Base64.standard)).toList = field :: others) :
    '=' ∉ field := by
  cases hsalt : h.salt with
  | none =>
    rw [hsalt, hw.salted hsalt] at hlast
    cases hlast
  | some text =>
    rw [hsalt] at hlast
    obtain ⟨rfl, -⟩ := List.cons.inj hlast
    exact not_mem_of_isValue (hw.salt _ hsalt).2 (by decide)

/-- A parameter that starts like a version is one by the name of a version. -/
lemma eq_of_version {name x value : List Char} (hname : isName name = true)
    (h : name ++ '=' :: x = 'v' :: '=' :: value) : name = ['v'] ∧ x = value := by
  have hequals : '=' ∉ name := not_mem_of_isName hname (by decide)
  match name with
  | [] => exact absurd hname (by decide)
  | [c] =>
    cases h
    exact ⟨rfl, rfl⟩
  | c :: d :: rest =>
    cases h
    exact absurd (by simp) hequals

/-- Behind a version that is missing nothing is taken for one. -/
lemma WellFormed.comma_mem {h : Phc} (hw : h.WellFormed) (hnone : h.version = none) {value : List Char}
    {others : List (List Char)}
    (hfields : (if h.params.isEmpty then [] else [writeParams h.params]) ++
      (h.salt.toList ++ (h.output.map (Base64.encode Base64.standard)).toList) = ('v' :: '=' :: value) :: others) :
    ',' ∈ value := by
  cases hparams : h.params with
  | nil =>
    rw [hparams] at hfields
    exact absurd (by simp) (hw.equals_not_mem hfields)
  | cons p params =>
    obtain ⟨name, text⟩ := p
    have hparam : IsParam (name, text) := hw.isParam _ (by rw [hparams]; exact List.mem_cons_self)
    rw [hparams] at hfields
    obtain ⟨hfirst, -⟩ := List.cons.inj hfields
    cases params with
    | nil =>
      obtain ⟨rfl, rfl⟩ := eq_of_version hparam.1 hfirst
      exact absurd hparams (hw.noVersion hnone _)
    | cons q params =>
      rw [writeParams, List.append_assoc, List.cons_append] at hfirst
      · obtain ⟨rfl, rfl⟩ := eq_of_version hparam.1 hfirst
        simp
      · simp

/-- **The text form of hashes.** A text is read as a hash exactly if the hash is well-formed and the text is what is
written for it: nothing else can be read, and each text in one way only. -/
theorem parse?_eq_some_iff {s : String} {h : Phc} : parse? s = some h ↔ h.WellFormed ∧ s = h.write := by
  constructor
  · intro hs
    unfold parse? at hs
    split at hs
    · next algorithm fields hsplit =>
      have htext : s.toList = (algorithm :: fields).flatMap ('$' :: ·) := by
        rw [flatMap_dollar, ← hsplit, List.intercalate_splitOn]
      have hwrite : ∀ h : Phc, h.fields = algorithm :: fields → s = h.write := by
        intro h hfields
        rw [write, hfields, ← htext, String.ofList_toList]
      simp only [Option.bind_eq_bind, Option.bind_eq_some_iff, Option.guard_eq_some'] at hs
      obtain ⟨-, halgorithm, ⟨version, rest⟩, hversion, ⟨params, last⟩, hparams, hs⟩ := hs
      obtain ⟨hfields, -, -⟩ := takeVersion_eq_some_iff.1 hversion
      obtain ⟨rfl, -, -, -⟩ := takeParams_eq_some_iff.1 hparams
      dsimp only at hs hfields
      split at hs
      · cases hs
        refine ⟨wellFormed_of_fields halgorithm hversion hparams (by simp) (by simp) (by simp), hwrite _ ?_⟩
        rw [fields_eq, hfields]
        rfl
      · next salt =>
        simp only [Option.bind_eq_some_iff, Option.pure_def, Option.some.injEq] at hs
        obtain ⟨_, hsalt, rfl⟩ := hs
        obtain ⟨rfl, hsalt⟩ := salt?_eq_some_iff.1 hsalt
        refine ⟨wellFormed_of_fields halgorithm hversion hparams ?_ (by simp) (by simp), hwrite _ ?_⟩
        · rintro _ ⟨⟩
          exact hsalt
        · rw [fields_eq, hfields]
          rfl
      · next salt output =>
        simp only [Option.bind_eq_some_iff, Option.pure_def, Option.some.injEq] at hs
        obtain ⟨_, hsalt, bytes, houtput, rfl⟩ := hs
        obtain ⟨rfl, hsalt⟩ := salt?_eq_some_iff.1 hsalt
        obtain ⟨rfl, hlengths⟩ := output?_eq_some_iff.1 houtput
        refine ⟨wellFormed_of_fields halgorithm hversion hparams ?_ ?_ (by simp), hwrite _ ?_⟩
        · rintro _ ⟨⟩
          exact hsalt
        · rintro _ ⟨⟩
          exact hlengths
        · rw [fields_eq, hfields]
          rfl
      · cases hs
    · cases hs
  · rintro ⟨hw, rfl⟩
    have halgorithm : guard (isName h.algorithm = true) = some () := (Option.guard_eq_some' ()).2 hw.algorithm
    have hversion := takeVersion_eq_some_iff.2 ⟨rfl, hw.version_lt, fun hnone value others => hw.comma_mem hnone⟩
    have hparams := takeParams_eq_some_iff.2
      ⟨rfl, hw.length_params, hw.isParam, fun _ field others => hw.equals_not_mem⟩
    rw [parse?, write, String.toList_ofList, splitOn_fields hw.dollar_not_mem, fields_eq]
    simp only [halgorithm, hversion, hparams, Option.bind_eq_bind, Option.bind_some]
    obtain ⟨algorithm, version, params, salt, output⟩ := h
    cases salt with
    | none =>
      obtain rfl : output = none := hw.salted rfl
      rfl
    | some text =>
      have hsalt : salt? text = some text := salt?_eq_some_iff.2 ⟨rfl, hw.salt text rfl⟩
      cases output with
      | none => simp [hsalt]
      | some bytes =>
        have houtput : output? (Base64.encode Base64.standard bytes) = some bytes :=
          output?_eq_some_iff.2 ⟨rfl, hw.output bytes rfl⟩
        simp [hsalt, houtput]

end Gatehouse.Phc
