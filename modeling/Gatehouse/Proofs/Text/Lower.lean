import Gatehouse.Text.Lower
import Mathlib.Tactic.Lemma

/-!
# Lower case twice is lower case once

* `CaseRange.Covers`, `lowerCode_cases` — a code point is shifted by a range that covers it, or stays as it is;
* `lowerCode_lowerCode` — no range covers what another one gives, which is decided by comparing ranges, not points;
* `lowerChar_of_mem` — the lower case of a character is made of characters that stay as they are;
* `lower_lower` — and so is that of a text, where no capital sigma is left to depend on its place.
-/

namespace Gatehouse.Text

/-! ## Ranges -/

namespace CaseRange

variable {r q : CaseRange} {n : Nat}

/-- The range shifts a code point. -/
def Covers (r : CaseRange) (n : Nat) : Prop := r.first ≤ n ∧ n ≤ r.last ∧ (n - r.first) % r.step = 0

def image (r : CaseRange) (n : Nat) : Nat := (n + r.shift).toNat

/-- The range takes every code point or every other one. Its images are characters, and none of them is the capital I
with a dot above. -/
def isProper (r : CaseRange) : Bool :=
  (r.step == 1 || r.step == 2) && 0 ≤ r.first + r.shift &&
    (r.image r.last < 0xD800 || 0xDFFF < r.image r.first && r.image r.last < 0x110000) &&
    (r.image r.last < 0x130 || 0x130 < r.image r.first)

/-- The images of one range lie in front of another range, behind it, or on the code points that it leaves out. -/
def misses (r q : CaseRange) : Bool :=
  r.image r.last < q.first || q.last < r.image r.first ||
    (q.step == 2 && (r.step == 2 || r.first == r.last) && q.first ≤ r.image r.first &&
      (r.image r.first - q.first) % 2 == 1)

lemma Covers.image_bounds (hn : r.Covers n) :
    r.image r.first ≤ r.image n ∧ r.image n ≤ r.image r.last := by
  obtain ⟨hfirst, hlast, -⟩ := hn
  unfold image
  omega

lemma not_covers_image (hr : r.isProper = true) (hrq : r.misses q = true) (hn : r.Covers n) :
    ¬ q.Covers (r.image n) := by
  have hbounds := hn.image_bounds
  simp only [isProper, Bool.and_eq_true, Bool.or_eq_true, beq_iff_eq, decide_eq_true_eq] at hr
  simp only [misses, Bool.and_eq_true, Bool.or_eq_true, beq_iff_eq, decide_eq_true_eq] at hrq
  obtain ⟨⟨⟨hstep, hshift⟩, -⟩, -⟩ := hr
  obtain ⟨hfirst, hlast, hplace⟩ := hn
  rintro ⟨hqfirst, hqlast, hqplace⟩
  rcases hrq with (hfront | hbehind) | ⟨⟨⟨hq, hpair⟩, -⟩, hodd⟩
  · omega
  · omega
  · -- the images are all an odd number of steps behind the start of the other range
    have himage : r.image n = r.image r.first + (n - r.first) := by
      unfold image
      omega
    rw [hq] at hqplace
    rcases hpair with hpair | hpair
    · rw [hpair] at hplace
      omega
    · omega

end CaseRange

lemma isProper_of_mem : ∀ r ∈ lowerRanges, r.isProper = true := by decide +kernel

/-- No range of the table covers an image of another one, or of its own. -/
lemma misses_of_mem {r q : CaseRange} (hr : r ∈ lowerRanges) (hq : q ∈ lowerRanges) : r.misses q = true := by
  have h : (lowerRanges.all fun r => lowerRanges.all r.misses) = true := by decide +kernel
  exact List.all_eq_true.1 (List.all_eq_true.1 h r hr) q hq

/-! ## Code points -/

lemma lowerCode_of_not_covers {rs : List CaseRange} {n : Nat} (h : ∀ r ∈ rs, ¬ r.Covers n) : lowerCode rs n = n := by
  induction rs with
  | nil => rfl
  | cons r rs ih =>
    have hr := h r List.mem_cons_self
    unfold lowerCode
    split
    · rfl
    · next hfirst =>
      split
      · next hcond =>
        simp only [Bool.and_eq_true, decide_eq_true_eq, beq_iff_eq] at hcond
        exact absurd ⟨Nat.le_of_not_lt hfirst, hcond⟩ hr
      · exact ih fun q hq => h q (List.mem_cons_of_mem r hq)

/-- A code point stays as it is, or a range covers it and shifts it. -/
lemma lowerCode_cases (rs : List CaseRange) (n : Nat) :
    lowerCode rs n = n ∨ ∃ r ∈ rs, r.Covers n ∧ lowerCode rs n = r.image n := by
  induction rs with
  | nil => exact .inl rfl
  | cons r rs ih =>
    unfold lowerCode
    split
    · exact .inl rfl
    · next hfirst =>
      split
      · next hcond =>
        simp only [Bool.and_eq_true, decide_eq_true_eq, beq_iff_eq] at hcond
        exact .inr ⟨r, List.mem_cons_self, ⟨Nat.le_of_not_lt hfirst, hcond⟩, rfl⟩
      · refine ih.imp_right ?_
        rintro ⟨q, hq, hn, h⟩
        exact ⟨q, List.mem_cons_of_mem r hq, hn, h⟩

/-- **Lower case is not mapped any further.** -/
theorem lowerCode_lowerCode (n : Nat) : lowerCode lowerRanges (lowerCode lowerRanges n) = lowerCode lowerRanges n := by
  rcases lowerCode_cases lowerRanges n with h | ⟨r, hr, hn, h⟩
  · rw [h, h]
  · rw [h]
    exact lowerCode_of_not_covers fun q hq => r.not_covers_image (isProper_of_mem r hr) (misses_of_mem hr hq) hn

lemma lowerCode_isValidChar {n : Nat} (hvalid : n.isValidChar) (hn : n ≠ 0x130) :
    (lowerCode lowerRanges n).isValidChar ∧ lowerCode lowerRanges n ≠ 0x130 := by
  rcases lowerCode_cases lowerRanges n with h | ⟨r, hr, hcovers, h⟩
  · rw [h]
    exact ⟨hvalid, hn⟩
  · have hproper := isProper_of_mem r hr
    have hbounds := hcovers.image_bounds
    simp only [CaseRange.isProper, Bool.and_eq_true, Bool.or_eq_true, beq_iff_eq, decide_eq_true_eq] at hproper
    rw [h, Nat.isValidChar]
    omega

/-! ## Characters -/

lemma toNat_ofNat {n : Nat} (h : n.isValidChar) : (Char.ofNat n).toNat = n := by
  rw [Char.ofNat, dif_pos h]
  rfl

lemma lowerChar_eq_self {c : Char} (hne : c.toNat ≠ 0x130) (h : lowerCode lowerRanges c.toNat = c.toNat) :
    lowerChar c = [c] := by
  rw [lowerChar, if_neg hne, h, Char.ofNat_toNat]

theorem lowerChar_of_mem {c d : Char} (hd : d ∈ lowerChar c) : lowerChar d = [d] := by
  unfold lowerChar at hd
  split at hd
  · -- the small letter and the dot
    have hdot : (Char.ofNat 0x307).toNat = 0x307 := toNat_ofNat (by decide)
    simp only [List.mem_cons, List.not_mem_nil, or_false] at hd
    rcases hd with rfl | rfl
    · exact lowerChar_eq_self (by decide) (show lowerCode lowerRanges 0x69 = 0x69 by decide +kernel)
    · refine lowerChar_eq_self (by rw [hdot]; decide) ?_
      rw [hdot]
      exact (by decide +kernel : lowerCode lowerRanges 0x307 = 0x307)
  · next hc =>
    obtain ⟨hvalid, hne⟩ : (lowerCode lowerRanges c.toNat).isValidChar ∧ lowerCode lowerRanges c.toNat ≠ 0x130 :=
      lowerCode_isValidChar c.valid hc
    have hnat : d.toNat = lowerCode lowerRanges c.toNat := by
      rw [List.mem_singleton.1 hd, toNat_ofNat hvalid]
    exact lowerChar_eq_self (by rw [hnat]; exact hne) (by rw [hnat, lowerCode_lowerCode])

/-! ## Texts -/

/-- The lower case of a text is made of characters that are their own lower case, wherever its capital sigmas stand. -/
lemma lowerChar_of_mem_lowerFrom {before cs : List Char} {d : Char} (hd : d ∈ lowerFrom before cs) :
    lowerChar d = [d] := by
  induction cs generalizing before with
  | nil => cases hd
  | cons c cs ih =>
    unfold lowerFrom at hd
    rcases List.mem_append.1 hd with hd | hd
    · split at hd
      · split at hd <;> rw [List.mem_singleton.1 hd] <;> decide +kernel
      · exact lowerChar_of_mem hd
    · exact ih hd

lemma lowerFrom_eq_self {cs : List Char} (h : ∀ c ∈ cs, lowerChar c = [c]) (before : List Char) :
    lowerFrom before cs = cs := by
  induction cs generalizing before with
  | nil => rfl
  | cons c cs ih =>
    have hc := h c List.mem_cons_self
    have hsigma : c.toNat ≠ 0x3A3 := by
      intro hsigma
      rw [← Char.ofNat_toNat c, hsigma] at hc
      revert hc
      decide +kernel
    rw [lowerFrom, if_neg hsigma, hc, ih fun d hd => h d (List.mem_cons_of_mem c hd)]
    rfl

/-- **A text in lower case is its own lower case.** -/
theorem lower_lower (s : String) : lower (lower s) = lower s := by
  unfold lower
  rw [String.toList_ofList, lowerFrom_eq_self fun d hd => lowerChar_of_mem_lowerFrom hd]

end Gatehouse.Text
