import CatalogRspec.Proofs.Json.NumberText
import CatalogRspec.Proofs.Json.Shortest
import Mathlib.Data.List.TakeWhile

namespace CatalogRspec.Json

/-- The digits as a number, most significant first. -/
abbrev digitsValue (s : List Char) : Nat := Nat.ofDigitChars 10 s 0

def pointValue (s : List Char) : ℚ :=
  digitsValue (s.filter (· != '.')) / 10 ^ ((s.dropWhile (· != '.')).length - 1)

def exponentValue : List Char → Int
  | '-' :: s => -(digitsValue s : Int)
  | s => digitsValue (s.drop 1)

def textValue (s : List Char) : ℚ :=
  pointValue (s.takeWhile (· != 'e')) * 10 ^ exponentValue ((s.dropWhile (· != 'e')).drop 1)

theorem digitsValue_repr (n : Nat) : digitsValue n.repr.toList = n := by
  rw [Nat.repr, String.toList_ofList, digitsValue, Nat.ofDigitChars_ten_toDigits]

section Digits

variable {a b digits : List Char}

theorem ne_of_isDigit {c d : Char} (hc : c.isDigit = true) (hd : d.isDigit = false) : c ≠ d := by
  rintro rfl
  rw [hc] at hd
  cases hd

theorem filter_bne_of_isDigit {d : Char} (h : ∀ c ∈ a, c.isDigit = true) (hd : d.isDigit = false) :
    a.filter (· != d) = a :=
  List.filter_eq_self.mpr fun c hc => by simpa using ne_of_isDigit (h c hc) hd

theorem pointValue_digits (h : ∀ c ∈ a, c.isDigit = true) : pointValue a = digitsValue a := by
  have hnone : a.dropWhile (· != '.') = [] :=
    List.dropWhile_eq_nil_iff.mpr fun c hc => by simpa using ne_of_isDigit (h c hc) (by decide)
  simp [pointValue, filter_bne_of_isDigit h (show '.'.isDigit = false by decide), hnone]

theorem pointValue_point (ha : ∀ c ∈ a, c.isDigit = true) (hb : ∀ c ∈ b, c.isDigit = true) :
    pointValue (a ++ '.' :: b) = digitsValue (a ++ b) / 10 ^ b.length := by
  have hpoint : (a ++ '.' :: b).dropWhile (· != '.') = '.' :: b := by
    rw [List.dropWhile_append_of_pos fun c hc => by simpa using ne_of_isDigit (ha c hc) (by decide),
      List.dropWhile_cons_of_neg (by decide)]
  have hdigits : (a ++ '.' :: b).filter (· != '.') = a ++ b := by
    rw [List.filter_append, filter_bne_of_isDigit ha (by decide), List.filter_cons_of_neg (by decide),
      filter_bne_of_isDigit hb (by decide)]
  rw [pointValue, hpoint, hdigits, List.length_cons, Nat.add_sub_cancel]

theorem textValue_of_no_exponent (h : 'e' ∉ a) : textValue a = pointValue a := by
  have hall : ∀ c ∈ a, (c != 'e') = true := fun c hc => by
    simpa using fun hce : c = 'e' => h (hce ▸ hc)
  rw [textValue, List.takeWhile_eq_self_iff.mpr hall, List.dropWhile_eq_nil_iff.mpr hall]
  simp [exponentValue, Nat.ofDigitChars_nil]

theorem textValue_exponent (h : 'e' ∉ a) (b : List Char) :
    textValue (a ++ 'e' :: b) = pointValue a * 10 ^ exponentValue b := by
  have hall : ∀ c ∈ a, (c != 'e') = true := fun c hc => by
    simpa using fun hce : c = 'e' => h (hce ▸ hc)
  rw [textValue, List.takeWhile_append_of_pos hall, List.dropWhile_append_of_pos hall,
    List.takeWhile_cons_of_neg (by decide), List.dropWhile_cons_of_neg (by decide), List.append_nil,
    List.drop_one, List.tail_cons]

theorem isDigit_replicate_zero (n : Nat) : ∀ c ∈ List.replicate n '0', c.isDigit = true := by
  intro c hc
  rw [(List.mem_replicate.mp hc).2]
  rfl

theorem digitsValue_append_zeros (a : List Char) (n : Nat) :
    digitsValue (a ++ List.replicate n '0') = 10 ^ n * digitsValue a := by
  rw [digitsValue, Nat.ofDigitChars_append, Nat.ofDigitChars_replicate_zero]

theorem digitsValue_zeros_append (n : Nat) (a : List Char) :
    digitsValue (List.replicate n '0' ++ a) = digitsValue a := by
  rw [digitsValue, Nat.ofDigitChars_append, Nat.ofDigitChars_replicate_zero, Nat.mul_zero]

/-- Digits whose first counts `10 ^ lead`. -/
def leadValue (digits : List Char) (lead : Int) : ℚ :=
  digitsValue digits * 10 ^ (lead - digits.length + 1)

theorem no_exponent_of_digits_point (ha : ∀ c ∈ a, c.isDigit = true)
    (hb : ∀ c ∈ b, c.isDigit = true) : 'e' ∉ a ++ '.' :: b := by
  intro he
  rw [List.mem_append, List.mem_cons] at he
  rcases he with he | he | he
  · exact absurd (ha _ he) (by decide)
  · exact absurd he (by decide)
  · exact absurd (hb _ he) (by decide)

theorem textValue_point (ha : ∀ c ∈ a, c.isDigit = true) (hb : ∀ c ∈ b, c.isDigit = true) :
    textValue (a ++ '.' :: b) = digitsValue (a ++ b) / 10 ^ b.length := by
  rw [textValue_of_no_exponent (no_exponent_of_digits_point ha hb), pointValue_point ha hb]

theorem positional_of_neg {lead : Int} (hlead : lead < 0) : positional digits lead =
    List.replicate 1 '0' ++ '.' :: (List.replicate ((-lead).toNat - 1) '0' ++ digits) := by
  rw [positional, if_pos hlead]
  rfl

theorem positional_of_length_le {lead : Int} (hlead : ¬lead < 0)
    (h : digits.length ≤ lead.toNat + 1) : positional digits lead =
      (digits ++ List.replicate (lead.toNat + 1 - digits.length) '0') ++
        '.' :: List.replicate 1 '0' := by
  rw [positional, if_neg hlead]
  simp [List.drop_eq_nil_of_le h, List.take_of_length_le h]

theorem positional_of_lt_length {lead : Int} (hlead : ¬lead < 0)
    (h : lead.toNat + 1 < digits.length) : positional digits lead =
      digits.take (lead.toNat + 1) ++ '.' :: digits.drop (lead.toNat + 1) := by
  have hfraction : (digits.drop (lead.toNat + 1)).isEmpty = false := by simpa using h
  rw [positional, if_neg hlead]
  simp [hfraction, Nat.sub_eq_zero_of_le h.le]

theorem textValue_positional (h : IsDigits digits) (lead : Int) :
    textValue (positional digits lead) = leadValue digits lead := by
  have hzeros := isDigit_replicate_zero
  unfold leadValue
  -- The point stands before all digits, behind them, or between two of them.
  by_cases hlead : lead < 0
  · have hfraction : ∀ c ∈ List.replicate ((-lead).toNat - 1) '0' ++ digits, c.isDigit = true :=
      List.forall_mem_append.mpr ⟨hzeros _, h.2⟩
    rw [positional_of_neg hlead, textValue_point (hzeros 1) hfraction, digitsValue_zeros_append,
      digitsValue_zeros_append, List.length_append, List.length_replicate, div_eq_mul_inv,
      ← zpow_natCast, ← zpow_neg]
    congr 2
    omega
  · by_cases hlength : digits.length ≤ lead.toNat + 1
    · have hexponent : lead - digits.length + 1 = (lead.toNat + 1 - digits.length : Nat) := by
        omega
      rw [positional_of_length_le hlead hlength,
        textValue_point (List.forall_mem_append.mpr ⟨h.2, hzeros _⟩) (hzeros 1),
        digitsValue_append_zeros, digitsValue_append_zeros, List.length_replicate, hexponent,
        zpow_natCast]
      push_cast
      field_simp
    · have htake : ∀ c ∈ digits.take (lead.toNat + 1), c.isDigit = true := fun c hc =>
        h.2 c (List.mem_of_mem_take hc)
      have hdrop : ∀ c ∈ digits.drop (lead.toNat + 1), c.isDigit = true := fun c hc =>
        h.2 c (List.mem_of_mem_drop hc)
      rw [positional_of_lt_length hlead (Nat.lt_of_not_le hlength), textValue_point htake hdrop,
        List.take_append_drop, div_eq_mul_inv, ← zpow_natCast, ← zpow_neg, List.length_drop]
      congr 2
      omega

theorem exponentValue_sign (lead : Int) :
    exponentValue ((if lead < 0 then ['-'] else ['+']) ++ lead.natAbs.repr.toList) = lead := by
  split
  · show -(digitsValue lead.natAbs.repr.toList : Int) = lead
    rw [digitsValue_repr]
    omega
  · show (digitsValue lead.natAbs.repr.toList : Int) = lead
    rw [digitsValue_repr]
    omega

theorem textValue_scientific (h : IsDigits digits) (lead : Int) :
    textValue (scientific digits lead) = leadValue digits lead := by
  have hfirst : ∀ c ∈ digits.take 1, c.isDigit = true := fun c hc =>
    h.2 c (List.mem_of_mem_take hc)
  have hrest : ∀ c ∈ digits.drop 1, c.isDigit = true := fun c hc => h.2 c (List.mem_of_mem_drop hc)
  have hlength := List.length_pos_iff.mpr h.1
  have hmantissa :
      'e' ∉ digits.take 1 ++ (if digits.length ≤ 1 then [] else '.' :: digits.drop 1) ∧
      pointValue (digits.take 1 ++ if digits.length ≤ 1 then [] else '.' :: digits.drop 1) =
        digitsValue digits / 10 ^ (digits.length - 1) := by
    split
    · next hone =>
      rw [List.append_nil, List.take_of_length_le hone, pointValue_digits h.2,
        Nat.sub_eq_zero_of_le hone]
      exact ⟨fun he => absurd (h.2 _ he) (by decide), by simp⟩
    · refine ⟨no_exponent_of_digits_point hfirst hrest, ?_⟩
      rw [pointValue_point hfirst hrest, List.take_append_drop, List.length_drop]
  have hshape : scientific digits lead =
      (digits.take 1 ++ if digits.length ≤ 1 then [] else '.' :: digits.drop 1) ++
        'e' :: ((if lead < 0 then ['-'] else ['+']) ++ lead.natAbs.repr.toList) := by
    simp [scientific]
  rw [hshape, textValue_exponent hmantissa.1, hmantissa.2, exponentValue_sign, leadValue,
    div_mul_eq_mul_div, mul_div_assoc, ← zpow_natCast, ← zpow_sub₀ (by norm_num)]
  congr 2
  omega

theorem exists_append_zeros (h : digitsValue digits ≠ 0) :
    ∃ n, digits = trimZeros digits ++ List.replicate n '0' := by
  have hsplit := List.takeWhile_append_dropWhile (p := (· == '0')) (l := digits.reverse)
  have hzeros : digits.reverse.takeWhile (· == '0') =
      List.replicate (digits.reverse.takeWhile (· == '0')).length '0' :=
    List.eq_replicate_of_mem fun c hc => by simpa using List.mem_takeWhile_imp hc
  have hdigits : digits = (digits.reverse.dropWhile (· == '0')).reverse ++
      List.replicate (digits.reverse.takeWhile (· == '0')).length '0' := by
    rw [← List.reverse_replicate, ← hzeros, ← List.reverse_append, hsplit, List.reverse_reverse]
  refine ⟨(digits.reverse.takeWhile (· == '0')).length, ?_⟩
  unfold trimZeros
  split
  · next hnil =>
    rw [hnil, List.nil_append] at hdigits
    exact absurd (by rw [hdigits, digitsValue, Nat.ofDigitChars_replicate_zero, Nat.mul_zero]) h
  · exact hdigits

theorem leadValue_trimZeros {n : Nat} (hn : n ≠ 0) (scale : Int) :
    leadValue (trimZeros n.repr.toList) (scale + Int.ofNat n.repr.toList.length - 1) =
      n * 10 ^ scale := by
  have hvalue := digitsValue_repr n
  obtain ⟨k, hk⟩ := exists_append_zeros (hvalue.symm ▸ hn)
  generalize trimZeros n.repr.toList = trimmed at hk
  have hn : (n : ℚ) = digitsValue trimmed * 10 ^ (k : Int) := by
    rw [hk, digitsValue_append_zeros] at hvalue
    rw [← hvalue, zpow_natCast]
    push_cast
    ring
  rw [leadValue, hk, List.length_append, List.length_replicate, hn, mul_assoc,
    ← zpow_add₀ (by norm_num)]
  congr 2
  rw [Int.ofNat_eq_natCast, Nat.cast_add]
  ring

/-- Which no sign does. -/
def StartsWithDigit (s : List Char) : Prop := ∃ c t, s = c :: t ∧ c.isDigit = true

theorem IsDigits.startsWithDigit_append (h : IsDigits a) (b : List Char) :
    StartsWithDigit (a ++ b) := by
  obtain ⟨c, a, rfl⟩ := List.exists_cons_of_ne_nil h.1
  exact ⟨c, a ++ b, rfl, h.2 c List.mem_cons_self⟩

theorem signed_inj {p q : Bool} (ha : StartsWithDigit a) (hb : StartsWithDigit b)
    (h : (if p then ['-'] else []) ++ a = (if q then ['-'] else []) ++ b) : p = q ∧ a = b := by
  have hminus {s t : List Char} (hs : StartsWithDigit s) : s ≠ '-' :: t := by
    rintro rfl
    obtain ⟨c, t, hcons, hc⟩ := hs
    exact absurd ((List.cons.inj hcons).1 ▸ hc) (by decide)
  cases p <;> cases q
  · exact ⟨rfl, h⟩
  · exact absurd h (hminus ha)
  · exact absurd h.symm (hminus hb)
  · exact ⟨rfl, (List.cons.inj h).2⟩

end Digits

namespace Binary64

def unsignedText (x : Binary64) : List Char :=
  if x.significand = 0 then "0.0".toList
  else
    let digits := x.shortest.digits.repr.toList
    let lead := x.shortest.scale + Int.ofNat digits.length - 1
    if -5 ≤ lead && lead ≤ 15 then positional (trimZeros digits) lead
    else scientific (trimZeros digits) lead

theorem toList_text (x : Binary64) :
    x.text.toList = (if x.negative then ['-'] else []) ++ x.unsignedText := by
  unfold text unsignedText
  extract_lets sign d digits lead trimmed
  by_cases hzero : x.significand = 0
  · rw [if_pos hzero, if_pos hzero, String.toList_ofList]
  · rw [if_neg hzero, if_neg hzero, String.toList_ofList]

theorem textValue_zero {x : Binary64} (h : x.significand = 0) : textValue x.unsignedText = 0 := by
  rw [unsignedText, if_pos h]
  have hshape : "0.0".toList = ['0'] ++ '.' :: ['0'] := rfl
  rw [hshape, textValue_point (by decide) (by decide)]
  simp [digitsValue, Nat.ofDigitChars_cons, Nat.ofDigitChars_nil]

theorem textValue_unsignedText {x : Binary64} (hzero : x.significand ≠ 0)
    (hdigits : x.shortest.digits ≠ 0) :
    textValue x.unsignedText = x.shortest.digits * 10 ^ x.shortest.scale := by
  have h := isDigits_trimZeros (isDigits_repr x.shortest.digits).2
  rw [unsignedText, if_neg hzero]
  extract_lets digits lead
  split
  · rw [textValue_positional h, leadValue_trimZeros hdigits]
  · rw [textValue_scientific h, leadValue_trimZeros hdigits]

theorem textValue_isNearest {x : Binary64} (hx : x.IsCanonical) (hzero : x.significand ≠ 0) :
    x.IsNearest (textValue x.unsignedText) ∧ textValue x.unsignedText ≠ 0 := by
  have hnearest := isNearest_shortest hx hzero
  have hpos : 0 < (x.shortest.digits : ℚ) * 10 ^ x.shortest.scale := by
    have hlow : (0 : ℚ) < x.low := by
      rw [cast_low hzero]
      have : (1 : ℚ) ≤ x.significand := by exact_mod_cast Nat.one_le_iff_ne_zero.mpr hzero
      split <;> linarith
    exact (mul_pos hlow x.quarter_pos).trans_le hnearest.le.1
  have hdigits : x.shortest.digits ≠ 0 := by
    intro h
    simp [h] at hpos
  rw [textValue_unsignedText hzero hdigits]
  exact ⟨hnearest, hpos.ne'⟩

theorem point_or_exponent_mem (x : Binary64) : '.' ∈ x.unsignedText ∨ 'e' ∈ x.unsignedText := by
  unfold unsignedText
  split
  · exact .inl (by decide)
  · extract_lets digits lead
    split
    · refine .inl ?_
      unfold positional
      split <;> simp
    · refine .inr ?_
      unfold scientific
      simp

theorem startsWithDigit_unsignedText (x : Binary64) : StartsWithDigit x.unsignedText := by
  have hdigits := isDigits_trimZeros (isDigits_repr x.shortest.digits).2
  unfold unsignedText
  split
  · exact ⟨'0', _, rfl, rfl⟩
  · extract_lets digits lead
    split
    · unfold positional
      split
      · exact ⟨'0', _, rfl, rfl⟩
      · simp only [List.append_assoc]
        exact (hdigits.take lead.toNat).startsWithDigit_append _
    · unfold scientific
      simp only [List.append_assoc]
      exact (hdigits.take 0).startsWithDigit_append _

theorem eq_of_text_eq {x y : Binary64} (hx : x.IsCanonical) (hy : y.IsCanonical)
    (h : x.text = y.text) : x = y := by
  -- The value of the text, not its form, is what both are nearest to.
  rw [← String.toList_inj, toList_text, toList_text] at h
  obtain ⟨hsign, htext⟩ :=
    signed_inj x.startsWithDigit_unsignedText y.startsWithDigit_unsignedText h
  by_cases hxzero : x.significand = 0
  -- There is one zero of a sign, for its exponent is the least.
  · have hyzero : y.significand = 0 := by
      by_contra hyzero
      exact (textValue_isNearest hy hyzero).2 (htext ▸ textValue_zero hxzero)
    have hleast {z : Binary64} (hz : z.IsCanonical) (hzero : z.significand = 0) :
        z.exponent = minExponent :=
      hz.normal.resolve_left (by rw [hzero]; decide)
    exact Binary64.ext hsign (hxzero.trans hyzero.symm)
      ((hleast hx hxzero).trans (hleast hy hyzero).symm)
  · have hyzero : y.significand ≠ 0 := fun hyzero =>
      (textValue_isNearest hx hxzero).2 (htext ▸ textValue_zero hyzero)
    exact eq_of_isNearest hx.toIsNormalized hy.toIsNormalized hsign
      (textValue_isNearest hx hxzero).1
      (htext ▸ (textValue_isNearest hy hyzero).1)

end Binary64

namespace Number

/-- Numbers that are equal only if they are the same. -/
def IsCanonical : Number → Prop
  | .integer _ => True
  | .double x => x.IsCanonical

theorem toList_text_integer (n : Int) :
    (Number.integer n).text.toList =
      (if n < 0 then ['-'] else []) ++ n.natAbs.repr.toList := by
  cases n with
  | ofNat m => rfl
  | negSucc m =>
    show ("-" ++ (m + 1).repr).toList = _
    rw [String.toList_append, if_pos (Int.negSucc_lt_zero m)]
    rfl

theorem text_integer_ne_double (n : Int) (x : Binary64) :
    (Number.integer n).text ≠ (Number.double x).text := by
  intro h
  have hdigits : ∀ c ∈ (Number.integer n).text.toList, c = '-' ∨ c.isDigit = true := by
    intro c hc
    rw [toList_text_integer, List.mem_append] at hc
    rcases hc with hc | hc
    · split at hc
      · exact .inl (List.mem_singleton.mp hc)
      · cases hc
    · exact .inr ((isDigits_repr _).2 c hc)
  have hmark : ∀ c ∈ x.unsignedText, c ∈ (Number.integer n).text.toList := by
    intro c hc
    rw [h, Number.text, Binary64.toList_text]
    exact List.mem_append_right _ hc
  -- Neither mark is a digit or a minus, and that is all an integer is written with.
  rcases x.point_or_exponent_mem with hpoint | hexponent
  · exact absurd (hdigits _ (hmark _ hpoint)) (by decide)
  · exact absurd (hdigits _ (hmark _ hexponent)) (by decide)

theorem eq_of_text_eq {m n : Number} (hm : m.IsCanonical) (hn : n.IsCanonical)
    (h : m.text = n.text) : m = n := by
  cases m with
  | integer m =>
    cases n with
    | integer n =>
      have hstart (k : Int) : StartsWithDigit k.natAbs.repr.toList := by
        simpa using (isDigits_repr k.natAbs).startsWithDigit_append []
      rw [← String.toList_inj, toList_text_integer, toList_text_integer] at h
      obtain ⟨hsign, hdigits⟩ := signed_inj (p := decide (m < 0)) (q := decide (n < 0))
        (hstart m) (hstart n) (by simpa using h)
      have hnatAbs := congrArg digitsValue hdigits
      rw [digitsValue_repr, digitsValue_repr] at hnatAbs
      rw [decide_eq_decide] at hsign
      congr 1
      omega
    | double y => exact absurd h (text_integer_ne_double m y)
  | double x =>
    cases n with
    | integer n => exact absurd h.symm (text_integer_ne_double n x)
    | double y => exact congrArg Number.double (Binary64.eq_of_text_eq hm hn h)

end Number

end CatalogRspec.Json
