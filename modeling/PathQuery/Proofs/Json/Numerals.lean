import PathQuery.Json.Printer
import PathQuery.Json.NumberText
import PathQuery.Proofs.Binary64.Shortest

/-!
Numbers as they are printed, and read back from a query. All printed numbers are numerals of one
form: a sign, digits, and maybe digits behind a point and an exponent.
-/

namespace PathQuery.Number

theorem natOfDigits_eq (ds : List Char) : natOfDigits ds = Nat.ofDigitChars 10 ds 0 :=
  Nat.ofDigitChars_eq_foldl.symm

theorem natOfDigits_toDigits (n : Nat) : natOfDigits (Nat.toDigits 10 n) = n := by
  rw [natOfDigits_eq, Nat.ofDigitChars_ten_toDigits]

theorem isDigit_toDigits (n : Nat) : ∀ c ∈ Nat.toDigits 10 n, c.isDigit := fun _ hc =>
  Nat.isDigit_of_mem_toDigits (by decide) (by decide) hc

/-- A text of digits has no sign to split off. -/
theorem splitSign_digits {ds : List Char} (h : ∀ c ∈ ds, c.isDigit) :
    splitSign ds = (false, ds) := by
  cases ds with
  | nil => rfl
  | cons c cs =>
      have hc := h c (by simp)
      have minus : c ≠ '-' := by
        rintro rfl
        exact absurd hc (by decide)
      have plus : c ≠ '+' := by
        rintro rfl
        exact absurd hc (by decide)
      unfold splitSign
      split <;> simp_all

theorem splitSign_intChars (i : Int) :
    splitSign (intChars i) = (decide (i < 0), Nat.toDigits 10 i.natAbs) := by
  unfold intChars
  split
  · rename_i hi
    simp [splitSign, hi]
  · rename_i hi
    rw [splitSign_digits (isDigit_toDigits _)]
    simp [hi]

theorem int64OfText?_intChars {i : Int} (h : fitsInt64 i) :
    int64OfText? (String.ofList (intChars i)) = some i := by
  have value : (if decide (i < 0) = true then -(i.natAbs : Int) else i.natAbs) = i := by
    simp only [decide_eq_true_eq]
    omega
  have digits : (Nat.toDigits 10 i.natAbs).all Char.isDigit :=
    List.all_eq_true.2 (isDigit_toDigits _)
  have some : (Nat.toDigits 10 i.natAbs).isEmpty = false :=
    List.isEmpty_eq_false_iff.2 Nat.toDigits_ne_nil
  unfold int64OfText?
  simp only [String.toList_ofList, splitSign_intChars, natOfDigits_toDigits, value, digits, some, h]
  rfl

theorem ofText?_intChars {i : Int} (h : fitsInt64 i) :
    ofText? (String.ofList (intChars i)) = some (int i) := by
  rw [ofText?, int64OfText?_intChars h]

end PathQuery.Number

namespace PathQuery

/-- The parts of a numeral. The fraction is empty when there is no point; the exponent has a sign of
its own. -/
structure Numeral where
  negative : Bool
  whole : List Char
  fraction : List Char
  exponent : Option (Bool × List Char)

namespace Numeral

open Number

def fractionChars (n : Numeral) : List Char :=
  if n.fraction.isEmpty then [] else '.' :: n.fraction

def exponentChars (n : Numeral) : List Char :=
  match n.exponent with
  | none => []
  | some (negative, ds) => 'e' :: (if negative then '-' else '+') :: ds

def unsigned (n : Numeral) : List Char :=
  n.whole ++ (n.fractionChars ++ n.exponentChars)

def chars (n : Numeral) : List Char :=
  if n.negative then '-' :: n.unsigned else n.unsigned

structure WellFormed (n : Numeral) : Prop where
  whole_ne_nil : n.whole ≠ []
  whole : ∀ c ∈ n.whole, c.isDigit
  fraction : ∀ c ∈ n.fraction, c.isDigit
  exponent : ∀ e ∈ n.exponent, e.2 ≠ [] ∧ ∀ c ∈ e.2, c.isDigit

/-- A numeral with a point or an exponent is no integer. -/
def IsFloat (n : Numeral) : Prop :=
  n.fraction ≠ [] ∨ n.exponent.isSome

def exponentValue (n : Numeral) : Int :=
  match n.exponent with
  | none => 0
  | some (negative, ds) => if negative then -(natOfDigits ds : Int) else natOfDigits ds

/-- The value of a numeral but for its sign. -/
def value (n : Numeral) : Binary64.Decimal :=
  ⟨natOfDigits (n.whole ++ n.fraction), n.exponentValue - n.fraction.length⟩

variable {n : Numeral}

theorem splitSign_chars (h : n.WellFormed) : splitSign n.chars = (n.negative, n.unsigned) := by
  unfold chars
  cases n.negative with
  | true => rfl
  | false =>
      obtain ⟨c, cs, hw⟩ := List.exists_cons_of_ne_nil h.whole_ne_nil
      have hc : c.isDigit := h.whole c (by simp [hw])
      have minus : c ≠ '-' := by
        rintro rfl
        exact absurd hc (by decide)
      have plus : c ≠ '+' := by
        rintro rfl
        exact absurd hc (by decide)
      simp only [unsigned, hw, Bool.false_eq_true, if_false, List.cons_append]
      unfold splitSign
      split <;> simp_all

/-- No digit stands behind the whole part. -/
theorem head_behind_whole (n : Numeral) :
    ∀ c ∈ (n.fractionChars ++ n.exponentChars).head?, c.isDigit = false := by
  intro c hc
  unfold fractionChars exponentChars at hc
  split at hc
  · split at hc
    · simp at hc
    · simp at hc
      simp [← hc]
  · simp at hc
    simp [← hc]

theorem takeWhile_whole (h : n.WellFormed) :
    n.unsigned.takeWhile Char.isDigit = n.whole ∧
      n.unsigned.dropWhile Char.isDigit = n.fractionChars ++ n.exponentChars := by
  have stop := n.head_behind_whole
  unfold unsigned
  rw [List.takeWhile_append_of_pos h.whole, List.dropWhile_append_of_pos h.whole]
  cases hc : n.fractionChars ++ n.exponentChars with
  | nil => simp
  | cons c cs =>
      have : c.isDigit = false := stop c (by simp [hc])
      simp [this]

theorem splitFraction_chars (h : n.WellFormed) :
    splitFraction (n.fractionChars ++ n.exponentChars) = (n.fraction, n.exponentChars) := by
  have stop : ∀ c ∈ n.exponentChars.head?, c.isDigit = false := by
    intro c hc
    unfold exponentChars at hc
    split at hc
    · simp at hc
    · simp at hc
      simp [← hc]
  unfold fractionChars
  split
  · rename_i he
    rw [List.isEmpty_iff.1 he, List.nil_append]
    unfold exponentChars splitFraction
    cases n.exponent <;> rfl
  · rw [List.cons_append]
    change (List.takeWhile Char.isDigit (n.fraction ++ n.exponentChars),
      List.dropWhile Char.isDigit (n.fraction ++ n.exponentChars)) = _
    rw [List.takeWhile_append_of_pos h.fraction, List.dropWhile_append_of_pos h.fraction]
    cases hc : n.exponentChars with
    | nil => simp
    | cons c cs =>
        have : c.isDigit = false := stop c (by simp [hc])
        simp [this]

theorem exponentOfText?_chars (h : n.WellFormed) :
    exponentOfText? n.exponentChars = some n.exponentValue := by
  unfold exponentChars exponentValue
  cases he : n.exponent with
  | none => rfl
  | some e =>
      obtain ⟨negative, ds⟩ := e
      obtain ⟨some, digits⟩ := h.exponent _ he
      have all : ds.all Char.isDigit := List.all_eq_true.2 digits
      have empty : ds.isEmpty = false := List.isEmpty_eq_false_iff.2 some
      cases negative <;> simp [exponentOfText?, splitSign, all, empty]

theorem binary64OfText?_chars (h : n.WellFormed) :
    binary64OfText? (String.ofList n.chars) = Binary64.ofDecimal n.negative n.value := by
  obtain ⟨take, drop⟩ := takeWhile_whole h
  have some : n.whole.isEmpty = false := List.isEmpty_eq_false_iff.2 h.whole_ne_nil
  unfold binary64OfText?
  simp [splitSign_chars h, take, drop, splitFraction_chars h, exponentOfText?_chars h, some, value]

/-- A numeral with a point or an exponent is read as a float. -/
theorem ofText?_chars (h : n.WellFormed) (hf : n.IsFloat) :
    ofText? (String.ofList n.chars) = (Binary64.ofDecimal n.negative n.value).map float := by
  have other : n.unsigned.all Char.isDigit = false := by
    rw [List.all_eq_false]
    rcases hf with hf | hf
    · exact ⟨'.', by simp [unsigned, fractionChars, hf], by decide⟩
    · obtain ⟨e, he⟩ := Option.isSome_iff_exists.1 hf
      exact ⟨'e', by simp [unsigned, exponentChars, he], by decide⟩
  have none : int64OfText? (String.ofList n.chars) = none := by
    unfold int64OfText?
    simp [splitSign_chars h, other]
  rw [ofText?, none, binary64OfText?_chars h]

end Numeral

namespace Number

/-- An integer is printed as a numeral of digits alone. -/
def intNumeral (i : Int) : Numeral :=
  ⟨i < 0, Nat.toDigits 10 i.natAbs, [], none⟩

theorem chars_intNumeral (i : Int) : (intNumeral i).chars = intChars i := by
  unfold Numeral.chars intNumeral intChars
  simp [Numeral.unsigned, Numeral.fractionChars, Numeral.exponentChars]

theorem wellFormed_intNumeral (i : Int) : (intNumeral i).WellFormed where
  whole_ne_nil := Nat.toDigits_ne_nil
  whole := isDigit_toDigits _
  fraction := by simp [intNumeral]
  exponent := by simp [intNumeral]

/-- The numeral of `ds * 10 ^ e` in positional form. -/
def positionalNumeral (negative : Bool) (ds : List Char) (e : Int) : Numeral :=
  let places := (-e).toNat
  if 0 ≤ e then ⟨negative, ds ++ List.replicate e.toNat '0', ['0'], none⟩
  else if places < ds.length then
    ⟨negative, ds.take (ds.length - places), ds.drop (ds.length - places), none⟩
  else ⟨negative, ['0'], List.replicate (places - ds.length) '0' ++ ds, none⟩

def scientificNumeral (negative : Bool) (ds : List Char) (lead : Int) : Numeral :=
  ⟨negative, ds.take 1, ds.tail, some (lead < 0, Nat.toDigits 10 lead.natAbs)⟩

theorem unsigned_positionalNumeral (negative : Bool) {ds : List Char} (hd : ds ≠ []) (e : Int) :
    (positionalNumeral negative ds e).unsigned = positional ds e := by
  have length := List.length_pos_iff.2 hd
  unfold positionalNumeral positional
  dsimp only
  split
  · simp [Numeral.unsigned, Numeral.fractionChars, Numeral.exponentChars]
  split
  · rename_i he hp
    have some : ds.drop (ds.length - (-e).toNat) ≠ [] := by
      rw [Ne, List.drop_eq_nil_iff]
      omega
    simp [Numeral.unsigned, Numeral.fractionChars, Numeral.exponentChars, some]
  · simp [Numeral.unsigned, Numeral.fractionChars, Numeral.exponentChars, hd]

theorem unsigned_scientificNumeral (negative : Bool) (ds : List Char) (lead : Int) :
    (scientificNumeral negative ds lead).unsigned = scientific ds lead := by
  unfold scientificNumeral scientific
  simp [Numeral.unsigned, Numeral.fractionChars, Numeral.exponentChars]

theorem natOfDigits_append_zeros (ds : List Char) (k : Nat) :
    natOfDigits (ds ++ List.replicate k '0') = natOfDigits ds * 10 ^ k := by
  rw [natOfDigits_eq, natOfDigits_eq, Nat.ofDigitChars_append, Nat.ofDigitChars_replicate_zero,
    Nat.mul_comm]

theorem natOfDigits_zeros_append (k : Nat) (ds : List Char) :
    natOfDigits (List.replicate k '0' ++ ds) = natOfDigits ds := by
  rw [natOfDigits_eq, natOfDigits_eq, Nat.ofDigitChars_append, Nat.ofDigitChars_replicate_zero,
    Nat.mul_zero]

theorem isDigit_of_mem_replicate {k : Nat} : ∀ c ∈ List.replicate k '0', c.isDigit := by
  intro c hc
  rw [List.eq_of_mem_replicate hc]
  rfl

theorem wellFormed_positionalNumeral (negative : Bool) {ds : List Char} (hd : ds ≠ [])
    (h : ∀ c ∈ ds, c.isDigit) (e : Int) : (positionalNumeral negative ds e).WellFormed := by
  unfold positionalNumeral
  dsimp only
  split
  · refine ⟨by simp [hd], ?_, by simp, by simp⟩
    intro c hc
    rcases List.mem_append.1 hc with hc | hc
    · exact h c hc
    · exact isDigit_of_mem_replicate c hc
  split
  · refine ⟨?_, fun c hc => h c (List.mem_of_mem_take hc),
      fun c hc => h c (List.mem_of_mem_drop hc), by simp⟩
    rw [Ne, List.take_eq_nil_iff]
    rintro (h0 | h0)
    · omega
    · exact hd h0
  · refine ⟨by simp, by simp, ?_, by simp⟩
    intro c hc
    rcases List.mem_append.1 hc with hc | hc
    · exact isDigit_of_mem_replicate c hc
    · exact h c hc

theorem isFloat_positionalNumeral (negative : Bool) {ds : List Char} (hd : ds ≠ []) (e : Int) :
    (positionalNumeral negative ds e).IsFloat := by
  have length := List.length_pos_iff.2 hd
  left
  unfold positionalNumeral
  dsimp only
  split
  · simp
  split
  · rw [Ne, List.drop_eq_nil_iff]
    omega
  · simp [hd]

theorem value_positionalNumeral (negative negative' : Bool) (ds : List Char) (e : Int) :
    Binary64.ofDecimal negative' (positionalNumeral negative ds e).value =
      Binary64.ofDecimal negative' ⟨natOfDigits ds, e⟩ := by
  unfold positionalNumeral
  dsimp only
  split
  · rename_i he
    have digits : natOfDigits (ds ++ List.replicate e.toNat '0' ++ ['0']) =
        natOfDigits ds * 10 ^ (e.toNat + 1) := by
      rw [← natOfDigits_append_zeros, List.replicate_succ', List.append_assoc]
    simp only [Numeral.value, Numeral.exponentValue, digits, List.length_singleton]
    rw [Binary64.ofDecimal_mul_pow]
    congr 2
    omega
  split
  · simp only [Numeral.value, Numeral.exponentValue, List.take_append_drop, List.length_drop]
    congr 2
    omega
  · have digits : natOfDigits (['0'] ++ (List.replicate ((-e).toNat - ds.length) '0' ++ ds)) =
        natOfDigits ds := by
      rw [← List.append_assoc, ← List.replicate_one, List.replicate_append_replicate,
        natOfDigits_zeros_append]
    simp only [Numeral.value, Numeral.exponentValue, digits, List.length_append,
      List.length_replicate]
    congr 2
    omega

theorem wellFormed_scientificNumeral (negative : Bool) {ds : List Char} (hd : ds ≠ [])
    (h : ∀ c ∈ ds, c.isDigit) (lead : Int) : (scientificNumeral negative ds lead).WellFormed where
  whole_ne_nil := by
    rw [scientificNumeral, Ne, List.take_eq_nil_iff]
    simp [hd]
  whole := fun c hc => h c (List.mem_of_mem_take hc)
  fraction := fun c hc => h c (List.mem_of_mem_tail hc)
  exponent := by
    intro e he
    cases he
    exact ⟨Nat.toDigits_ne_nil, isDigit_toDigits _⟩

theorem value_scientificNumeral (negative : Bool) {ds : List Char} (hd : ds ≠ []) (e : Int) :
    (scientificNumeral negative ds (e + ds.length - 1)).value = ⟨natOfDigits ds, e⟩ := by
  have length := List.length_pos_iff.2 hd
  have whole : ds.take 1 ++ ds.tail = ds := by
    cases ds <;> simp
  have exponent : (scientificNumeral negative ds (e + ds.length - 1)).exponentValue =
      e + ds.length - 1 := by
    simp only [scientificNumeral, Numeral.exponentValue, natOfDigits_toDigits, decide_eq_true_eq]
    omega
  unfold Numeral.value
  rw [exponent]
  simp only [scientificNumeral, whole, List.length_tail]
  congr 1
  omega

/-- A float is printed as a numeral with a point or an exponent. -/
def floatNumeral (x : Binary64) : Numeral :=
  let d := x.shortest
  let ds := Nat.toDigits 10 d.digits
  let lead : Int := d.exponent + ds.length - 1
  if layout.least ≤ lead ∧ lead ≤ layout.greatest then
    positionalNumeral x.negative ds d.exponent
  else scientificNumeral x.negative ds lead

theorem negative_floatNumeral (x : Binary64) : (floatNumeral x).negative = x.negative := by
  unfold floatNumeral positionalNumeral scientificNumeral
  dsimp only
  split
  · split
    · rfl
    · split <;> rfl
  · rfl

theorem chars_floatNumeral (x : Binary64) : (floatNumeral x).chars = floatChars x := by
  have unsigned : (floatNumeral x).unsigned =
      let d := x.shortest
      let ds := Nat.toDigits 10 d.digits
      let lead : Int := d.exponent + ds.length - 1
      if layout.least ≤ lead ∧ lead ≤ layout.greatest then positional ds d.exponent
      else scientific ds lead := by
    unfold floatNumeral
    dsimp only
    split
    · rw [unsigned_positionalNumeral _ Nat.toDigits_ne_nil]
    · rw [unsigned_scientificNumeral]
  unfold Numeral.chars
  rw [negative_floatNumeral, unsigned]
  rfl

theorem wellFormed_floatNumeral (x : Binary64) : (floatNumeral x).WellFormed := by
  unfold floatNumeral
  dsimp only
  split
  · exact wellFormed_positionalNumeral _ Nat.toDigits_ne_nil (isDigit_toDigits _) _
  · exact wellFormed_scientificNumeral _ Nat.toDigits_ne_nil (isDigit_toDigits _) _

theorem isFloat_floatNumeral (x : Binary64) : (floatNumeral x).IsFloat := by
  unfold floatNumeral
  dsimp only
  split
  · exact isFloat_positionalNumeral _ Nat.toDigits_ne_nil _
  · exact .inr rfl

theorem value_floatNumeral (x : Binary64) (negative : Bool) :
    Binary64.ofDecimal negative (floatNumeral x).value =
      Binary64.ofDecimal negative x.shortest := by
  unfold floatNumeral
  dsimp only
  split
  · rw [value_positionalNumeral, natOfDigits_toDigits]
  · rw [value_scientificNumeral _ Nat.toDigits_ne_nil, natOfDigits_toDigits]

/-- A printed float is read back from a query as it was. -/
theorem ofText?_floatChars (x : Binary64) :
    ofText? (String.ofList (floatChars x)) = some (float x) := by
  rw [← chars_floatNumeral, Numeral.ofText?_chars (wellFormed_floatNumeral x)
    (isFloat_floatNumeral x), negative_floatNumeral, value_floatNumeral,
    Binary64.ofDecimal_shortest]
  rfl

end Number

end PathQuery
