import Mathlib.Algebra.CharP.Two
import Mathlib.Algebra.Field.ZMod
import Mathlib.RingTheory.AdjoinRoot

/-!
# Bit strings as polynomials over the field with two elements

A bit string is read as a polynomial, most significant bit first, and exclusive
or is addition.  A machine word of width `w` is the polynomial of its bits, so
that the words of width `w` are exactly the remainders modulo a monic polynomial
of degree `w`.

`divide` is long division as a shift register carries it out: one bit of the
dividend enters, and when a one leaves the register the generator is subtracted.
`ofWord_divide` says that what stays in the register is the remainder of the
dividend times `X ^ w`.  Since the remainders are unique, anything else that
computes them agrees with the register (`eq_divide_of_residue`).

`not_dvd_of_burst` is the fact behind the use of such remainders as checksums: a
generator with a constant term divides no error pattern that is confined to `w`
consecutive bits.
-/

namespace Gf2

open Polynomial

/-! ## Bit strings -/

/-- The coefficient that a bit stands for. -/
def ofBit (bit : Bool) : ZMod 2 :=
  if bit then 1 else 0

@[simp] theorem ofBit_false : ofBit false = 0 := rfl

@[simp] theorem ofBit_true : ofBit true = 1 := rfl

@[simp] theorem ofBit_xor (a b : Bool) : ofBit (a ^^ b) = ofBit a + ofBit b := by
  cases a <;> cases b <;> decide

theorem ofBit_injective : Function.Injective ofBit := by
  intro a b heq
  cases a <;> cases b <;> simp_all

/-- The polynomial whose coefficients are the bits of a string, the most
significant one first. -/
noncomputable def ofBits : List Bool → (ZMod 2)[X]
  | [] => 0
  | bit :: bits => C (ofBit bit) * X ^ bits.length + ofBits bits

@[simp] theorem ofBits_nil : ofBits [] = 0 := rfl

theorem ofBits_append (high low : List Bool) :
    ofBits (high ++ low) = ofBits high * X ^ low.length + ofBits low := by
  induction high with
  | nil => simp
  | cons bit high ih =>
      rw [List.cons_append, ofBits, ofBits, ih, List.length_append]
      ring

theorem ofBits_concat (bits : List Bool) (bit : Bool) :
    ofBits (bits ++ [bit]) = ofBits bits * X + C (ofBit bit) := by
  simp [ofBits_append, ofBits]

theorem degree_ofBits_lt (bits : List Bool) : (ofBits bits).degree < bits.length := by
  induction bits with
  | nil => simp
  | cons bit bits ih =>
      rw [ofBits, List.length_cons]
      refine (degree_add_le _ _).trans_lt (max_lt ?_ ?_)
      · refine (degree_C_mul_X_pow_le bits.length (ofBit bit)).trans_lt ?_
        exact_mod_cast Nat.lt_succ_self bits.length
      · refine ih.trans ?_
        exact_mod_cast Nat.lt_succ_self bits.length

/-- A string without a one is the zero polynomial. -/
theorem ofBits_eq_zero {bits : List Bool} (hnone : true ∉ bits) : ofBits bits = 0 := by
  induction bits with
  | nil => rfl
  | cons bit bits ih =>
      have hbit : bit = false := by
        cases bit with
        | false => rfl
        | true => exact absurd List.mem_cons_self hnone
      rw [ofBits, hbit, ih fun hmem => hnone (List.mem_cons_of_mem _ hmem)]
      simp

/-- A string with a one is not: the first one is the leading coefficient. -/
theorem ofBits_ne_zero {bits : List Bool} (hone : true ∈ bits) : ofBits bits ≠ 0 := by
  induction bits with
  | nil => exact absurd hone List.not_mem_nil
  | cons bit bits ih =>
      cases bit with
      | false =>
          have hrest : true ∈ bits := by simpa using hone
          simpa [ofBits] using ih hrest
      | true =>
          intro hzero
          have hlead : (ofBits (true :: bits)).coeff bits.length = 1 := by
            rw [ofBits, coeff_add, coeff_eq_zero_of_degree_lt (degree_ofBits_lt bits)]
            simp
          rw [hzero, coeff_zero] at hlead
          exact absurd hlead (by decide)

theorem coeff_ofBits (bits : List Bool) (i : Nat) :
    (ofBits bits).coeff i = ofBit (bits.reverse[i]?.getD false) := by
  induction bits with
  | nil => simp
  | cons bit bits ih =>
      rw [ofBits, coeff_add, coeff_C_mul_X_pow, ih, List.reverse_cons]
      rcases lt_trichotomy i bits.length with hlow | rfl | hhigh
      · rw [if_neg hlow.ne, zero_add, List.getElem?_append_left (by simpa using hlow)]
      · simp
      · rw [if_neg hhigh.ne', zero_add, List.getElem?_eq_none (by simpa using hhigh.le),
          List.getElem?_eq_none (by simpa using hhigh)]

/-! ## Words -/

variable {w : Nat}

/-- The bits of a word, the most significant one first. -/
def msbs (word : BitVec w) : List Bool :=
  List.ofFn fun i : Fin w => word.getMsbD i

@[simp] theorem length_msbs (word : BitVec w) : (msbs word).length = w := by
  simp [msbs]

/-- The polynomial of a word. -/
noncomputable def ofWord (word : BitVec w) : (ZMod 2)[X] :=
  ofBits (msbs word)

@[simp] theorem coeff_ofWord (word : BitVec w) (i : Nat) :
    (ofWord word).coeff i = ofBit (word.getLsbD i) := by
  rw [ofWord, coeff_ofBits]
  by_cases hi : i < w
  · rw [List.getElem?_reverse (by simpa using hi)]
    have hmirror : w - 1 - (w - 1 - i) = i := by omega
    have hlast : w - 1 - i < w := by omega
    simp [msbs, BitVec.getMsbD_eq_getLsbD, hlast, hmirror]
  · rw [List.getElem?_eq_none (by simpa using hi), BitVec.getLsbD_of_ge word i (by omega)]
    rfl

theorem degree_ofWord_lt (word : BitVec w) : (ofWord word).degree < w := by
  simpa [ofWord] using degree_ofBits_lt (msbs word)

theorem ofWord_injective : Function.Injective (ofWord : BitVec w → (ZMod 2)[X]) := by
  intro a b heq
  apply BitVec.eq_of_getLsbD_eq
  intro i _
  apply ofBit_injective
  rw [← coeff_ofWord, ← coeff_ofWord, heq]

@[simp] theorem ofWord_zero : ofWord (0#w) = 0 := by
  ext i
  simp

@[simp] theorem ofWord_xor (a b : BitVec w) : ofWord (a ^^^ b) = ofWord a + ofWord b := by
  ext i
  simp

/-- A word shifted by one place, with the bit that leaves it. -/
theorem ofWord_mul_X (word : BitVec w) :
    ofWord word * X = ofWord (word <<< 1) + C (ofBit word.msb) * X ^ w := by
  ext i
  rw [coeff_add, coeff_ofWord, coeff_C_mul_X_pow, BitVec.getLsbD_shiftLeft]
  cases i with
  | zero =>
      cases w with
      | zero => simp [BitVec.eq_nil word]
      | succ w => simp
  | succ i =>
      rw [coeff_mul_X, coeff_ofWord]
      rcases lt_trichotomy (i + 1) w with hin | rfl | hout
      · simp [hin, hin.ne]
      · simp [BitVec.msb_eq_getLsbD_last]
      · have hnone : word.getLsbD i = false := BitVec.getLsbD_of_ge word i (by omega)
        simp [hnone, hout.ne']

/-- A word shifted by `k` places, with the `k` bits that leave it. -/
theorem ofWord_mul_X_pow (word : BitVec w) {k : Nat} (hk : k ≤ w) :
    ofWord word * X ^ k =
      ofWord (word <<< k) + ofWord ((word >>> (w - k)).setWidth k) * X ^ w := by
  ext i
  rw [coeff_mul_X_pow', coeff_add, coeff_mul_X_pow', coeff_ofWord, coeff_ofWord, coeff_ofWord,
    BitVec.getLsbD_shiftLeft, BitVec.getLsbD_setWidth, BitVec.getLsbD_ushiftRight]
  by_cases hlow : i < w
  · by_cases habove : k ≤ i
    · simp [hlow, habove, not_le.mpr hlow, not_lt.mpr habove]
    · simp [habove, not_le.mpr hlow, not_le.mp habove]
  · have hindex : w - k + (i - w) = i - k := by omega
    by_cases hin : i - w < k
    · simp [hlow, hindex, hin, hk.trans (not_lt.mp hlow), not_lt.mp hlow]
    · have hnone : word.getLsbD (i - k) = false := BitVec.getLsbD_of_ge word (i - k) (by omega)
      simp [hlow, hindex, hnone]

/-- The word of a number from its high and its low digits. -/
theorem ofWord_ofNat_add (high low value : Nat) :
    ofWord (BitVec.ofNat (high + low) value) =
      ofWord (BitVec.ofNat high (value / 2 ^ low)) * X ^ low +
        ofWord (BitVec.ofNat low value) := by
  ext i
  rw [coeff_add, coeff_mul_X_pow', coeff_ofWord, coeff_ofWord, coeff_ofWord,
    BitVec.getLsbD_ofNat, BitVec.getLsbD_ofNat, BitVec.getLsbD_ofNat, Nat.testBit_div_two_pow]
  by_cases hlow : i < low
  · have hbound : i < high + low := by omega
    simp [hlow, hbound, not_le.mpr hlow]
  · have hindex : i - low + low = i := by omega
    have hbound : i - low < high ↔ i < high + low := by omega
    simp [hlow, not_lt.mp hlow, hindex, hbound]

/-! ## Division by a shift register -/

/-- The monic polynomial of degree `w` whose lower coefficients are a word. -/
noncomputable def modulus (generator : BitVec w) : (ZMod 2)[X] :=
  X ^ w + ofWord generator

/-- One bit of the dividend enters the register; when a one leaves it, the
generator is subtracted. -/
def push (generator register : BitVec w) (bit : Bool) : BitVec w :=
  if register.msb ^^ bit then (register <<< 1) ^^^ generator else register <<< 1

/-- What stays in the register when the whole dividend has entered. -/
def divide (generator : BitVec w) (bits : List Bool) : BitVec w :=
  bits.foldl (push generator) 0

section Division

variable (generator : BitVec w)

/-- The residue class of a polynomial. -/
noncomputable abbrev residue : (ZMod 2)[X] →+* AdjoinRoot (modulus generator) :=
  AdjoinRoot.mk (modulus generator)

theorem monic_modulus : (modulus generator).Monic :=
  monic_X_pow_add (degree_ofWord_lt generator)

theorem degree_modulus : (modulus generator).degree = w := by
  rw [modulus, degree_add_eq_left_of_degree_lt] <;> rw [degree_X_pow]
  exact degree_ofWord_lt generator

theorem ofWord_push (register : BitVec w) (bit : Bool) :
    ofWord (push generator register bit) =
      ofWord register * X + C (ofBit bit) * X ^ w +
        C (ofBit (register.msb ^^ bit)) * modulus generator := by
  have hpush : ofWord (push generator register bit) =
      ofWord (register <<< 1) + C (ofBit (register.msb ^^ bit)) * ofWord generator := by
    rw [push]
    split <;> rename_i hcarry <;> simp [hcarry]
  -- The leading term enters twice, once with the carry and once with the modulus.
  have htwo : (2 : (ZMod 2)[X]) = 0 := CharTwo.two_eq_zero
  rw [hpush, ofWord_mul_X, modulus, ofBit_xor, C_add]
  linear_combination -(C (ofBit register.msb) + C (ofBit bit)) * X ^ w * htwo

/-- One step of the register in the ring of residues. -/
theorem residue_push (register : BitVec w) (bit : Bool) :
    residue generator (ofWord (push generator register bit)) =
      residue generator (ofWord register * X + C (ofBit bit) * X ^ w) := by
  rw [ofWord_push, map_add _ (_ + _), map_mul _ _ (modulus generator), AdjoinRoot.mk_self,
    mul_zero, add_zero]

theorem residue_divide (bits : List Bool) :
    residue generator (ofWord (divide generator bits)) =
      residue generator (ofBits bits * X ^ w) := by
  induction bits using List.reverseRecOn with
  | nil => simp [divide]
  | append_singleton bits bit ih =>
      have hstep : divide generator (bits ++ [bit]) =
          push generator (divide generator bits) bit := by
        simp [divide]
      rw [hstep, residue_push, map_add, map_mul, ih, ← map_mul, ← map_add, ofBits_concat]
      exact congrArg (residue generator) (by ring)

/-- A word is the remainder of every polynomial in its residue class. -/
theorem ofWord_eq_modByMonic {word : BitVec w} {p : (ZMod 2)[X]}
    (hclass : residue generator (ofWord word) = residue generator p) :
    ofWord word = p %ₘ modulus generator := by
  have hmonic := monic_modulus generator
  have hsame : ofWord word %ₘ modulus generator = p %ₘ modulus generator :=
    modByMonic_eq_of_dvd_sub hmonic (AdjoinRoot.mk_eq_mk.mp hclass)
  rwa [(modByMonic_eq_self_iff hmonic).mpr] at hsame
  rw [degree_modulus]
  exact degree_ofWord_lt word

theorem ofWord_divide (bits : List Bool) :
    ofWord (divide generator bits) = ofBits bits * X ^ w %ₘ modulus generator :=
  ofWord_eq_modByMonic generator (residue_divide generator bits)

/-- Whatever computes the residue of the dividend computes what the register
does. -/
theorem eq_divide_of_residue {word : BitVec w} {bits : List Bool}
    (hclass : residue generator (ofWord word) = residue generator (ofBits bits * X ^ w)) :
    word = divide generator bits := by
  apply ofWord_injective
  rw [ofWord_divide, ofWord_eq_modByMonic generator hclass]

end Division

/-! ## Bursts -/

/-- An error pattern with at least one error, all of them within `width`
consecutive bits. -/
def Burst (width : Nat) (error : List Bool) : Prop :=
  true ∈ error ∧ ∃ start < error.length,
    ∀ i < error.length, error[i]? = some true → start ≤ i ∧ i < start + width

instance (width : Nat) (error : List Bool) : Decidable (Burst width error) :=
  inferInstanceAs (Decidable (_ ∧ _))

/-- The polynomial of a burst is a short polynomial, shifted. -/
theorem Burst.ofBits_eq {width : Nat} {error : List Bool} (hburst : Burst width error) :
    ∃ (short : (ZMod 2)[X]) (k : Nat), short ≠ 0 ∧ short.degree < width ∧
      ofBits error = short * X ^ k := by
  obtain ⟨hone, start, -, hall⟩ := hburst
  have hwithin : ∀ i, error[i]? = some true → start ≤ i ∧ i < start + width := fun i hi =>
    hall i (List.getElem?_eq_some_iff.mp hi).1 hi
  have hbefore : true ∉ error.take start := by
    intro hmem
    obtain ⟨i, hi⟩ := List.mem_iff_getElem?.mp hmem
    rw [List.getElem?_take] at hi
    split at hi
    · exact absurd (hwithin i hi).1 (by omega)
    · cases hi
  have hafter : true ∉ (error.drop start).drop width := by
    intro hmem
    obtain ⟨i, hi⟩ := List.mem_iff_getElem?.mp hmem
    rw [List.getElem?_drop, List.getElem?_drop] at hi
    exact absurd (hwithin _ hi).2 (by omega)
  have hsplit : error =
      error.take start ++ ((error.drop start).take width ++ (error.drop start).drop width) := by
    rw [List.take_append_drop, List.take_append_drop]
  have heq : ofBits error =
      ofBits ((error.drop start).take width) * X ^ ((error.drop start).drop width).length := by
    conv_lhs => rw [hsplit]
    rw [ofBits_append, ofBits_eq_zero hbefore, ofBits_append, ofBits_eq_zero hafter]
    ring
  refine ⟨_, _, ?_, ?_, heq⟩
  · intro hzero
    rw [hzero, zero_mul] at heq
    exact ofBits_ne_zero hone heq
  · refine (degree_ofBits_lt _).trans_le ?_
    exact_mod_cast List.length_take_le _ _

/-- A polynomial with a constant term is coprime to every power of `X`. -/
theorem isCoprime_X_pow {p : (ZMod 2)[X]} (hconstant : p.coeff 0 ≠ 0) (k : Nat) :
    IsCoprime p (X ^ k) := by
  refine IsCoprime.pow_right ?_
  have hprime : IsCoprime X p :=
    (irreducible_X.coprime_iff_not_dvd).mpr fun hdvd => hconstant (X_dvd_iff.mp hdvd)
  exact hprime.symm

/-- A generator with a constant term divides no burst of its own width. -/
theorem not_dvd_of_burst {generator : BitVec w} (hconstant : (modulus generator).coeff 0 ≠ 0)
    {error : List Bool} (hburst : Burst w error) : ¬ modulus generator ∣ ofBits error := by
  obtain ⟨short, k, hne, hdegree, heq⟩ := hburst.ofBits_eq
  intro hdvd
  rw [heq] at hdvd
  have hshort : modulus generator ∣ short :=
    (isCoprime_X_pow hconstant k).dvd_of_dvd_mul_right hdvd
  have hle := degree_le_of_dvd hshort hne
  rw [degree_modulus] at hle
  exact absurd hle hdegree.not_ge

end Gf2
