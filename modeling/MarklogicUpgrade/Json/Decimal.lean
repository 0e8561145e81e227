import Mathlib.Data.Nat.Digits
import MarklogicUpgrade.Json.TimeParse

/-!
# Decimal digits

What the encoder writes for a number and what the decoder reads back. `Nat.toDigits 10 n` is a
nonempty run of decimal digits of value `n`, with no leading zero unless `n = 0` (`Decimal`);
`appendInt` pads it with zeros to its width; `toString` on `Int` puts a minus sign before a
negative number. Reading digits back is `digitsValue`, a left fold, which leading zeros do not
change and trailing zeros multiply by ten.
-/

namespace MarklogicUpgrade

/-! ### Reading digits -/

@[simp] theorem digitsValue_nil : digitsValue [] = 0 := rfl

theorem digitsValue_append (cs ds : List Char) :
    digitsValue (cs ++ ds) = ds.foldl (fun x c ↦ 10 * x + (c.toNat - 48)) (digitsValue cs) :=
  List.foldl_append _ _ _ _

theorem digitsValue_append_singleton (cs : List Char) (c : Char) :
    digitsValue (cs ++ [c]) = 10 * digitsValue cs + (c.toNat - 48) := by
  simp [digitsValue_append]

@[simp] theorem digitsValue_replicate_zero (n : Nat) : digitsValue (List.replicate n '0') = 0 := by
  induction n with
  | zero => rfl
  | succ n ih =>
    rw [List.replicate_succ', digitsValue_append_singleton, ih]
    rfl

theorem digitsValue_zeros_append (n : Nat) (cs : List Char) :
    digitsValue (List.replicate n '0' ++ cs) = digitsValue cs := by
  rw [digitsValue_append, digitsValue_replicate_zero]
  rfl

theorem digitsValue_append_zeros (cs : List Char) (n : Nat) :
    digitsValue (cs ++ List.replicate n '0') = digitsValue cs * 10 ^ n := by
  induction n with
  | zero => simp
  | succ n ih =>
    rw [List.replicate_succ', ← List.append_assoc, digitsValue_append_singleton, ih, pow_succ]
    simp only [Char.toNat, show ('0' : Char).val.toNat = 48 from rfl]
    ring

/-! ### Writing digits -/

/-- A nonempty run of decimal digits of value `n`, with no leading zero unless `n = 0`. -/
structure Decimal (ds : List Char) (n : Nat) : Prop where
  ne_nil : ds ≠ []
  isDigit : ∀ c ∈ ds, c.isDigit
  value : digitsValue ds = n
  head_ne_zero : 0 < n → ds.head? ≠ some '0'

theorem digitChar_digit : ∀ k < 10,
    (Nat.digitChar k).isDigit ∧ (Nat.digitChar k).toNat - 48 = k ∧ (0 < k → Nat.digitChar k ≠ '0') := by
  decide

/-- `toDigitsCore` with enough fuel writes the digits of `n` before what it was given. -/
theorem toDigitsCore_decimal (fuel : Nat) : ∀ n ds, n < fuel →
    ∃ digs, Nat.toDigitsCore 10 fuel n ds = digs ++ ds ∧ Decimal digs n := by
  induction fuel with
  | zero => intro n ds h; omega
  | succ fuel ih =>
    intro n ds hn
    obtain ⟨hd, hv, hz⟩ := digitChar_digit (n % 10) (Nat.mod_lt _ (by decide))
    by_cases h : n / 10 = 0
    · refine ⟨[Nat.digitChar (n % 10)], by simp [Nat.toDigitsCore, h], ⟨by simp, by simpa, ?_, ?_⟩⟩
      · simp only [digitsValue, List.foldl, hv]; omega
      · intro hpos
        simpa using hz (by omega)
    · obtain ⟨digs, he, hdec⟩ := ih (n / 10) (Nat.digitChar (n % 10) :: ds) (by omega)
      refine ⟨digs ++ [Nat.digitChar (n % 10)], by simp [Nat.toDigitsCore, h, he], ⟨by simp, ?_, ?_, ?_⟩⟩
      · simpa [or_imp, forall_and] using ⟨hdec.isDigit, hd⟩
      · rw [digitsValue_append_singleton, hdec.value, hv]; omega
      · intro _
        obtain ⟨c, cs, rfl⟩ := List.exists_cons_of_ne_nil hdec.ne_nil
        simpa using hdec.head_ne_zero (by omega)

theorem toDigits_decimal (n : Nat) : Decimal (Nat.toDigits 10 n) n := by
  obtain ⟨digs, he, hdec⟩ := toDigitsCore_decimal (n + 1) n [] (by omega)
  rw [Nat.toDigits, he, List.append_nil]
  exact hdec

@[simp] theorem repr_data (n : Nat) : (Nat.repr n).data = Nat.toDigits 10 n := rfl

theorem toDigits_length_le {n w : Nat} (hw : 0 < w) (hn : n < 10 ^ w) :
    (Nat.toDigits 10 n).length ≤ w :=
  Nat.repr_length n w hw hn

/-! ### `appendInt` -/

theorem appendInt_data_eq {x : Int} (w : Nat) (h0 : 0 ≤ x) :
    (appendInt x w).data =
      List.replicate (w - (Nat.toDigits 10 x.natAbs).length) '0' ++ Nat.toDigits 10 x.natAbs := by
  simp only [appendInt, if_neg (show ¬x < 0 by omega), String.data_append]
  rfl

/-- `appendInt x w` for `0 ≤ x < 10 ^ w` is `w` digits of value `x`. -/
theorem appendInt_data {x : Int} {w : Nat} (hw : 0 < w) (h0 : 0 ≤ x) (hx : x < 10 ^ w) :
    (appendInt x w).data.length = w ∧ (∀ c ∈ (appendInt x w).data, c.isDigit) ∧
      (digitsValue (appendInt x w).data : Int) = x := by
  have hn : x.natAbs < 10 ^ w := by
    rw [← Int.ofNat_lt, Int.natAbs_of_nonneg h0]; exact_mod_cast hx
  have hlen := toDigits_length_le hw hn
  have hdec := toDigits_decimal x.natAbs
  rw [appendInt_data_eq w h0]
  refine ⟨by simp only [List.length_append, List.length_replicate]; omega, ?_, ?_⟩
  · intro c hc
    rcases List.mem_append.1 hc with hc | hc
    · rw [List.eq_of_mem_replicate hc]; rfl
    · exact hdec.isDigit c hc
  · rw [digitsValue_zeros_append, hdec.value]
    omega

end MarklogicUpgrade
