import RecordFilter.Text.Digits
import RecordFilter.Number.Words
/-!
# Digits read back

The digits of a number are digits, and they are read as the number; the same of digits that are
padded with zeros. A number is bounded by how many digits it is read from.
-/
namespace RecordFilter.Text

theorem isDigit_of_mem_natDigits {n : Nat} {c : Char} (h : c ∈ natDigits n) : c.isDigit = true :=
  Nat.isDigit_of_mem_toDigits (by decide) (by decide) h

theorem length_natDigits_le {n k : Nat} (h : n < tenPow k) (hk : 0 < k) :
    (natDigits n).length ≤ k :=
  (Nat.length_toDigits_le_iff (by decide) hk).2 h

theorem ofDigits_eq_ofDigitChars (cs : List Char) : ofDigits cs = Nat.ofDigitChars 10 cs 0 :=
  Nat.ofDigitChars_eq_foldl.symm

theorem ofDigits_natDigits (n : Nat) : ofDigits (natDigits n) = n := by
  rw [ofDigits_eq_ofDigitChars, natDigits, Nat.ofDigitChars_ten_toDigits]

theorem ofDigits_paddedDigits (width n : Nat) : ofDigits (paddedDigits width n) = n := by
  rw [ofDigits_eq_ofDigitChars, paddedDigits, Nat.ofDigitChars_append,
    Nat.ofDigitChars_replicate_zero, Nat.mul_zero, ← ofDigits_eq_ofDigitChars, ofDigits_natDigits]

theorem length_paddedDigits {width n : Nat} (h : n < tenPow width) (hw : 0 < width) :
    (paddedDigits width n).length = width := by
  have := length_natDigits_le h hw
  simp only [paddedDigits, List.length_append, List.length_replicate]
  omega

theorem all_isDigit_paddedDigits (width n : Nat) :
    (paddedDigits width n).all Char.isDigit = true := by
  rw [List.all_eq_true]
  intro c hc
  rcases List.mem_append.1 hc with h | h
  · rw [List.eq_of_mem_replicate h]
    rfl
  · exact isDigit_of_mem_natDigits h

theorem digitValue_lt {c : Char} (h : c.isDigit = true) : digitValue c < 10 := by
  simp only [Char.isDigit, Bool.and_eq_true, decide_eq_true_eq, UInt32.le_iff_toNat_le] at h
  have hvalue : digitValue c = c.val.toNat - 48 := rfl
  have hlast : ('9'.val : UInt32).toNat = 57 := rfl
  omega

theorem ofDigits_lt {cs : List Char} (h : ∀ c ∈ cs, c.isDigit = true) :
    ofDigits cs < tenPow cs.length := by
  -- the digits that have been read count in front of those that follow
  have hread (n : Nat) :
      cs.foldl (fun n c => 10 * n + digitValue c) n < (n + 1) * tenPow cs.length := by
    induction cs generalizing n with
    | nil => simp
    | cons c cs ih =>
      have hdigit := digitValue_lt (h c List.mem_cons_self)
      have hrest := ih (fun c' hc' => h c' (List.mem_cons_of_mem c hc')) (10 * n + digitValue c)
      have hle : (10 * n + digitValue c + 1) * tenPow cs.length ≤
          ((n + 1) * 10) * tenPow cs.length :=
        Nat.mul_le_mul_right _ (by omega)
      rw [List.foldl_cons, List.length_cons, tenPow_succ]
      calc
        _ < (10 * n + digitValue c + 1) * tenPow cs.length := hrest
        _ ≤ ((n + 1) * 10) * tenPow cs.length := hle
        _ = (n + 1) * (tenPow cs.length * 10) := by rw [Nat.mul_assoc, Nat.mul_comm 10]
  simpa [ofDigits] using hread 0

end RecordFilter.Text
