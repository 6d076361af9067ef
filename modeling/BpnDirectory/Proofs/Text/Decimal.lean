import BpnDirectory.Text.Decimal

namespace BpnDirectory
namespace Text

/-!
Numbers in decimal notation read back.

A whole number is written with its least number of digits, behind a minus sign if it is
negative.  The reader takes it for the same number, as long as that is in its range.
-/

theorem digitValue?_of_isDigit {c : Char} (digit : c.isDigit = true) :
    digitValue? c = some (c.toNat - '0'.toNat) := by
  have bounds : '0' ≤ c ∧ c ≤ '9' := by
    simpa [Char.isDigit, Char.le_def] using digit
  simp only [digitValue?, if_pos bounds]

theorem digitsFrom?_eq {digits : List Char} (allDigits : ∀ c ∈ digits, c.isDigit = true)
    (value : Nat) : digitsFrom? value digits = some (Nat.ofDigitChars 10 digits value) := by
  induction digits generalizing value with
  | nil => rfl
  | cons c rest ih =>
      have first := digitValue?_of_isDigit (allDigits c List.mem_cons_self)
      simp only [digitsFrom?, first, Nat.ofDigitChars_cons]
      exact ih (fun other member => allDigits other (List.mem_cons_of_mem c member)) _

/-- A number is written with digits only, and with one at least. -/
theorem exists_toDigits (n : Nat) : ∃ first rest, Nat.toDigits 10 n = first :: rest ∧
    ∀ c ∈ first :: rest, c.isDigit = true := by
  cases written : Nat.toDigits 10 n with
  | nil => exact absurd written Nat.toDigits_ne_nil
  | cons first rest =>
      refine ⟨first, rest, rfl, fun c member => ?_⟩
      exact Nat.isDigit_of_mem_toDigits (by decide) (by decide) (written ▸ member)

theorem digits?_toDigits (n : Nat) : digits? (Nat.toDigits 10 n) = some n := by
  rcases exists_toDigits n with ⟨first, rest, written, allDigits⟩
  have value := Nat.ofDigitChars_ten_toDigits (n := n)
  rw [written] at value ⊢
  rw [digits?, digitsFrom?_eq allDigits, value]

theorem toList_toString_ofNat (n : Nat) : (toString (Int.ofNat n)).toList = Nat.toDigits 10 n :=
  Nat.toList_repr

theorem toList_toString_negSucc (n : Nat) :
    (toString (Int.negSucc n)).toList = '-' :: Nat.toDigits 10 (n + 1) := by
  change ("-" ++ Nat.repr (n + 1)).toList = _
  rw [String.toList_append, Nat.toList_repr]
  rfl

/-- A number is read back by every reader whose range it is in. -/
theorem integer?_toString {least greatest n : Int} (above : least ≤ n) (below : n ≤ greatest) :
    integer? least greatest (toString n) = some n := by
  have inRange : (decide (least ≤ n) && decide (n ≤ greatest)) = true := by simp [above, below]
  cases n with
  | ofNat n =>
      rcases exists_toDigits n with ⟨first, rest, written, allDigits⟩
      have isDigit := allDigits first List.mem_cons_self
      have value := digits?_toDigits n
      have unsigned := toList_toString_ofNat n
      rw [written] at value unsigned
      have notPlus : first ≠ '+' := fun same => by simp [same, Char.isDigit] at isDigit
      have notMinus : first ≠ '-' := fun same => by simp [same, Char.isDigit] at isDigit
      unfold integer?
      rw [unsigned]
      split
      · next same => exact absurd (List.cons.inj same).1 notPlus
      · next same => exact absurd (List.cons.inj same).1 notMinus
      · rw [value]
        simp only [Option.map_some, Option.filter_some, Int.ofNat_eq_natCast] at inRange ⊢
        rw [if_pos inRange]
  | negSucc n =>
      unfold integer?
      rw [toList_toString_negSucc]
      have magnitude : -Int.ofNat (n + 1) = Int.negSucc n := rfl
      simp only [digits?_toDigits, Option.map_some, magnitude, Option.filter_some]
      rw [if_pos inRange]

/-- The characters of a number are digits, and minus signs. -/
theorem isDigit_of_mem_toString {n : Int} {c : Char} (member : c ∈ (toString n).toList) :
    c = '-' ∨ c.isDigit = true := by
  cases n with
  | ofNat n =>
      rw [toList_toString_ofNat] at member
      exact Or.inr (Nat.isDigit_of_mem_toDigits (by decide) (by decide) member)
  | negSucc n =>
      rw [toList_toString_negSucc] at member
      refine (List.mem_cons.mp member).imp id fun later => ?_
      exact Nat.isDigit_of_mem_toDigits (by decide) (by decide) later

theorem signed64?_toString {n : Int} (above : minSigned64 ≤ n) (below : n ≤ maxSigned64) :
    signed64? (toString n) = some n :=
  integer?_toString above below

end Text
end BpnDirectory
