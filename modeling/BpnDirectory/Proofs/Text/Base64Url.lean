import BpnDirectory.Proofs.Text.Utf8
import BpnDirectory.Text.Base64
import Mathlib.Algebra.Group.Nat.Defs

namespace BpnDirectory
namespace Text
namespace Base64Url

/-!
Texts in base 64.

What was written in the URL-safe alphabet is read again as it was.  The reader accepts nothing else:
a written form and the octets that it stands for are the same row of bits, cut in two ways, six bits
to a digit and eight to an octet.  Behind the last octet there are fewer than six bits left, and
they are zeros.  Neither the writer nor the reader goes over bits, and rows of bits know nothing of
groups of three octets, so what both do is said in terms that belong to neither of them.
-/

/-! ## Digits -/

/-- The digits of the URL-safe alphabet, in the order of what they stand for. -/
def alphabet : List Char :=
  "ABCDEFGHIJKLMNOPQRSTUVWXYZabcdefghijklmnopqrstuvwxyz0123456789-_".toList

/-- These characters are the digits that stand for these numbers. -/
def Digits (cs : List Char) (numbers : List Nat) : Prop :=
  cs.map some = numbers.map (alphabet[·]?)

theorem digitValue?_digit {n : Nat} (bound : n < 64) : digitValue? (digit n) = some n := by
  have all : ∀ n < 64, digitValue? (digit n) = some n := by decide +kernel
  exact all n bound

theorem getElem?_alphabet {n : Nat} (bound : n < 64) : alphabet[n]? = some (digit n) := by
  have all : ∀ n < 64, alphabet[n]? = some (digit n) := by decide +kernel
  exact all n bound

theorem lt_of_getElem?_alphabet {n : Nat} {c : Char} (isDigit : alphabet[n]? = some c) : n < 64 := by
  have size : alphabet.length = 64 := by decide
  rw [← size]
  exact (List.getElem?_eq_some_iff.mp isDigit).1

theorem lt_of_digitValue? {c : Char} {n : Nat} (read : digitValue? c = some n) :
    c.toNat < 128 := by
  change c.val.toNat < 128
  have capital : ('Z' : Char).val.toNat = 90 := rfl
  have small : ('z' : Char).val.toNat = 122 := rfl
  have numeral : ('9' : Char).val.toNat = 57 := rfl
  unfold digitValue? at read
  simp only [Char.le_def, UInt32.le_iff_toNat_le] at read
  split at read
  case isTrue inside => omega
  split at read
  case isTrue inside => omega
  split at read
  case isTrue inside => omega
  split at read
  case isTrue same => rw [same]; decide
  split at read
  case isTrue same => rw [same]; decide
  case isFalse => cases read

/-- A digit is read as its place in the alphabet. -/
theorem digitValue?_eq_some_iff {c : Char} {n : Nat} :
    digitValue? c = some n ↔ alphabet[n]? = some c := by
  constructor
  · intro read
    have all : ∀ m < 128, ∀ k, digitValue? (Char.ofNat m) = some k →
        alphabet[k]? = some (Char.ofNat m) := by
      intro m bound k isValue
      have one : ∀ m < 128, ((digitValue? (Char.ofNat m)).all fun k =>
          alphabet[k]? == some (Char.ofNat m)) = true := by decide +kernel
      simpa [isValue] using one m bound
    have told := all c.toNat (lt_of_digitValue? read) n
    rw [Char.ofNat_toNat] at told
    exact told read
  · intro isDigit
    have bound := lt_of_getElem?_alphabet isDigit
    rw [getElem?_alphabet bound, Option.some.injEq] at isDigit
    rw [← isDigit, digitValue?_digit bound]

theorem Digits.lt {cs : List Char} {numbers : List Nat} (digits : Digits cs numbers) :
    ∀ n ∈ numbers, n < 2 ^ 6 := by
  intro n member
  have listed : alphabet[n]? ∈ cs.map some := by
    rw [digits]
    exact List.mem_map_of_mem member
  rcases List.mem_map.mp listed with ⟨c, _, isDigit⟩
  exact lt_of_getElem?_alphabet isDigit.symm

theorem Digits.mem_alphabet {cs : List Char} {numbers : List Nat} (digits : Digits cs numbers) :
    ∀ c ∈ cs, c ∈ alphabet := by
  intro c member
  have listed : some c ∈ numbers.map (alphabet[·]?) := by
    rw [← digits]
    exact List.mem_map_of_mem member
  rcases List.mem_map.mp listed with ⟨n, _, isDigit⟩
  exact List.mem_of_getElem? isDigit

/-- Characters of the alphabet are the digits of some numbers. -/
theorem exists_digits {cs : List Char} (members : ∀ c ∈ cs, c ∈ alphabet) :
    ∃ numbers, Digits cs numbers := by
  induction cs with
  | nil => exact ⟨[], rfl⟩
  | cons c rest ih =>
      rw [List.forall_mem_cons] at members
      rcases ih members.2 with ⟨numbers, digits⟩
      rcases List.mem_iff_getElem?.mp members.1 with ⟨n, isDigit⟩
      exact ⟨n :: numbers, by rw [Digits, List.map_cons, List.map_cons, isDigit, digits]⟩

theorem Digits.left_unique {cs ds : List Char} {numbers : List Nat} (left : Digits cs numbers)
    (right : Digits ds numbers) : cs = ds :=
  (List.map_inj_right fun _ _ => Option.some.inj).mp (left.trans right.symm)

theorem digits_cons_iff {c : Char} {cs : List Char} {n : Nat} {numbers : List Nat} :
    Digits (c :: cs) (n :: numbers) ↔ alphabet[n]? = some c ∧ Digits cs numbers := by
  rw [Digits, List.map_cons, List.map_cons, List.cons.injEq, ← Digits,
    @eq_comm _ (some c) (alphabet[n]?)]

/-- Digits are read as the numbers that they stand for. -/
theorem mapM_eq_some_iff_digits {cs : List Char} {numbers : List Nat} :
    cs.mapM digitValue? = some numbers ↔ Digits cs numbers := by
  induction cs generalizing numbers with
  | nil => cases numbers <;> simp [Digits]
  | cons c rest ih =>
      cases numbers with
      | nil => simp [Digits, Option.bind_eq_some_iff]
      | cons n others =>
          rw [digits_cons_iff, ← digitValue?_eq_some_iff, ← ih, List.mapM_cons]
          simp [Option.bind_eq_some_iff]

theorem Digits.right_unique {cs : List Char} {numbers numbers' : List Nat}
    (left : Digits cs numbers) (right : Digits cs numbers') : numbers = numbers' := by
  rw [← mapM_eq_some_iff_digits] at left right
  exact Option.some.inj (left.symm.trans right)

theorem Digits.nil : Digits [] [] := rfl

theorem Digits.cons {n : Nat} {cs : List Char} {numbers : List Nat} (bound : n < 64)
    (digits : Digits cs numbers) : Digits (digit n :: cs) (n :: numbers) :=
  digits_cons_iff.mpr ⟨getElem?_alphabet bound, digits⟩

/-! ## Bits -/

/-- The last bits of a number, as many as are asked for, the highest first. -/
def bits : Nat → Nat → List Bool
  | 0, _ => []
  | width + 1, n => n.testBit width :: bits width n

theorem length_bits (width n : Nat) : (bits width n).length = width := by
  induction width with
  | zero => rfl
  | succ width ih => rw [bits, List.length_cons, ih]

/-- Bits above the last ones do not count. -/
theorem bits_congr {width m n : Nat} (same : m % 2 ^ width = n % 2 ^ width) :
    bits width m = bits width n := by
  have agree : ∀ i < width, m.testBit i = n.testBit i := by
    intro i inside
    have bit := congrArg (Nat.testBit · i) same
    simpa [Nat.testBit_mod_two_pow, inside] using bit
  clear same
  induction width with
  | zero => rfl
  | succ width ih =>
      rw [bits, bits, agree width (Nat.lt_succ_self width),
        ih fun i inside => agree i (Nat.lt_succ_of_lt inside)]

theorem bits_add (high low n : Nat) :
    bits (high + low) n = bits high (n / 2 ^ low) ++ bits low n := by
  induction high with
  | zero => rw [Nat.zero_add, bits, List.nil_append]
  | succ high ih =>
      rw [Nat.add_right_comm, bits, bits, ih, Nat.testBit_div_two_pow, List.cons_append]

theorem bits_zeros {width n : Nat} (zero : n % 2 ^ width = 0) :
    bits width n = List.replicate width false := by
  rw [bits_congr (zero.trans (Nat.zero_mod _).symm)]
  clear zero
  induction width with
  | zero => rfl
  | succ width ih => rw [bits, Nat.zero_testBit, ih, List.replicate_succ]

theorem bits_inj {width m n : Nat} (boundM : m < 2 ^ width) (boundN : n < 2 ^ width)
    (same : bits width m = bits width n) : m = n := by
  have agree : ∀ i < width, m.testBit i = n.testBit i := by
    clear boundM boundN
    induction width with
    | zero => exact nofun
    | succ width ih =>
        rw [bits, bits, List.cons.injEq] at same
        intro i inside
        rcases Nat.lt_succ_iff_lt_or_eq.mp inside with lower | rfl
        · exact ih same.2 i lower
        · exact same.1
  apply Nat.eq_of_testBit_eq
  intro i
  rcases Nat.lt_or_ge i width with inside | above
  · exact agree i inside
  · have grows : 2 ^ width ≤ 2 ^ i := Nat.pow_le_pow_right (by decide) above
    rw [Nat.testBit_lt_two_pow (Nat.lt_of_lt_of_le boundM grows),
      Nat.testBit_lt_two_pow (Nat.lt_of_lt_of_le boundN grows)]

/-- Every row of bits is that of a number. -/
theorem exists_bits (someBits : List Bool) :
    ∃ n < 2 ^ someBits.length, bits someBits.length n = someBits := by
  induction someBits with
  | nil => exact ⟨0, by decide, rfl⟩
  | cons bit rest ih =>
      rcases ih with ⟨n, bound, same⟩
      refine ⟨2 ^ rest.length * bit.toNat + n, ?_, ?_⟩
      · rw [List.length_cons, Nat.pow_succ]
        cases bit
        case false => rw [Bool.toNat_false, Nat.mul_zero]; omega
        case true => rw [Bool.toNat_true]; omega
      · have below : (2 ^ rest.length * bit.toNat + n) % 2 ^ rest.length = n % 2 ^ rest.length :=
          Nat.mul_add_mod ..
        rw [List.length_cons, bits, bits_congr below, same,
          Nat.testBit_two_pow_mul_add _ bound, if_neg (Nat.lt_irrefl _), Nat.sub_self]
        cases bit <;> rfl

/-- The low bits of one number and the high bits of the next one are moved from the one to the
other. -/
theorem bits_regroup (high low rest : Nat) {n upper lower : Nat}
    (isUpper : upper % 2 ^ high = n / 2 ^ low % 2 ^ high)
    (isLower : lower / 2 ^ rest % 2 ^ low = n % 2 ^ low) :
    bits high upper ++ bits (low + rest) lower = bits (high + low) n ++ bits rest lower := by
  rw [bits_add low, bits_add high, bits_congr isUpper, bits_congr isLower, List.append_assoc]

/-! ## Rows -/

/-- The bits of numbers that all take the same number of them. -/
def row (width : Nat) (ns : List Nat) : List Bool :=
  ns.flatMap (bits width)

theorem length_row (width : Nat) (ns : List Nat) : (row width ns).length = width * ns.length := by
  induction ns with
  | nil => rfl
  | cons n rest ih =>
      rw [row, List.flatMap_cons, List.length_append, length_bits, List.length_cons,
        Nat.mul_succ, Nat.add_comm, ← ih, row]

/-- A row of bits is cut into numbers in one way only, if what is left at the end is less than
another number. -/
theorem row_append_inj {width : Nat} {ms ns : List Nat} {left right : List Bool}
    (boundMs : ∀ m ∈ ms, m < 2 ^ width) (boundNs : ∀ n ∈ ns, n < 2 ^ width)
    (few : left.length < width) (few' : right.length < width)
    (same : row width ms ++ left = row width ns ++ right) : ms = ns ∧ left = right := by
  induction ms generalizing ns with
  | nil =>
      cases ns with
      | nil => exact ⟨rfl, same⟩
      | cons n rest =>
          have size := congrArg List.length same
          simp only [row, List.flatMap_nil, List.flatMap_cons, List.nil_append, List.length_append,
            length_bits] at size
          omega
  | cons m others ih =>
      cases ns with
      | nil =>
          have size := congrArg List.length same
          simp only [row, List.flatMap_nil, List.flatMap_cons, List.nil_append, List.length_append,
            length_bits] at size
          omega
      | cons n rest =>
          rw [row, row, List.flatMap_cons, List.flatMap_cons, List.append_assoc,
            List.append_assoc] at same
          have lengths : (bits width m).length = (bits width n).length := by
            rw [length_bits, length_bits]
          rcases List.append_inj same lengths with ⟨first, later⟩
          rcases ih (fun m member => boundMs m (List.mem_cons_of_mem _ member))
            (fun n member => boundNs n (List.mem_cons_of_mem _ member)) later with ⟨rfl, ends⟩
          refine ⟨?_, ends⟩
          rw [bits_inj (boundMs m List.mem_cons_self) (boundNs n List.mem_cons_self) first]

/-- Every row of bits can be cut into numbers. -/
theorem exists_row {width : Nat} (wide : 0 < width) (someBits : List Bool) :
    ∃ ns left, (∀ n ∈ ns, n < 2 ^ width) ∧ left.length < width ∧
      someBits = row width ns ++ left := by
  induction size : someBits.length using Nat.strongRecOn generalizing someBits with
  | ind length ih =>
    by_cases short : someBits.length < width
    · exact ⟨[], someBits, nofun, short, rfl⟩
    · have front : (someBits.take width).length = width := by
        rw [List.length_take, Nat.min_eq_left (Nat.le_of_not_lt short)]
      have back : (someBits.drop width).length < length := by
        rw [List.length_drop]
        omega
      rcases exists_bits (someBits.take width) with ⟨n, bound, first⟩
      rcases ih _ back _ rfl with ⟨ns, left, bounds, few, later⟩
      rw [front] at bound first
      refine ⟨n :: ns, left, ?_, few, ?_⟩
      · exact List.forall_mem_cons.mpr ⟨bound, bounds⟩
      · rw [row, List.flatMap_cons, first, List.append_assoc, ← row, ← later,
          List.take_append_drop]

/-! ## Groups

One, two or three octets are two, three or four digits, with four bits, two bits or none of the last
digit left over.  The numbers may be any that have the right bits, so the same lemmas serve the
writer, who makes digits of octets, and the reader, who makes octets of digits. -/

section Groups

variable {w x y z a b c : Nat}

theorem row_append (width : Nat) (ms ns : List Nat) :
    row width (ms ++ ns) = row width ms ++ row width ns :=
  List.flatMap_append

theorem row_singleton (width n : Nat) : row width [n] = bits width n :=
  List.flatMap_singleton ..

theorem row_one (upperA : w % 64 = a / 4 % 64) (lowerA : x / 16 % 4 = a % 4) :
    row 6 [w, x] = row 8 [a] ++ bits 4 x := by
  rw [← List.singleton_append, row_append, row_singleton, row_singleton, row_singleton]
  exact bits_regroup 6 2 4 upperA lowerA

theorem row_two (upperA : w % 64 = a / 4 % 64) (lowerA : x / 16 % 4 = a % 4)
    (upperB : x % 16 = b / 16 % 16) (lowerB : y / 4 % 16 = b % 16) :
    row 6 [w, x, y] = row 8 [a, b] ++ bits 2 y := by
  have last : bits 4 x ++ bits 6 y = bits 8 b ++ bits 2 y := bits_regroup 4 4 2 upperB lowerB
  change row 6 ([w, x] ++ [y]) = row 8 ([a] ++ [b]) ++ bits 2 y
  rw [row_append, row_one upperA lowerA, row_append, row_singleton _ y, row_singleton _ b,
    List.append_assoc, last, List.append_assoc]

theorem row_three (upperA : w % 64 = a / 4 % 64) (lowerA : x / 16 % 4 = a % 4)
    (upperB : x % 16 = b / 16 % 16) (lowerB : y / 4 % 16 = b % 16)
    (upperC : y % 4 = c / 64 % 4) (lowerC : z % 64 = c % 64) :
    row 6 [w, x, y, z] = row 8 [a, b, c] := by
  have last : bits 2 y ++ bits 6 z = bits 8 c ++ bits 0 z :=
    bits_regroup 2 6 0 upperC (by rw [Nat.pow_zero, Nat.div_one]; exact lowerC)
  change row 6 ([w, x, y] ++ [z]) = row 8 ([a, b] ++ [c])
  rw [row_append, row_two upperA lowerA upperB lowerB, row_append, row_singleton _ z,
    row_singleton _ c, List.append_assoc, last, bits, List.append_nil]

/-- A whole group in front of digits and octets with the same bits. -/
theorem row_group {numbers octets : List Nat} {left : List Bool}
    (upperA : w % 64 = a / 4 % 64) (lowerA : x / 16 % 4 = a % 4)
    (upperB : x % 16 = b / 16 % 16) (lowerB : y / 4 % 16 = b % 16)
    (upperC : y % 4 = c / 64 % 4) (lowerC : z % 64 = c % 64)
    (same : row 6 numbers = row 8 octets ++ left) :
    row 6 (w :: x :: y :: z :: numbers) = row 8 (a :: b :: c :: octets) ++ left := by
  change row 6 ([w, x, y, z] ++ numbers) = row 8 ([a, b, c] ++ octets) ++ left
  rw [row_append, row_append, row_three upperA lowerA upperB lowerB upperC lowerC, same,
    List.append_assoc]

end Groups

/-! ## Writing and reading -/

theorem ofNat_of_eq_toNat {n : Nat} (octet : UInt8) (same : n = octet.toNat) :
    UInt8.ofNat n = octet := by
  rw [same, UInt8.ofNat_toNat]

/-- The six bits of each digit are put together again as they were cut. -/
theorem decodeOctets_encodeOctets (octets : List UInt8) :
    decodeOctets (encodeOctets octets) = some octets := by
  rw [decodeOctets, Option.bind_eq_some_iff]
  fun_induction encodeOctets octets with
  | case1 => exact ⟨[], rfl, rfl⟩
  | case2 a =>
      have first := a.toNat_lt
      refine ⟨_, mapM_eq_some_iff_digits.mpr (.cons ?_ (.cons ?_ .nil)), ?_⟩
      case refine_3 => rw [decodeDigits, if_pos (by omega), ofNat_of_eq_toNat a (by omega)]
      all_goals omega
  | case3 a b =>
      have first := a.toNat_lt
      have second := b.toNat_lt
      refine ⟨_, mapM_eq_some_iff_digits.mpr (.cons ?_ (.cons ?_ (.cons ?_ .nil))), ?_⟩
      case refine_4 =>
        rw [decodeDigits, if_pos (by omega), ofNat_of_eq_toNat a (by omega),
          ofNat_of_eq_toNat b (by omega)]
      all_goals omega
  | case4 a b c rest ih =>
      have first := a.toNat_lt
      have second := b.toNat_lt
      have third := c.toNat_lt
      rcases ih with ⟨numbers, read, decoded⟩
      have digits := mapM_eq_some_iff_digits.mp read
      refine ⟨_, mapM_eq_some_iff_digits.mpr (.cons ?_ (.cons ?_ (.cons ?_ (.cons ?_ digits)))), ?_⟩
      case refine_5 =>
        rw [decodeDigits, decoded]
        dsimp only
        rw [ofNat_of_eq_toNat a (by omega), ofNat_of_eq_toNat b (by omega),
          ofNat_of_eq_toNat c (by omega)]
      all_goals omega

theorem decodeText_encode (text : String) : decodeText (encode text) = some text := by
  rw [decodeText, decode, encode, String.toList_ofList, decodeOctets_encodeOctets,
    Option.bind_some, Utf8.read?_octets]

/-- The bits of the digits are those of the octets, with fewer than six zeros behind them. -/
def Spells (cs : List Char) (octets : List UInt8) : Prop :=
  ∃ numbers spare, Digits cs numbers ∧ spare < 6 ∧
    row 6 numbers = row 8 (octets.map UInt8.toNat) ++ List.replicate spare false

/-- The written form of octets spells them. -/
theorem spells_encodeOctets (octets : List UInt8) : Spells (encodeOctets octets) octets := by
  fun_induction encodeOctets octets with
  | case1 => exact ⟨[], 0, .nil, by decide, rfl⟩
  | case2 a =>
      have first := a.toNat_lt
      refine ⟨_, 4, .cons ?_ (.cons ?_ .nil), by decide, ?_⟩
      case refine_3 =>
        rw [@row_one _ _ a.toNat (by omega) (by omega), bits_zeros (by omega)]
        rfl
      all_goals omega
  | case3 a b =>
      have first := a.toNat_lt
      have second := b.toNat_lt
      refine ⟨_, 2, .cons ?_ (.cons ?_ (.cons ?_ .nil)), by decide, ?_⟩
      case refine_4 =>
        rw [@row_two _ _ _ a.toNat b.toNat (by omega) (by omega) (by omega) (by omega),
          bits_zeros (by omega)]
        rfl
      all_goals omega
  | case4 a b c rest ih =>
      have first := a.toNat_lt
      have second := b.toNat_lt
      have third := c.toNat_lt
      rcases ih with ⟨numbers, spare, digits, few, same⟩
      refine ⟨_, spare, .cons ?_ (.cons ?_ (.cons ?_ (.cons ?_ digits))), few, ?_⟩
      case refine_5 =>
        exact row_group (by omega) (by omega) (by omega) (by omega) (by omega) (by omega) same
      all_goals omega

/-- What digits are decoded to has their bits. -/
theorem row_of_decodeDigits {numbers : List Nat} {octets : List UInt8}
    (bounds : ∀ n ∈ numbers, n < 2 ^ 6) (decoded : decodeDigits numbers = some octets) :
    ∃ spare < 6,
      row 6 numbers = row 8 (octets.map UInt8.toNat) ++ List.replicate spare false := by
  fun_induction decodeDigits numbers generalizing octets
  case case1 =>
    cases decoded
    exact ⟨0, by decide, rfl⟩
  case case3 w x zeros =>
    cases decoded
    refine ⟨4, by decide, ?_⟩
    simp only [List.forall_mem_cons] at bounds
    rw [← bits_zeros zeros]
    apply row_one <;> rw [UInt8.toNat_ofNat'] <;> omega
  case case5 w x y zeros =>
    cases decoded
    refine ⟨2, by decide, ?_⟩
    simp only [List.forall_mem_cons] at bounds
    rw [← bits_zeros zeros]
    apply row_two <;> rw [UInt8.toNat_ofNat'] <;> omega
  case case7 w x y z rest others more ih =>
    cases decoded
    simp only [List.forall_mem_cons] at bounds
    rcases ih bounds.2.2.2.2 more with ⟨spare, few, same⟩
    refine ⟨spare, few, row_group ?_ ?_ ?_ ?_ ?_ ?_ same⟩ <;>
      rw [UInt8.toNat_ofNat'] <;> omega
  all_goals cases decoded

/-- Octets are spelled in one way. -/
theorem Spells.left_unique {cs ds : List Char} {octets : List UInt8} (left : Spells cs octets)
    (right : Spells ds octets) : cs = ds := by
  rcases left with ⟨numbers, spare, digits, few, same⟩
  rcases right with ⟨numbers', spare', digits', few', same'⟩
  have size := congrArg List.length same
  have size' := congrArg List.length same'
  rw [List.length_append, length_row, length_row, List.length_replicate] at size size'
  have spares : spare = spare' := by omega
  rw [spares, ← same'] at same
  have none : ([] : List Bool).length < 6 := by decide
  have numbers_eq : numbers = numbers' :=
    (row_append_inj digits.lt digits'.lt none none (congrArg (· ++ []) same)).1
  rw [← numbers_eq] at digits'
  exact digits.left_unique digits'

theorem encodeOctets_eq_iff {octets : List UInt8} {cs : List Char} :
    encodeOctets octets = cs ↔ Spells cs octets := by
  constructor
  · rintro rfl
    exact spells_encodeOctets octets
  · exact (spells_encodeOctets octets).left_unique

/-- The reader accepts what spells octets, and nothing else. -/
theorem decodeOctets_eq_some_iff {cs : List Char} {octets : List UInt8} :
    decodeOctets cs = some octets ↔ Spells cs octets := by
  constructor
  · intro decoded
    rcases Option.bind_eq_some_iff.mp decoded with ⟨numbers, read, decoded⟩
    have digits := mapM_eq_some_iff_digits.mp read
    rcases row_of_decodeDigits digits.lt decoded with ⟨spare, few, same⟩
    exact ⟨numbers, spare, digits, few, same⟩
  · intro spells
    rw [← encodeOctets_eq_iff.mpr spells, decodeOctets_encodeOctets]

/-- A written form spells one row of octets at most. -/
theorem Spells.right_unique {cs : List Char} {octets octets' : List UInt8}
    (left : Spells cs octets) (right : Spells cs octets') : octets = octets' := by
  rw [← decodeOctets_eq_some_iff] at left right
  exact Option.some.inj (left.symm.trans right)

theorem Spells.mem_alphabet {cs : List Char} {octets : List UInt8} (spells : Spells cs octets) :
    ∀ c ∈ cs, c ∈ alphabet := by
  rcases spells with ⟨_, _, digits, _⟩
  exact digits.mem_alphabet

/-- What is no digit stands in nothing that can be decoded. -/
theorem not_mem_of_decodeOctets {c : Char} {cs : List Char} {octets : List UInt8}
    (other : c ∉ alphabet) (decoded : decodeOctets cs = some octets) : c ∉ cs :=
  fun member => other ((decodeOctets_eq_some_iff.mp decoded).mem_alphabet c member)

theorem map_toNat_lt (octets : List UInt8) : ∀ n ∈ octets.map UInt8.toNat, n < 2 ^ 8 := by
  intro n member
  rcases List.mem_map.mp member with ⟨octet, _, rfl⟩
  exact octet.toNat_lt

/-- Every row of bits can be cut into octets. -/
theorem exists_octets (someBits : List Bool) :
    ∃ (octets : List UInt8) (left : List Bool), left.length < 8 ∧
      someBits = row 8 (octets.map UInt8.toNat) ++ left := by
  rcases @exists_row 8 (by decide) someBits with ⟨ns, left, bounds, few, same⟩
  have back : ns.map (UInt8.toNat ∘ UInt8.ofNat) = ns.map id :=
    List.map_congr_left fun n member => UInt8.toNat_ofNat_of_lt (bounds n member)
  exact ⟨ns.map UInt8.ofNat, left, few, by rw [List.map_map, back, List.map_id, same]⟩

end Base64Url
end Text
end BpnDirectory
