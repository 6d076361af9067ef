import BpnDirectory.Text.Utf8
import Mathlib.Tactic.SplitIfs

namespace BpnDirectory
namespace Text
namespace Utf8

/-!
Texts and their octets.

A character of ASCII is one octet, and any other is a row of octets beyond ASCII, so an octet of
ASCII says what it says wherever it stands.  The octets of a text are read as the text again, and
texts are in the order of their octets.
-/

theorem octets_ofList (cs : List Char) :
    octets (String.ofList cs) = cs.flatMap String.utf8EncodeChar := by
  rw [octets, String.toUTF8_eq_toByteArray, String.toByteArray_ofList, List.utf8Encode,
    List.toList_data_toByteArray]

theorem octets_eq_flatMap (text : String) :
    octets text = text.toList.flatMap String.utf8EncodeChar := by
  rw [← octets_ofList, String.ofList_toList]

theorem length_octets (text : String) : (octets text).length = text.utf8ByteSize := rfl

theorem octets_inj {first second : String} : octets first = octets second ↔ first = second := by
  unfold octets
  rw [Array.toList_inj, ← ByteArray.ext_iff, String.toUTF8_eq_toByteArray,
    String.toUTF8_eq_toByteArray, String.toByteArray_inj]

/-! ## Characters -/

theorem toNat_lt (c : Char) : c.toNat < 0x110000 := by
  rcases c.valid with low | ⟨_, high⟩
  · exact Nat.lt_trans low (by decide)
  · exact high

/-- A character of ASCII is one octet, and any other is two at least, all of them beyond ASCII. -/
theorem encoded_cases (c : Char) :
    (∃ octet, String.utf8EncodeChar c = [octet] ∧ octet.toNat = c.toNat ∧ c.toNat < 128) ∨
      128 ≤ c.toNat ∧ 2 ≤ (String.utf8EncodeChar c).length ∧
        ∀ octet ∈ String.utf8EncodeChar c, 128 ≤ octet.toNat := by
  have bounded := toNat_lt c
  fun_cases String.utf8EncodeChar c with
  | case1 value small =>
      refine Or.inl ⟨_, rfl, ?_, Nat.lt_succ_of_le small⟩
      exact Nat.mod_eq_of_lt (Nat.lt_of_le_of_lt small (by decide))
  | case2 value large _ | case3 value large _ _ | case4 value large _ _ =>
      refine Or.inr ⟨Nat.lt_of_not_le large, by simp, ?_⟩
      simp only [List.mem_cons, List.not_mem_nil, or_false, forall_eq_or_imp, forall_eq,
        UInt8.toNat_ofNat']
      omega

theorem length_flatMap_encoded {cs : List Char} (ascii : ∀ c ∈ cs, c.toNat < 128) :
    (cs.flatMap String.utf8EncodeChar).length = cs.length := by
  induction cs with
  | nil => rfl
  | cons c rest ih =>
      have later := ih fun other member => ascii other (List.mem_cons_of_mem c member)
      rcases encoded_cases c with ⟨octet, encoded, _⟩ | ⟨beyond, _⟩
      · rw [List.flatMap_cons, encoded, List.singleton_append, List.length_cons, later,
          List.length_cons]
      · exact absurd (ascii c List.mem_cons_self) (Nat.not_lt_of_le beyond)

/-- A text of ASCII has as many octets as characters. -/
theorem utf8ByteSize_ofList {cs : List Char} (ascii : ∀ c ∈ cs, c.toNat < 128) :
    (String.ofList cs).utf8ByteSize = cs.length := by
  rw [← length_octets, octets_ofList, length_flatMap_encoded ascii]

/-! ## The order of texts -/

/-- Of two numbers, the smaller one has fewer sixty-fours, or as many and a smaller rest. -/
private theorem sextet_lt {m n : Nat} (less : m < n) :
    m / 64 < n / 64 ∨ m / 64 = n / 64 ∧ m % 64 < n % 64 := by
  omega

/-- The octets of a character come before those of a greater one, whatever follows. -/
theorem encoded_append_lt {c d : Char} (less : c < d) (left right : List UInt8) :
    String.utf8EncodeChar c ++ left < String.utf8EncodeChar d ++ right := by
  have bounded : d.val.toNat < 0x110000 := toNat_lt d
  have smaller : c.val.toNat < d.val.toNat := UInt32.lt_iff_toNat_lt.mp less
  simp only [String.utf8EncodeChar]
  generalize c.val.toNat = m at smaller ⊢
  generalize d.val.toNat = n at smaller bounded ⊢
  -- Of a longer and a shorter row, the first octets decide.  Rows of the same length are compared
  -- by the first group of six bits that differs.
  have last := sextet_lt smaller
  have third := @sextet_lt (m / 64) (n / 64)
  have second := @sextet_lt (m / 4096) (n / 4096)
  simp only [Nat.div_div_eq_div_mul, Nat.reduceMul] at third second
  split_ifs <;>
    simp (disch := omega) only [List.cons_append, List.cons_lt_cons_iff, UInt8.lt_iff_toNat_lt,
      ← UInt8.toNat_inj, UInt8.toNat_ofNat', Nat.reducePow, @Nat.mod_eq_of_lt _ 256,
      @Nat.mod_eq_of_lt _ 8] <;> omega

theorem flatMap_encoded_lt {cs ds : List Char} (less : cs < ds) :
    cs.flatMap String.utf8EncodeChar < ds.flatMap String.utf8EncodeChar := by
  induction less with
  | @nil d rest =>
      rw [List.flatMap_cons]
      cases encoded : String.utf8EncodeChar d with
      | nil => exact absurd encoded (String.utf8EncodeChar_ne_nil)
      | cons octet others => exact List.nil_lt_cons octet _
  | @cons c cs ds _ ih =>
      rw [List.flatMap_cons, List.flatMap_cons]
      exact List.append_left_lt ih
  | @rel c cs d ds less =>
      rw [List.flatMap_cons, List.flatMap_cons]
      exact encoded_append_lt less _ _

/-- Texts are in the order of their octets. -/
theorem octets_lt {first second : String} (less : first < second) :
    octets first < octets second := by
  rw [octets_eq_flatMap, octets_eq_flatMap]
  exact flatMap_encoded_lt (String.lt_iff.mp less)

/-! ## Reading -/

@[simp] theorem read?_octets (text : String) : read? (octets text) = some text := by
  have whole : (⟨(octets text).toArray⟩ : ByteArray) = text.toByteArray := by
    simp [octets]
  rw [read?, whole, String.fromUTF8?, dif_pos text.isValidUTF8]
  rfl

/-- Octets are read as the text whose octets they are, if there is one. -/
theorem read?_eq_some_iff {row : List UInt8} {text : String} :
    read? row = some text ↔ octets text = row := by
  constructor
  · intro read
    unfold read? String.fromUTF8? at read
    split at read
    case isTrue valid =>
      cases read
      rfl
    case isFalse => cases read
  · rintro rfl
    exact read?_octets text

/-- The octets of a character are read as the character, whatever was read before it. -/
theorem foldl_step_encoded (c : Char) (reversed : List (Option Char)) :
    (String.utf8EncodeChar c).foldl step (none, reversed) = (none, some c :: reversed) := by
  have valid : c.val.toNat < 0xd800 ∨ 0xdfff < c.val.toNat ∧ c.val.toNat < 0x110000 := c.valid
  have told : ∀ value, value = c.val.toNat →
      ((none : Option Pending), some (Char.ofNat value) :: reversed) =
        (none, some c :: reversed) := by
    rintro value rfl
    rw [show Char.ofNat c.val.toNat = c from Char.ofNat_toNat c]
  simp only [String.utf8EncodeChar]
  generalize c.val.toNat = n at valid told ⊢
  -- The first octets with a narrower range behind them have a case of their own.
  have threes : n / 4096 = 0 ∨ n / 4096 = 13 ∨ n / 4096 ≠ 0 ∧ n / 4096 ≠ 13 := by omega
  have fours : n / 262144 = 0 ∨ n / 262144 = 4 ∨ n / 262144 ≠ 0 ∧ n / 262144 ≠ 4 := by omega
  split_ifs with one two three
  · simp (disch := omega) only [List.foldl_cons, List.foldl_nil, step, begin, start,
      UInt8.toNat_ofNat', Nat.reducePow, @Nat.mod_eq_of_lt _ 256, if_pos]
    exact told n rfl
  · simp (disch := omega) only [List.foldl_cons, List.foldl_nil, step, begin, start,
      UInt8.toNat_ofNat', Nat.reducePow, @Nat.mod_eq_of_lt _ 256, if_pos, if_neg]
    exact told _ (by omega)
  · rcases threes with first | first | first <;>
      simp (disch := omega) only [List.foldl_cons, List.foldl_nil, step, begin, start,
        UInt8.toNat_ofNat', Nat.reducePow, @Nat.mod_eq_of_lt _ 256, if_pos, if_neg] <;>
      exact told _ (by omega)
  · rcases fours with first | first | first <;>
      simp (disch := omega) only [List.foldl_cons, List.foldl_nil, step, begin, start,
        UInt8.toNat_ofNat', Nat.reducePow, @Nat.mod_eq_of_lt _ 256, if_pos, if_neg] <;>
      exact told _ (by omega)

theorem foldl_step_flatMap (cs : List Char) (reversed : List (Option Char)) :
    (cs.flatMap String.utf8EncodeChar).foldl step (none, reversed) =
      (none, (cs.map some).reverse ++ reversed) := by
  induction cs generalizing reversed with
  | nil => rfl
  | cons c rest ih =>
      rw [List.flatMap_cons, List.foldl_append, foldl_step_encoded, ih, List.map_cons,
        List.reverse_cons, List.append_assoc]
      rfl

/-- The octets of a text are read as its characters, without a gap. -/
theorem read_octets (text : String) : read (octets text) = text.toList.map some := by
  rw [octets_eq_flatMap, read, foldl_step_flatMap]
  simp

end Utf8
end Text
end BpnDirectory
