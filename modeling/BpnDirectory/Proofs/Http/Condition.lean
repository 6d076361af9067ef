import BpnDirectory.Http.Condition
import BpnDirectory.Proofs.Http.FieldText
import BpnDirectory.Proofs.Text.Blank
import BpnDirectory.Proofs.Text.Decimal

namespace BpnDirectory
namespace Http

/-!
Versions that conditions name.

A version may stand in the header field for conditions in quotes, as an entity tag does, in
quotes behind the mark of a weak tag, or bare.  All three come through the header field and are
read as the version, which is true of every number of 64 bits.
-/

open Text (maxSigned64 minSigned64)

/-! ## The characters of numbers -/

/-- Whether a character may stand in a number. -/
def IsNumeral (c : Char) : Prop := c = '-' ∨ c.isDigit = true

/-- What the readers of conditions take away is never a part of a number. -/
theorem IsNumeral.kept {c : Char} (numeral : IsNumeral c) :
    Text.isBlank c = false ∧ c ≠ '"' ∧ c ≠ 'W' ∧ IsReadable c := by
  have digits : ∀ n < 58, 48 ≤ n → Text.isBlank (Char.ofNat n) = false ∧ Char.ofNat n ≠ '"' ∧
      Char.ofNat n ≠ 'W' ∧ IsReadable (Char.ofNat n) := by decide
  rcases numeral with rfl | digit
  · decide
  · have bounds : 48 ≤ c.toNat ∧ c.toNat < 58 := by
      simp only [Char.isDigit, Bool.and_eq_true, decide_eq_true_eq, UInt32.le_iff_toNat_le,
        ge_iff_le] at digit
      exact ⟨digit.1, Nat.lt_succ_of_le digit.2⟩
    have kept := digits c.toNat bounds.2 bounds.1
    rwa [Char.ofNat_toNat] at kept

theorem isNumeral_of_mem {version : Int} {c : Char} (member : c ∈ (toString version).toList) :
    IsNumeral c :=
  Text.isDigit_of_mem_toString member

/-! ## Marks around a number -/

theorem dropWhile_quote_eq_self {cs : List Char} (inside : '"' ∉ cs) :
    cs.dropWhile (· == '"') = cs := by
  cases cs with
  | nil => rfl
  | cons c rest =>
      have other : (c == '"') = false := beq_false_of_ne fun same => inside (by simp [same])
      simp only [List.dropWhile_cons, other, Bool.false_eq_true, if_false]

theorem unquote_eq_self {cs : List Char} (inside : '"' ∉ cs) : unquote cs = cs := by
  have turned : '"' ∉ cs.reverse := mt List.mem_reverse.mp inside
  simp only [unquote, dropWhile_quote_eq_self inside, dropWhile_quote_eq_self turned,
    List.reverse_reverse]

theorem unquote_quoted {c : Char} {cs : List Char} (inside : '"' ∉ c :: cs) :
    unquote ('"' :: (c :: cs ++ ['"'])) = c :: cs := by
  have other : (c == '"') = false := beq_false_of_ne fun same => inside (by simp [same])
  have turned : '"' ∉ (c :: cs).reverse := mt List.mem_reverse.mp inside
  have opened : ('"' :: (c :: cs ++ ['"'])).dropWhile (· == '"') = c :: cs ++ ['"'] := by
    simp only [List.dropWhile_cons, beq_self_eq_true, if_true, List.cons_append, other,
      Bool.false_eq_true, if_false]
  simp only [unquote, opened, List.reverse_append, List.reverse_singleton, List.singleton_append,
    List.dropWhile_cons, beq_self_eq_true, if_true, dropWhile_quote_eq_self turned,
    List.reverse_reverse]

theorem dropWeak_eq_self {c : Char} {cs : List Char} (other : c ≠ 'W') :
    dropWeak (c :: cs) = c :: cs := by
  unfold dropWeak
  split
  · next same => exact absurd (List.cons.inj same).1 other
  · rfl

/-! ## Conditions -/

/-- The ways to write a version as a condition: as an entity tag, as a weak one, and bare. -/
def spellings (version : Int) : List String :=
  ["\"" ++ toString version ++ "\"", "W/" ++ ("\"" ++ toString version ++ "\""), toString version]

theorem toList_of_mem_spellings {version : Int} {spelling : String}
    (spelled : spelling ∈ spellings version) :
    spelling.toList = '"' :: ((toString version).toList ++ ['"']) ∨
      spelling.toList = 'W' :: '/' :: '"' :: ((toString version).toList ++ ['"']) ∨
      spelling.toList = (toString version).toList := by
  unfold spellings at spelled
  simp only [List.mem_cons, List.not_mem_nil, or_false] at spelled
  rcases spelled with rfl | rfl | rfl
  · exact Or.inl (by rw [String.toList_append, String.toList_append]; rfl)
  · exact Or.inr (Or.inl (by simp only [String.toList_append]; rfl))
  · exact Or.inr (Or.inr rfl)

/-- Every character of a spelling comes through a header field, and none of them is blank. -/
theorem kept_of_mem_spelling {version : Int} {spelling : String} {c : Char}
    (spelled : spelling ∈ spellings version) (member : c ∈ spelling.toList) :
    Text.isBlank c = false ∧ IsReadable c := by
  have marks : ∀ mark ∈ ['"', 'W', '/'], Text.isBlank mark = false ∧ IsReadable mark := by
    intro mark listed
    simp only [List.mem_cons, List.not_mem_nil, or_false] at listed
    rcases listed with rfl | rfl | rfl <;> decide
  have whole : c ∈ ['"', 'W', '/'] ∨ c ∈ (toString version).toList := by
    rcases toList_of_mem_spellings spelled with same | same | same <;> rw [same] at member
    · simp only [List.mem_cons, List.mem_append, List.not_mem_nil, or_false] at member ⊢
      grind
    · simp only [List.mem_cons, List.mem_append, List.not_mem_nil, or_false] at member ⊢
      grind
    · exact Or.inr member
  rcases whole with mark | part
  · exact marks c mark
  · exact ⟨(isNumeral_of_mem part).kept.1, (isNumeral_of_mem part).kept.2.2.2⟩

theorem tagVersion?_of_mem_spellings {version : Int} {spelling : String}
    (spelled : spelling ∈ spellings version) (above : minSigned64 ≤ version)
    (below : version ≤ maxSigned64) : tagVersion? spelling = some version := by
  have trimmed : Text.trimChars spelling.toList = spelling.toList := by
    refine Text.trimChars_eq_self ⟨fun c first => ?_, fun c last => ?_⟩
    · exact (kept_of_mem_spelling spelled (List.mem_of_mem_head? first)).1
    · exact (kept_of_mem_spelling spelled (List.mem_of_mem_getLast? last)).1
  have unquoted : unquote (dropWeak spelling.toList) = (toString version).toList := by
    have inside : '"' ∉ (toString version).toList := fun member =>
      (isNumeral_of_mem member).kept.2.1 rfl
    have shown := toList_of_mem_spellings spelled
    cases number : (toString version).toList with
    | nil =>
        have read := Text.signed64?_toString above below
        rw [Text.signed64?, Text.integer?, number] at read
        cases read
    | cons c rest =>
        rw [number] at inside shown
        have notW : c ≠ 'W' :=
          (isNumeral_of_mem (number ▸ List.mem_cons_self)).kept.2.2.1
        rcases shown with same | same | same <;> rw [same]
        · rw [dropWeak_eq_self (by decide), unquote_quoted inside]
        · rw [dropWeak, dropWeak_eq_self (by decide), unquote_quoted inside]
        · rw [dropWeak_eq_self notW, unquote_eq_self inside]
  rw [tagVersion?, trimmed, unquoted, String.ofList_toList]
  exact Text.signed64?_toString above below

/-- A condition that names a version in one of the three ways is read as that version. -/
theorem expectedVersion_of_spelling {version : Int} {spelling : String} {headers : Headers}
    (spelled : spelling ∈ spellings version) (above : minSigned64 ≤ version)
    (below : version ≤ maxSigned64)
    (given : headers.find? "if-match" = some (Text.Utf8.octets spelling)) :
    expectedVersion headers = .ok (some version) := by
  have read : fieldText? (Text.Utf8.octets spelling) = some spelling :=
    fieldText?_octets_eq_some_iff.mpr ⟨rfl, fun _ member => (kept_of_mem_spelling spelled member).2⟩
  simp only [expectedVersion, given, read, tagVersion?_of_mem_spellings spelled above below]

end Http
end BpnDirectory
