import BpnDirectory.Identifier.Bpn
import BpnDirectory.Identifier.Did
import BpnDirectory.Proofs.Collection.Outcome
import BpnDirectory.Proofs.Text.Utf8

namespace BpnDirectory

/-!
The checks of identifiers accept their grammars.

A check goes through a text from its start and stops at the first fault; a grammar says what the
whole text is made of.  What a check has passed is put together as the grammar wants it, and what
the grammar puts together passes the check, whatever follows.
-/

/-! ## Business Partner Numbers -/

namespace Bpn

theorem lt_of_isSerial {c : Char} (serial : isSerial c = true) : c.toNat < 128 := by
  simp only [isSerial, Bool.or_eq_true, Bool.and_eq_true, decide_eq_true_eq, Char.le_def,
    UInt32.le_iff_toNat_le] at serial
  change c.val.toNat < 128
  have digits : ('9' : Char).val.toNat = 57 := rfl
  have letters : ('Z' : Char).val.toNat = 90 := rfl
  omega

theorem lt_of_isKind {c : Char} (kind : isKind c = true) : c.toNat < 128 := by
  simp only [isKind, Bool.or_eq_true, beq_iff_eq] at kind
  rcases kind with (rfl | rfl) | rfl <;> decide

/-- A text that begins as a BPN does has one octet for each character. -/
theorem size_of_parts {kind : Char} {serial : List Char} (isKind : Bpn.isKind kind = true)
    (areSerial : ∀ c ∈ serial, isSerial c = true) :
    (String.ofList ('B' :: 'P' :: 'N' :: kind :: serial)).utf8ByteSize = serial.length + 4 := by
  apply Text.Utf8.utf8ByteSize_ofList
  simp only [List.forall_mem_cons]
  exact ⟨by decide, by decide, by decide, lt_of_isKind isKind,
    fun c member => lt_of_isSerial (areSerial c member)⟩

/-- The check of a BPN accepts exactly the BPNs. -/
theorem check_eq_ok_iff {text : String} : check text = .ok () ↔ IsBpn text := by
  rw [check, ite_error_eq_ok_iff, ite_error_eq_ok_iff]
  constructor
  · rintro ⟨_, sized, accepted⟩
    split at accepted
    case h_2 => cases accepted
    case h_1 kind serial spelled =>
      rw [ite_error_eq_ok_iff, ite_error_eq_ok_iff] at accepted
      have whole : text = String.ofList ('B' :: 'P' :: 'N' :: kind :: serial) := by
        rw [← spelled, String.ofList_toList]
      have isKind : Bpn.isKind kind = true := by simpa using accepted.1
      have areSerial : ∀ c ∈ serial, isSerial c = true := by simpa using accepted.2.1
      refine ⟨kind, serial, whole, isKind, ?_, areSerial⟩
      rw [Decidable.not_not, whole, size_of_parts isKind areSerial] at sized
      exact Nat.add_right_cancel sized
  · rintro ⟨kind, serial, rfl, isKind, twelve, areSerial⟩
    refine ⟨?_, ?_, ?_⟩
    · simp
    · rw [size_of_parts isKind areSerial, twelve]
      decide
    · rw [String.toList_ofList]
      refine ite_error_eq_ok_iff.mpr ⟨?_, ite_error_eq_ok_iff.mpr ⟨?_, rfl⟩⟩
      · simpa using isKind
      · simpa using areSerial

end Bpn

/-! ## Decentralized identifiers -/

namespace Did

variable {id segment rest : List Char}

theorem isIdChar_of_isHexDigit {c : Char} (digit : isHexDigit c = true) : isIdChar c = true := by
  simp only [isHexDigit, isIdChar, Bool.or_eq_true, Bool.and_eq_true, decide_eq_true_eq,
    Char.le_def, UInt32.le_iff_toNat_le] at digit ⊢
  have small : ('f' : Char).val.toNat = 102 ∧ ('z' : Char).val.toNat = 122 := ⟨rfl, rfl⟩
  have great : ('F' : Char).val.toNat = 70 ∧ ('Z' : Char).val.toNat = 90 := ⟨rfl, rfl⟩
  omega

theorem lt_of_isIdChar {c : Char} (plain : isIdChar c = true) : c.toNat < 128 := by
  simp only [isIdChar, Bool.or_eq_true, Bool.and_eq_true, decide_eq_true_eq, beq_iff_eq,
    Char.le_def, UInt32.le_iff_toNat_le] at plain
  change c.val.toNat < 128
  rcases plain with ((((small | great) | digit) | rfl) | rfl) | rfl
  · exact Nat.lt_of_le_of_lt small.2 (by decide)
  · exact Nat.lt_of_le_of_lt great.2 (by decide)
  · exact Nat.lt_of_le_of_lt digit.2 (by decide)
  all_goals decide

theorem isIdChar_colon : isIdChar ':' = false := by decide

theorem isIdChar_percent : isIdChar '%' = false := by decide

/-! ### Units -/

theorem IdUnit.ne_nil {one : List Char} (unit : IdUnit one) : one ≠ [] := by
  cases unit <;> exact List.cons_ne_nil _ _

/-- A unit ends with a character that is no colon. -/
theorem IdUnit.isIdChar_getLast {one : List Char} (unit : IdUnit one) :
    ∀ c ∈ one.getLast?, isIdChar c = true := by
  cases unit with
  | plain isPlain => simpa using isPlain
  | escape _ low => simpa using isIdChar_of_isHexDigit low

theorem IdUnits.isIdChar_getLast (units : IdUnits segment) :
    ∀ c ∈ segment.getLast?, isIdChar c = true := by
  induction units with
  | nil => nofun
  | @cons one rest unit units ih =>
      intro c last
      rw [List.getLast?_append] at last
      cases left : rest.getLast? with
      | none =>
          rw [left, Option.none_or] at last
          exact unit.isIdChar_getLast c last
      | some final =>
          rw [left, Option.some_or] at last
          exact ih c (left ▸ last)

/-! ### Scanning -/

theorem scanId_cons {c : Char} (notPercent : c ≠ '%') (rest : List Char) :
    scanId (c :: rest) =
      if isIdChar c || c == ':' then scanId rest
      else if c == '/' || c == '?' || c == '#' then .error .url
      else .error .invalidCharacter :=
  scanId.eq_5 c rest (fun same => absurd same notPercent) (fun _ same => absurd same notPercent)
    fun _ _ _ same => absurd same notPercent

/-- The scan passes every unit. -/
theorem IdUnit.scanId_append {one : List Char} (unit : IdUnit one) (rest : List Char) :
    scanId (one ++ rest) = scanId rest := by
  cases unit with
  | @plain c isPlain =>
      have notPercent : c ≠ '%' := by
        rintro rfl
        rw [isIdChar_percent] at isPlain
        cases isPlain
      rw [List.singleton_append, scanId_cons notPercent, isPlain, Bool.true_or, if_pos rfl]
  | @escape high low isHigh isLow =>
      change scanId ('%' :: high :: low :: rest) = scanId rest
      rw [scanId, isHigh, isLow, Bool.and_self, if_pos rfl]

theorem IdUnits.scanId_append (units : IdUnits segment) (rest : List Char) :
    scanId (segment ++ rest) = scanId rest := by
  induction units with
  | nil => rfl
  | cons unit _ ih => rw [List.append_assoc, unit.scanId_append, ih]

theorem scanId_colon (rest : List Char) : scanId (':' :: rest) = scanId rest := by
  rw [scanId_cons (by decide), beq_self_eq_true, Bool.or_true, if_pos rfl]

/-! ### Identifiers -/

theorem IsId.ne_nil (isId : IsId id) : id ≠ [] := by
  cases isId with
  | last filled _ => exact filled
  | more _ _ => simp

/-- An identifier passes the scan. -/
theorem IsId.scanId_eq_ok (isId : IsId id) : scanId id = .ok () := by
  induction isId with
  | @last segment _ units =>
      rw [← List.append_nil segment, units.scanId_append, scanId]
  | more units _ ih => rw [units.scanId_append, scanId_colon, ih]

theorem IsId.getLast?_ne_colon (isId : IsId id) : id.getLast? ≠ some ':' := by
  induction isId with
  | last _ units =>
      intro last
      have plain := units.isIdChar_getLast ':' last
      rw [isIdChar_colon] at plain
      cases plain
  | @more segment rest _ later ih =>
      rw [List.getLast?_append, List.getLast?_cons, Option.some_or]
      rw [List.getLast?_eq_some_getLast later.ne_nil] at ih ⊢
      exact ih

theorem IsId.of_unit {one : List Char} (unit : IdUnit one) : IsId one := by
  have units : IdUnits (one ++ []) := .cons unit .nil
  rw [List.append_nil] at units
  exact .last unit.ne_nil units

/-- A unit may be put in front of an identifier, where it joins the first segment. -/
theorem IsId.unit_append {one : List Char} (unit : IdUnit one) (isId : IsId rest) :
    IsId (one ++ rest) := by
  cases isId with
  | last filled units => exact .last (by simp [filled]) (.cons unit units)
  | more units later =>
      rw [← List.append_assoc]
      exact .more (.cons unit units) later

/-- A colon may be put in front of an identifier, behind an empty segment. -/
theorem IsId.colon_cons (isId : IsId rest) : IsId (':' :: rest) :=
  .more .nil isId

/-- What passes the scan and does not end with a colon is an identifier. -/
theorem isId_of_scanId (scanned : scanId id = .ok ()) (filled : id ≠ [])
    (noColon : id.getLast? ≠ some ':') : IsId id := by
  fun_induction scanId id with
  | case1 => exact absurd rfl filled
  | case4 high low rest digits ih =>
      have unit : IdUnit ['%', high, low] := by
        rw [Bool.and_eq_true] at digits
        exact .escape digits.1 digits.2
      cases rest with
      | nil => exact .of_unit unit
      | cons c others => exact .unit_append unit (ih scanned (List.cons_ne_nil c others) noColon)
  | case6 c rest _ _ _ passes ih =>
      rw [Bool.or_eq_true, beq_iff_eq] at passes
      cases rest with
      | nil =>
          have plain : isIdChar c = true := passes.resolve_right (by simpa using noColon)
          exact .of_unit (.plain plain)
      | cons d others =>
          have later := ih scanned (List.cons_ne_nil d others) noColon
          rcases passes with plain | rfl
          · exact .unit_append (.plain plain) later
          · exact .colon_cons later
  | _ => cases scanned

/-- The check of a method-specific identifier accepts exactly the identifiers. -/
theorem checkId_eq_ok_iff : checkId id = .ok () ↔ IsId id := by
  rw [checkId, ite_error_eq_ok_iff, ite_error_eq_ok_iff, List.isEmpty_iff, beq_iff_eq]
  constructor
  · rintro ⟨filled, noColon, scanned⟩
    exact isId_of_scanId scanned filled noColon
  · intro isId
    exact ⟨isId.ne_nil, isId.getLast?_ne_colon, isId.scanId_eq_ok⟩

/-! ### Whole texts -/

theorem not_isMethodChar_colon : isMethodChar ':' = false := by decide

theorem ne_colon_of_isMethodChar {c : Char} (isMethod : isMethodChar c = true) :
    (c != ':') = true := by
  rw [bne_iff_ne]
  rintro rfl
  rw [not_isMethodChar_colon] at isMethod
  cases isMethod

/-- The check of a DID accepts exactly the DIDs. -/
theorem check_eq_ok_iff {text : String} : check text = .ok () ↔ IsDid text := by
  rw [check, ite_error_eq_ok_iff, ite_error_eq_ok_iff, IsDid, Nat.not_lt]
  constructor
  · rintro ⟨_, sized, accepted⟩
    refine ⟨sized, ?_⟩
    split at accepted
    case h_2 => cases accepted
    case h_1 rest spelled =>
      dsimp only at accepted
      split at accepted
      case h_1 => cases accepted
      case h_2 c id behind =>
        rw [ite_error_eq_ok_iff] at accepted
        rcases accepted with ⟨isMethod, accepted⟩
        split at accepted
        case h_2 => cases accepted
        case h_1 isChecked =>
          have colon : c = ':' := by
            have stopped := List.head?_dropWhile_not (· != ':') rest
            rw [behind] at stopped
            simpa using stopped
          subst colon
          rw [Bool.or_eq_true, not_or, List.isEmpty_iff] at isMethod
          refine ⟨rest.takeWhile (· != ':'), id, ?_, isMethod.1, ?_, checkId_eq_ok_iff.mp isChecked⟩
          · rw [← String.ofList_toList (s := text), spelled, List.append_assoc, ← behind,
              List.takeWhile_append_dropWhile]
            rfl
          · simpa using isMethod.2
  · rintro ⟨sized, method, id, rfl, filled, areMethod, isId⟩
    have apart : ∀ c ∈ method, (c != ':') = true :=
      fun c member => ne_colon_of_isMethodChar (areMethod c member)
    have front : (method ++ ':' :: id).takeWhile (· != ':') = method := by
      rw [List.takeWhile_append_of_pos apart]
      simp
    have back : (method ++ ':' :: id).dropWhile (· != ':') = ':' :: id := by
      rw [List.dropWhile_append_of_pos apart]
      rfl
    refine ⟨by simp, sized, ?_⟩
    have spelled : (String.ofList ("did:".toList ++ method ++ ':' :: id)).toList =
        'd' :: 'i' :: 'd' :: ':' :: (method ++ ':' :: id) := by
      rw [String.toList_ofList, List.append_assoc]
      rfl
    rw [spelled]
    simp only [front, back]
    refine ite_error_eq_ok_iff.mpr ⟨?_, ?_⟩
    · simpa [filled] using areMethod
    · rw [checkId_eq_ok_iff.mpr isId]

end Did
end BpnDirectory
