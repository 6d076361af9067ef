import BpnDirectory.Failure
import BpnDirectory.Proofs.Identifier.Grammar
import Mathlib.Logic.Function.Iterate

namespace BpnDirectory

/-!
The checks of identifiers on octets.

A check need not take a text apart into characters.  It can go over the octets and reach them by
their positions, as long as it never asks for a position where no octet is and never stands still.
Both hold: what such a check finds is what the check on characters finds, and it needs one step for
each octet at most and one more to see the end.
-/

namespace Text.Utf8

/-- The character of ASCII that an octet stands for by itself; octets beyond ASCII get characters
beyond it. -/
def asciiChar (octet : UInt8) : Char := Char.ofNat octet.toNat

/-- The octets from one position up to another, if all of them are there. -/
def slice? (octets : List UInt8) (first next : Nat) : Option (List UInt8) :=
  if first ≤ next ∧ next ≤ octets.length then some ((octets.drop first).take (next - first))
  else none

theorem toNat_asciiChar (octet : UInt8) : (asciiChar octet).toNat = octet.toNat := by
  have valid : octet.toNat.isValidChar := Or.inl (Nat.lt_trans octet.toNat_lt (by decide))
  rw [asciiChar, Char.ofNat, dif_pos valid]
  rfl

/-- A character is one octet that stands for it, or it begins with an octet beyond ASCII. -/
theorem encoded_eq_cons (c : Char) :
    ∃ octet others, String.utf8EncodeChar c = octet :: others ∧
      (others = [] ∧ asciiChar octet = c ∨
        others ≠ [] ∧ 128 ≤ c.toNat ∧ ∀ other ∈ octet :: others, 128 ≤ (asciiChar other).toNat) := by
  rcases encoded_cases c with ⟨octet, encoded, same, _⟩ | ⟨beyond, long, all⟩
  · refine ⟨octet, [], encoded, .inl ⟨rfl, ?_⟩⟩
    rw [← Char.toNat_inj, toNat_asciiChar, same]
  · cases encoded : String.utf8EncodeChar c with
    | nil => exact absurd encoded String.utf8EncodeChar_ne_nil
    | cons octet others =>
        rw [encoded] at long all
        refine ⟨octet, others, rfl, .inr ⟨?_, beyond, fun other member => ?_⟩⟩
        · rintro rfl
          simp at long
        · rw [toNat_asciiChar]
          exact all other member

/-- What is true of no character beyond ASCII is true of a character exactly if it is true of the
first octet. -/
theorem asciiChar_congr {holds : Char → Bool} (ascii : ∀ c, 128 ≤ c.toNat → holds c = false)
    {c : Char} {octet : UInt8} {others : List UInt8}
    (encoded : String.utf8EncodeChar c = octet :: others) :
    holds (asciiChar octet) = holds c := by
  rcases encoded_eq_cons c with ⟨first, rest, spelled, alone | ⟨_, beyond, all⟩⟩
  · rw [encoded] at spelled
    cases spelled
    rw [alone.2]
  · rw [encoded] at spelled
    cases spelled
    rw [ascii c beyond, ascii _ (all octet List.mem_cons_self)]

/-- The same for all characters of a text and all of its octets. -/
theorem all_asciiChar {holds : Char → Bool} (ascii : ∀ c, 128 ≤ c.toNat → holds c = false)
    (cs : List Char) :
    ((cs.flatMap String.utf8EncodeChar).all fun octet => holds (asciiChar octet)) =
      cs.all holds := by
  induction cs with
  | nil => rfl
  | cons c rest ih =>
      rw [List.flatMap_cons, List.all_append, ih, List.all_cons]
      rcases encoded_eq_cons c with ⟨octet, others, encoded, alone | ⟨_, beyond, all⟩⟩
      · rw [encoded, alone.1, List.all_cons, List.all_nil, alone.2, Bool.and_true]
      · rw [encoded, List.all_cons, ascii c beyond, ascii _ (all octet List.mem_cons_self)]
        rfl

end Text.Utf8

open Text.Utf8 (asciiChar slice? octets)

/-! ## Decentralized identifiers

What stands before the method-specific identifier is cut off at characters, so positions matter in
that identifier only. -/

namespace Did

/-- How far a walk over the octets of an identifier has come. -/
inductive Walk where
  | standing (position : Nat)
  | ended (verdict : Except IdDefect Unit)
  /-- An octet was to be taken from a position where none is. -/
  | astray

/-- Where a walk gets from a position, given the character there and the two octets behind it, if
there are two. -/
def Walk.pass (position : Nat) (c : Char) (digits : Option (List UInt8)) : Walk :=
  if c = '%' then
    match digits with
    | none => .ended (.error .truncatedEscape)
    | some digits =>
      if digits.all fun digit => isHexDigit (asciiChar digit) then .standing (position + 3)
      else .ended (.error .invalidEscape)
  else if isIdChar c || c == ':' then .standing (position + 1)
  else if c == '/' || c == '?' || c == '#' then .ended (.error .url)
  else .ended (.error .invalidCharacter)

/-- One step of a walk.  Only the octets of an escape are asked for without knowing that they are
there. -/
def Walk.step (octets : List UInt8) : Walk → Walk
  | .standing position =>
    if position < octets.length then
      match octets[position]? with
      | none => .astray
      | some octet =>
        .pass position (asciiChar octet) (slice? octets (position + 1) (position + 3))
    else .ended (.ok ())
  | walk => walk

variable {all others : List UInt8} {octet : UInt8} {position steps : Nat}

theorem Walk.step_of_end (left : all.drop position = []) :
    step all (.standing position) = .ended (.ok ()) := by
  have beyond : ¬ position < all.length := Nat.not_lt.mpr (List.drop_eq_nil_iff.mp left)
  rw [step, if_neg beyond]

/-- A step that is made before the end finds its octet. -/
theorem Walk.step_of_cons (left : all.drop position = octet :: others) :
    step all (.standing position) =
      pass position (asciiChar octet) (if 2 ≤ others.length then some (others.take 2) else none) := by
  have here : all[position]? = some octet := by
    rw [← List.head?_drop, left, List.head?_cons]
  have behind : all.drop (position + 1) = others := by
    rw [← List.drop_drop, left, List.drop_one, List.tail_cons]
  have inside : position < all.length := (List.getElem?_eq_some_iff.mp here).1
  have length : others.length = all.length - (position + 1) := by
    rw [← behind, List.length_drop]
  have cut : slice? all (position + 1) (position + 3) =
      if 2 ≤ others.length then some (others.take 2) else none := by
    rw [slice?, behind, show position + 3 - (position + 1) = 2 by omega]
    congr 1
    rw [eq_iff_iff, length]
    omega
  rw [step, if_pos inside, here, cut]

theorem Walk.pass_of_ne {c : Char} (notPercent : c ≠ '%') (position : Nat)
    (digits : Option (List UInt8)) :
    pass position c digits =
      if isIdChar c || c == ':' then .standing (position + 1)
      else if c == '/' || c == '?' || c == '#' then .ended (.error .url)
      else .ended (.error .invalidCharacter) := by
  unfold pass
  rw [if_neg notPercent]

theorem Walk.iterate_ended (verdict : Except IdDefect Unit) :
    (step all)^[steps] (.ended verdict) = .ended verdict :=
  Function.iterate_fixed rfl steps

/-! ### Characters beyond ASCII -/

theorem isIdChar_of_beyond {c : Char} (beyond : 128 ≤ c.toNat) : isIdChar c = false := by
  rw [← Bool.not_eq_true]
  exact fun plain => Nat.not_lt_of_le beyond (lt_of_isIdChar plain)

theorem isHexDigit_of_beyond {c : Char} (beyond : 128 ≤ c.toNat) : isHexDigit c = false := by
  rw [← Bool.not_eq_true]
  exact fun digit => Nat.not_lt_of_le beyond (lt_of_isIdChar (isIdChar_of_isHexDigit digit))

theorem ne_of_beyond {c d : Char} (beyond : 128 ≤ c.toNat) (ascii : d.toNat < 128) : c ≠ d := by
  rintro rfl
  exact Nat.not_lt_of_le beyond ascii

theorem not_passed_of_beyond {c : Char} (beyond : 128 ≤ c.toNat) :
    (isIdChar c || c == ':') = false := by
  have colon : c ≠ ':' := ne_of_beyond beyond (by decide)
  rw [isIdChar_of_beyond beyond, Bool.false_or, beq_eq_false_iff_ne]
  exact colon

theorem not_url_of_beyond {c : Char} (beyond : 128 ≤ c.toNat) :
    (c == '/' || c == '?' || c == '#') = false := by
  have slash : c ≠ '/' := ne_of_beyond beyond (by decide)
  have mark : c ≠ '?' := ne_of_beyond beyond (by decide)
  have hash : c ≠ '#' := ne_of_beyond beyond (by decide)
  simp [slash, mark, hash]

/-- An octet beyond ASCII is refused for the same reason as a character beyond ASCII. -/
theorem Walk.pass_of_beyond {c : Char} (beyond : 128 ≤ c.toNat) (position : Nat)
    (digits : Option (List UInt8)) :
    pass position c digits = .ended (.error .invalidCharacter) := by
  rw [pass_of_ne (ne_of_beyond beyond (by decide)), not_passed_of_beyond beyond,
    not_url_of_beyond beyond]
  rfl

theorem scanId_of_beyond {c : Char} (beyond : 128 ≤ c.toNat) (rest : List Char) :
    scanId (c :: rest) = .error .invalidCharacter := by
  rw [scanId_cons (ne_of_beyond beyond (by decide)), not_passed_of_beyond beyond,
    not_url_of_beyond beyond]
  rfl

theorem ne_percent_of_plain {c : Char} (plain : isIdChar c = true ∨ c = ':') : c ≠ '%' := by
  rintro rfl
  simp [isIdChar_percent] at plain

theorem scanId_of_plain {c : Char} (plain : isIdChar c = true ∨ c = ':') (rest : List Char) :
    scanId (c :: rest) = scanId rest := by
  rw [scanId_cons (ne_percent_of_plain plain), if_pos (by simpa using plain)]

/-! ### Escapes -/

/-- The two octets behind a percent sign are digits exactly if the two characters are. -/
theorem all_isHexDigit_take (high low : Char) (tail : List UInt8) :
    let others := String.utf8EncodeChar high ++ (String.utf8EncodeChar low ++ tail)
    2 ≤ others.length ∧
      ((others.take 2).all fun digit => isHexDigit (asciiChar digit)) =
        (isHexDigit high && isHexDigit low) := by
  have hex : ∀ c : Char, 128 ≤ c.toNat → isHexDigit c = false := fun _ => isHexDigit_of_beyond
  rcases Text.Utf8.encoded_eq_cons high with ⟨first, rest, encodedHigh, highCase⟩
  rcases Text.Utf8.encoded_eq_cons low with ⟨second, after, encodedLow, _⟩
  have firstHex := Text.Utf8.asciiChar_congr hex encodedHigh
  have secondHex := Text.Utf8.asciiChar_congr hex encodedLow
  rw [encodedHigh, encodedLow]
  rcases highCase with ⟨rfl, _⟩ | ⟨more, beyond, _⟩
  · simp [firstHex, secondHex]
  · obtain ⟨next, others, rfl⟩ := List.exists_cons_of_ne_nil more
    simp [firstHex, hex high beyond]

theorem encoded_of_isHexDigit {c : Char} (digit : isHexDigit c = true) :
    ∃ octet, String.utf8EncodeChar c = [octet] := by
  rcases Text.Utf8.encoded_cases c with ⟨octet, encoded, _⟩ | ⟨beyond, _⟩
  · exact ⟨octet, encoded⟩
  · rw [isHexDigit_of_beyond beyond] at digit
    cases digit

theorem encoded_of_isIdChar {c : Char} (plain : isIdChar c = true ∨ c = ':') :
    ∃ octet, String.utf8EncodeChar c = [octet] ∧ asciiChar octet = c := by
  have ascii : c.toNat < 128 := by
    rcases plain with plain | rfl
    · exact lt_of_isIdChar plain
    · decide
  rcases Text.Utf8.encoded_eq_cons c with ⟨octet, others, encoded, ⟨rfl, same⟩ | ⟨_, beyond, _⟩⟩
  · exact ⟨octet, encoded, same⟩
  · exact absurd ascii (Nat.not_lt_of_le beyond)

/-! ### Steps and characters -/

variable {c : Char} {tail : List UInt8}

/-- A step over a character that stands for itself. -/
theorem Walk.step_of_plain (plain : isIdChar c = true ∨ c = ':')
    (left : all.drop position = String.utf8EncodeChar c ++ tail) :
    step all (.standing position) = .standing (position + 1) ∧
      all.drop (position + 1) = tail := by
  rcases encoded_of_isIdChar plain with ⟨octet, encoded, same⟩
  rw [encoded, List.singleton_append] at left
  constructor
  · rw [step_of_cons left, same, pass_of_ne (ne_percent_of_plain plain),
      if_pos (by simpa using plain)]
  · rw [← List.drop_drop, left, List.drop_one, List.tail_cons]

/-- A step at a character that may not stand in an identifier. -/
theorem Walk.step_of_stopping (notPercent : c ≠ '%') (stops : ¬ (isIdChar c || c == ':') = true)
    (left : all.drop position = String.utf8EncodeChar c ++ tail) (rest : List Char) :
    step all (.standing position) = .ended (scanId (c :: rest)) := by
  rcases Text.Utf8.encoded_eq_cons c with ⟨octet, others, encoded, ⟨rfl, same⟩ | ⟨_, beyond, far⟩⟩
  · rw [encoded, List.singleton_append] at left
    rw [step_of_cons left, same, pass_of_ne notPercent, if_neg stops, scanId_cons notPercent,
      if_neg stops]
    split <;> rfl
  · rw [encoded, List.cons_append] at left
    rw [step_of_cons left, pass_of_beyond (far octet List.mem_cons_self), scanId_of_beyond beyond]

/-- A step over an escape. -/
theorem Walk.step_of_escape {high low : Char}
    (left : all.drop position = 0x25 :: (String.utf8EncodeChar high ++
      (String.utf8EncodeChar low ++ tail))) :
    step all (.standing position) =
      if isHexDigit high && isHexDigit low then .standing (position + 3)
      else .ended (.error .invalidEscape) := by
  rcases all_isHexDigit_take high low tail with ⟨long, digits⟩
  rw [step_of_cons left, if_pos long, ← digits]
  rfl

theorem drop_of_escape {high low : Char} (isHigh : isHexDigit high = true)
    (isLow : isHexDigit low = true)
    (left : all.drop position = 0x25 :: (String.utf8EncodeChar high ++
      (String.utf8EncodeChar low ++ tail))) :
    all.drop (position + 3) = tail := by
  rcases encoded_of_isHexDigit isHigh with ⟨first, encodedHigh⟩
  rcases encoded_of_isHexDigit isLow with ⟨second, encodedLow⟩
  rw [← List.drop_drop, left, encodedHigh, encodedLow]
  rfl

/-- A step at an escape that is cut short, or whose only character takes more than one octet. -/
theorem Walk.step_of_short (c : Char)
    (left : all.drop position = 0x25 :: String.utf8EncodeChar c) :
    step all (.standing position) = .ended (scanId ['%', c]) := by
  rw [step_of_cons left, scanId, ← String.length_utf8EncodeChar]
  rcases Text.Utf8.encoded_eq_cons c with ⟨octet, others, encoded, ⟨rfl, _⟩ | ⟨more, _, far⟩⟩
  · rw [encoded]
    rfl
  · obtain ⟨next, last, rfl⟩ := List.exists_cons_of_ne_nil more
    have notDigit := isHexDigit_of_beyond (far octet List.mem_cons_self)
    have long : 2 ≤ (octet :: next :: last).length := by simp
    rw [encoded, if_pos long, if_neg (Nat.not_lt.mpr long)]
    simp only [pass, List.take_succ_cons, List.all_cons, notDigit, Bool.false_and]
    rfl

/-- Fewer octets are left further on. -/
theorem length_lt_of_drop {here later : List UInt8} {passed : Nat} (filled : here ≠ [])
    (left : all.drop position = here) (behind : all.drop (position + (passed + 1)) = later) :
    later.length < here.length := by
  have some : 0 < here.length := List.length_pos_iff.mpr filled
  subst left behind
  rw [List.length_drop] at some ⊢
  rw [List.length_drop]
  omega

theorem flatMap_encoded_ne_nil (c : Char) (rest : List Char) :
    (c :: rest).flatMap String.utf8EncodeChar ≠ [] := by
  rw [List.flatMap_cons]
  exact List.append_ne_nil_of_left_ne_nil String.utf8EncodeChar_ne_nil _

/-- From wherever a walk stands, it ends with the verdict of the scan on what is left, as soon as
it has made one step for each octet that is left and one more. -/
theorem Walk.iterate_standing (cs : List Char) {position steps : Nat}
    (left : all.drop position = cs.flatMap String.utf8EncodeChar)
    (enough : (cs.flatMap String.utf8EncodeChar).length ≤ steps) :
    (step all)^[steps + 1] (.standing position) = .ended (scanId cs) := by
  rw [Function.iterate_succ_apply]
  induction cs using scanId.induct generalizing position steps with
  | case1 => rw [step_of_end left, iterate_ended, scanId]
  | case2 =>
      rw [step_of_cons left]
      exact iterate_ended _
  | case3 c =>
      have cut : all.drop position = 0x25 :: String.utf8EncodeChar c := by
        rw [left, List.flatMap_cons, List.flatMap_singleton]
        rfl
      rw [step_of_short c cut, iterate_ended]
  | case4 high low rest digits ih =>
      rw [step_of_escape left, if_pos digits, scanId, if_pos digits]
      rw [Bool.and_eq_true] at digits
      have later : all.drop (position + 3) = rest.flatMap String.utf8EncodeChar :=
        drop_of_escape digits.1 digits.2 left
      have fewer := length_lt_of_drop (flatMap_encoded_ne_nil _ _) left later
      obtain ⟨steps, rfl⟩ := Nat.exists_eq_add_one_of_ne_zero (by omega : steps ≠ 0)
      rw [Function.iterate_succ_apply]
      exact ih later (by omega)
  | case5 high low rest digits =>
      rw [step_of_escape left, if_neg digits, iterate_ended, scanId, if_neg digits]
  | case6 c rest _ _ _ passes ih =>
      rw [Bool.or_eq_true, beq_iff_eq] at passes
      rcases step_of_plain passes (left.trans List.flatMap_cons) with ⟨made, later⟩
      have fewer := length_lt_of_drop (flatMap_encoded_ne_nil c rest) left later
      obtain ⟨steps, rfl⟩ := Nat.exists_eq_add_one_of_ne_zero (by omega : steps ≠ 0)
      rw [made, Function.iterate_succ_apply, scanId_of_plain passes]
      exact ih later (by omega)
  | case7 c rest none one two stops _ | case8 c rest none one two stops _ =>
      have notPercent : c ≠ '%' := by
        rintro rfl
        rcases rest with _ | ⟨high, _ | ⟨low, others⟩⟩
        · exact none rfl rfl
        · exact one high rfl rfl
        · exact two high low others rfl rfl
      rw [step_of_stopping notPercent stops left, iterate_ended]

end Did

/-! ## Business Partner Numbers -/

namespace Bpn

/-- The check of a BPN on the octets of a text.  It has no outcome if it asks for octets that are
not there. -/
def checkOctets (text : String) : Option (Except Defect Unit) :=
  if (octets text).isEmpty then some (.error .empty)
  else if (octets text).length ≠ size then some (.error (.wrongSize (octets text).length))
  else do
    let start ← slice? (octets text) 0 3
    if start ≠ octets "BPN" then some (.error (.wrongStart text))
    else
      let kind ← (octets text)[3]?
      if !isKind (asciiChar kind) then some (.error (.unknownKind kind text))
      else
        let serial ← slice? (octets text) 4 (octets text).length
        if !serial.all fun octet => isSerial (asciiChar octet) then
          some (.error (.wrongSerial text))
        else some (.ok ())

theorem isKind_of_beyond {c : Char} (beyond : 128 ≤ c.toNat) : isKind c = false := by
  rw [← Bool.not_eq_true]
  exact fun kind => Nat.not_lt_of_le beyond (lt_of_isKind kind)

theorem isSerial_of_beyond {c : Char} (beyond : 128 ≤ c.toNat) : isSerial c = false := by
  rw [← Bool.not_eq_true]
  exact fun serial => Nat.not_lt_of_le beyond (lt_of_isSerial serial)

/-- The octets of a character of ASCII in front of a text are its first character. -/
theorem eq_cons_of_flatMap {cs : List Char} {c : Char} {others : List UInt8}
    (ascii : c.toNat < 128)
    (spelled : cs.flatMap String.utf8EncodeChar = String.utf8EncodeChar c ++ others) :
    ∃ rest, cs = c :: rest ∧ rest.flatMap String.utf8EncodeChar = others := by
  rcases Text.Utf8.encoded_eq_cons c with ⟨octet, _, encoded, ⟨rfl, same⟩ | ⟨_, beyond, _⟩⟩
  case inr => exact absurd ascii (Nat.not_lt_of_le beyond)
  rw [encoded, List.singleton_append] at spelled
  cases cs with
  | nil => cases spelled
  | cons d rest =>
      rw [List.flatMap_cons] at spelled
      rcases Text.Utf8.encoded_eq_cons d with ⟨first, _, encodedFirst, ⟨rfl, kept⟩ | ⟨_, _, far⟩⟩
      · rw [encodedFirst, List.singleton_append, List.cons.injEq] at spelled
        rw [spelled.1, same] at kept
        exact ⟨rest, by rw [kept], spelled.2⟩
      · rw [encodedFirst, List.cons_append, List.cons.injEq] at spelled
        have beyond := far first List.mem_cons_self
        rw [spelled.1, same] at beyond
        exact absurd ascii (Nat.not_lt_of_le beyond)

/-- A text whose first three octets spell the fixed letters begins with these letters. -/
theorem toList_of_start {text : String} (start : (octets text).take 3 = octets "BPN") :
    ∃ rest, text.toList = 'B' :: 'P' :: 'N' :: rest ∧
      octets text = octets "BPN" ++ rest.flatMap String.utf8EncodeChar := by
  have fixed : octets "BPN" = String.utf8EncodeChar 'B' ++ (String.utf8EncodeChar 'P' ++
      (String.utf8EncodeChar 'N' ++ [])) := by decide
  have spelled : text.toList.flatMap String.utf8EncodeChar =
      octets "BPN" ++ (octets text).drop 3 := by
    rw [← Text.Utf8.octets_eq_flatMap, ← start, List.take_append_drop]
  rw [fixed, List.append_assoc, List.append_assoc, List.append_assoc, List.nil_append] at spelled
  rcases eq_cons_of_flatMap (by decide) spelled with ⟨first, isFirst, spelled⟩
  rcases eq_cons_of_flatMap (by decide) spelled with ⟨second, isSecond, spelled⟩
  rcases eq_cons_of_flatMap (by decide) spelled with ⟨rest, isRest, spelled⟩
  refine ⟨rest, by rw [isFirst, isSecond, isRest], ?_⟩
  rw [spelled, ← start, List.take_append_drop]

/-- A text that begins with the fixed letters has their octets in front. -/
theorem take_of_toList {text : String} {rest : List Char}
    (spelled : text.toList = 'B' :: 'P' :: 'N' :: rest) :
    (octets text).take 3 = octets "BPN" := by
  have fixed : octets "BPN" = ['B', 'P', 'N'].flatMap String.utf8EncodeChar :=
    Text.Utf8.octets_eq_flatMap "BPN"
  have apart : 'B' :: 'P' :: 'N' :: rest = ['B', 'P', 'N'] ++ rest := rfl
  rw [Text.Utf8.octets_eq_flatMap, spelled, apart, List.flatMap_append, ← fixed]
  exact List.take_left' (by decide)

theorem isEmpty_octets (text : String) : (octets text).isEmpty = text.isEmpty := by
  rw [String.isEmpty, ← Text.Utf8.length_octets, Bool.eq_iff_iff, List.isEmpty_iff_length_eq_zero,
    beq_iff_eq]

/-- A kind is one octet, so the serial begins with the fifth. -/
theorem slice_of_kind {text : String} {kind : Char} {serial : List Char}
    (known : isKind kind = true)
    (spelled : octets text = octets "BPN" ++ (kind :: serial).flatMap String.utf8EncodeChar) :
    slice? (octets text) 4 (octets text).length =
      some (serial.flatMap String.utf8EncodeChar) := by
  rcases Text.Utf8.encoded_eq_cons kind with ⟨octet, _, encoded, ⟨rfl, _⟩ | ⟨_, beyond, _⟩⟩
  · have parts : octets text = (octets "BPN" ++ [octet]) ++ serial.flatMap String.utf8EncodeChar := by
      rw [spelled, List.flatMap_cons, encoded, List.append_assoc]
    have front : (octets "BPN" ++ [octet]).length = 4 := by
      rw [List.length_append, List.length_singleton, show (octets "BPN").length = 3 by decide]
    have cut : (octets text).drop 4 = serial.flatMap String.utf8EncodeChar := by
      rw [parts]
      exact List.drop_left' front
    have enough : 4 ≤ (octets text).length := by
      rw [parts, List.length_append, front]
      exact Nat.le_add_right _ _
    rw [slice?, if_pos ⟨enough, Nat.le_refl _⟩, ← cut, ← List.length_drop, List.take_length]
  · rw [isKind_of_beyond beyond] at known
    cases known

/-- The check on octets finds all the octets that it asks for, and finds of a text what the check
on characters finds. -/
theorem checkOctets_eq (text : String) : checkOctets text = some (check text) := by
  rw [checkOctets, check, isEmpty_octets, Text.Utf8.length_octets]
  split
  · rfl
  split
  · rfl
  next sized =>
  have long : (octets text).length = 16 := Decidable.not_not.mp sized
  have first : slice? (octets text) 0 3 = some ((octets text).take 3) := by
    rw [slice?, if_pos (by omega), List.drop_zero]
  rw [first, Option.bind_eq_bind, Option.bind_some]
  by_cases start : (octets text).take 3 = octets "BPN"
  case neg =>
    rw [if_pos start]
    split
    case h_1 kind serial fixed => exact absurd (take_of_toList fixed) start
    case h_2 => rfl
  case pos =>
    rcases toList_of_start start with ⟨_ | ⟨kind, serial⟩, fixed, spelled⟩
    · rw [spelled] at long
      exact absurd long (by decide)
    · rcases Text.Utf8.encoded_eq_cons kind with ⟨octet, others, encoded, _⟩
      have fourth : (octets text)[3]? = some octet := by
        rw [spelled, List.flatMap_cons, encoded]
        rfl
      have lead : leadOctet kind = octet := by
        rw [leadOctet, encoded, List.headD_cons]
      have judged := Text.Utf8.asciiChar_congr (fun _ => isKind_of_beyond) encoded
      rw [if_neg (not_not_intro start), fourth, Option.bind_eq_bind, Option.bind_some, fixed, judged]
      simp only [lead]
      split
      case isTrue => rfl
      case isFalse known =>
        rw [← Text.Utf8.length_octets, slice_of_kind (by simpa using known) spelled,
          Option.bind_some, Text.Utf8.all_asciiChar (fun _ => isSerial_of_beyond)]
        split <;> rfl

end Bpn

/-! ## Both -/

/-- Exactly the identifiers are accepted.  On octets, the walk over what may be a method-specific
identifier is over after as many steps as there are octets and one more, with the verdict of the
scan, and the check of a BPN has an outcome and it is the same: neither goes astray. -/
theorem accepts_exactly_identifiers (text : String) :
    (requireDid text = .ok () ↔ Did.IsDid text) ∧
      (requireBpn text = .ok () ↔ Bpn.IsBpn text) ∧
      (Did.Walk.step (octets text))^[(octets text).length + 1] (.standing 0) =
        .ended (Did.scanId text.toList) ∧
      Bpn.checkOctets text = some (Bpn.check text) := by
  refine ⟨?_, ?_, ?_, Bpn.checkOctets_eq text⟩
  · rw [requireDid, mapError_eq_ok_iff, Did.check_eq_ok_iff]
  · rw [requireBpn, mapError_eq_ok_iff, Bpn.check_eq_ok_iff]
  · apply Did.Walk.iterate_standing
    · rw [List.drop_zero, Text.Utf8.octets_eq_flatMap]
    · exact Nat.le_of_eq (by rw [← Text.Utf8.octets_eq_flatMap])

end BpnDirectory
