import BpnDirectory.Mapping.PageToken
import BpnDirectory.Proofs.Text.Base64Url

namespace BpnDirectory
namespace PageToken

/-!
Keys and page tokens.

Every key has a token, and every token that is accepted is the one token of one key.  A token that
is refused has a fault that can be named: a character that is no digit, a digit too many, bits in
the last digit that belong to no octet, or octets that are the UTF-8 of no text.
-/

open Text (Utf8.octets)
open Text.Base64Url (Digits Spells alphabet row)

/-- What can be wrong with a token. -/
inductive Malformed (token : String) : Prop where
  /-- A character is no digit; the sign that pads other written forms is none either. -/
  | foreign {c : Char} : c ∈ token.toList → c ∉ alphabet → Malformed token
  /-- The last digit is alone with six bits, and an octet takes two digits. -/
  | incomplete : token.toList.length % 4 = 1 → Malformed token
  /-- Bits behind the last octet are not all zero. -/
  | unused {numbers : List Nat} {octets : List UInt8} {spare : List Bool} :
      Digits token.toList numbers → row 6 numbers = row 8 (octets.map UInt8.toNat) ++ spare →
      spare.length < 6 → true ∈ spare → Malformed token
  /-- The octets are those of no text. -/
  | noText {octets : List UInt8} : Spells token.toList octets →
      (∀ text, Utf8.octets text ≠ octets) → Malformed token

/-- A page token names the key of which it was made. -/
@[simp] theorem decode_encode (key : String) : decode (encode key) = .ok key := by
  rw [decode, encode, Text.Base64Url.decodeText_encode]

theorem decode_eq_ok_iff_spells {token key : String} :
    decode token = .ok key ↔ Spells token.toList (Utf8.octets key) := by
  have read : Text.Base64Url.decodeText token = some key ↔ Spells token.toList (Utf8.octets key) := by
    rw [Text.Base64Url.decodeText, Option.bind_eq_some_iff]
    constructor
    · rintro ⟨octets, decoded, read⟩
      rw [Text.Utf8.read?_eq_some_iff.mp read]
      exact Text.Base64Url.decodeOctets_eq_some_iff.mp decoded
    · intro spells
      exact ⟨_, Text.Base64Url.decodeOctets_eq_some_iff.mpr spells, Text.Utf8.read?_octets key⟩
  rw [← read, decode]
  cases Text.Base64Url.decodeText token with
  | none => simp
  | some found => simp

/-- A key is read from its own token only. -/
theorem decode_eq_ok_iff {token key : String} : decode token = .ok key ↔ encode key = token := by
  rw [decode_eq_ok_iff_spells, ← Text.Base64Url.encodeOctets_eq_iff, encode, Text.Base64Url.encode,
    ← String.toList_inj, String.toList_ofList]

/-- A token that names no key is refused as invalid. -/
theorem decode_eq_error_iff {token : String} :
    decode token = .error (.invalidInput "Malformed page token") ↔
      ∀ key, ¬ Spells token.toList (Utf8.octets key) := by
  have outcomes : (∃ key, decode token = .ok key) ∨
      decode token = .error (.invalidInput "Malformed page token") := by
    rw [decode]
    split
    case h_1 key _ => exact .inl ⟨key, rfl⟩
    case h_2 => exact .inr rfl
  constructor
  · intro refused key spells
    rw [decode_eq_ok_iff_spells.mpr spells] at refused
    cases refused
  · intro spells
    rcases outcomes with ⟨key, accepted⟩ | refused
    · exact absurd (decode_eq_ok_iff_spells.mp accepted) (spells key)
    · exact refused

/-! ## Faults -/

variable {token : String} {numbers : List Nat} {octets : List UInt8} {spare : List Bool}

/-- Digits have six bits each, all of which are in octets or behind them. -/
theorem length_of_digits (digits : Digits token.toList numbers)
    (cut : row 6 numbers = row 8 (octets.map UInt8.toNat) ++ spare) :
    6 * token.toList.length = 8 * octets.length + spare.length := by
  have count := congrArg List.length digits
  have size := congrArg List.length cut
  rw [List.length_map, List.length_map] at count
  rw [List.length_append, Text.Base64Url.length_row, Text.Base64Url.length_row, List.length_map,
    ← count] at size
  exact size

/-- A token with a fault does not spell the octets of a text. -/
theorem Malformed.not_spells (malformed : Malformed token) (key : String) :
    ¬ Spells token.toList (Utf8.octets key) := by
  intro spells
  cases malformed with
  | foreign member other => exact other (spells.mem_alphabet _ member)
  | incomplete single =>
      rcases spells with ⟨numbers, zeros, digits, few, same⟩
      have size := length_of_digits digits same
      rw [List.length_replicate] at size
      omega
  | @unused numbers octets left digits cut short filled =>
      rcases spells with ⟨numbers', zeros, digits', few, same⟩
      rw [← digits.right_unique digits', cut] at same
      have short' : (List.replicate zeros false).length < 8 := by
        rw [List.length_replicate]
        omega
      have ends := (Text.Base64Url.row_append_inj (Text.Base64Url.map_toNat_lt octets)
        (Text.Base64Url.map_toNat_lt _) (Nat.lt_trans short (by decide)) short' same).2
      rw [ends, List.mem_replicate] at filled
      exact Bool.noConfusion filled.2
  | @noText octets spelled none => exact none key (spells.right_unique spelled)

/-- A token that names no key has a fault. -/
theorem malformed_of_not_spells (nameless : ∀ key, ¬ Spells token.toList (Utf8.octets key)) :
    Malformed token := by
  by_cases members : ∀ c ∈ token.toList, c ∈ alphabet
  case neg =>
    simp only [Classical.not_forall] at members
    rcases members with ⟨c, member, other⟩
    exact .foreign member other
  rcases Text.Base64Url.exists_digits members with ⟨numbers, digits⟩
  rcases Text.Base64Url.exists_octets (row 6 numbers) with ⟨octets, spare, few, cut⟩
  have size := length_of_digits digits cut
  by_cases six : spare.length < 6
  case neg => exact .incomplete (by omega)
  by_cases filled : true ∈ spare
  case pos => exact .unused digits cut six filled
  have zeros : spare = List.replicate spare.length false := by
    refine List.eq_replicate_iff.mpr ⟨rfl, fun bit member => ?_⟩
    cases bit with
    | false => rfl
    | true => exact absurd member filled
  have spells : Spells token.toList octets := ⟨numbers, spare.length, digits, six, zeros ▸ cut⟩
  refine .noText spells fun text same => nameless text ?_
  rw [same]
  exact spells

theorem decode_eq_error_iff_malformed {token : String} :
    decode token = .error (.invalidInput "Malformed page token") ↔ Malformed token :=
  decode_eq_error_iff.trans ⟨malformed_of_not_spells, Malformed.not_spells⟩

/-- Padding is a fault. -/
theorem malformed_of_padding (padded : '=' ∈ token.toList) : Malformed token :=
  .foreign padded (by decide)

/-- Keys and accepted tokens go together in pairs, and every other token is refused for a fault. -/
theorem tokens_pair_with_keys :
    (∀ key, decode (encode key) = .ok key) ∧
      (∀ token key, decode token = .ok key → encode key = token) ∧
      (∀ first second key, decode first = .ok key → decode second = .ok key → first = second) ∧
      (∀ token, decode token = .error (.invalidInput "Malformed page token") ↔ Malformed token) ∧
      ∀ token, '=' ∈ token.toList →
        decode token = .error (.invalidInput "Malformed page token") := by
  refine ⟨decode_encode, fun token key => decode_eq_ok_iff.mp, ?_,
    fun token => decode_eq_error_iff_malformed,
    fun token padded => decode_eq_error_iff_malformed.mpr (malformed_of_padding padded)⟩
  intro first second key isFirst isSecond
  rw [← decode_eq_ok_iff.mp isFirst, decode_eq_ok_iff.mp isSecond]

/-- The token of a BPN is the only one that names it: neither padding nor the unused bits of the
last digit may be added, and octets that are no text name nothing. -/
theorem tokens_pair_with_bpns :
    decode "QlBOTDAwMDAwMDAwMDAwNw" = .ok "BPNL000000000007" ∧
      encode "BPNL000000000007" = "QlBOTDAwMDAwMDAwMDAwNw" ∧
      (∀ second, decode second = .ok "BPNL000000000007" → "QlBOTDAwMDAwMDAwMDAwNw" = second) ∧
      Malformed "QlBOTDAwMDAwMDAwMDAwNx" ∧ Malformed "wIA" ∧
      decode "QlBOTDAwMDAwMDAwMDAwNw==" = .error (.invalidInput "Malformed page token") := by
  have named : Text.Base64Url.decodeText "QlBOTDAwMDAwMDAwMDAwNw" = some "BPNL000000000007" := by
    decide +kernel
  have unusedBits : Text.Base64Url.decodeText "QlBOTDAwMDAwMDAwMDAwNx" = none := by decide +kernel
  have overlong : Text.Base64Url.decodeText "wIA" = none := by decide +kernel
  have accepted : decode "QlBOTDAwMDAwMDAwMDAwNw" = .ok "BPNL000000000007" := by rw [decode, named]
  rcases tokens_pair_with_keys with ⟨_, back, unique, refused, padded⟩
  refine ⟨accepted, back _ _ accepted, fun second => unique _ second _ accepted, ?_, ?_, ?_⟩
  · exact (refused _).mp (by rw [decode, unusedBits])
  · exact (refused _).mp (by rw [decode, overlong])
  · exact padded _ (by decide)

end PageToken
end BpnDirectory
