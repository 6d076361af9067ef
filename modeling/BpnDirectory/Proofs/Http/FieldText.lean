import BpnDirectory.Http.Headers
import BpnDirectory.Proofs.Text.Utf8

namespace BpnDirectory

/-!
Texts as values of header fields.

The value of a field is a line of octets.  It is read as text only if all of its octets are
readable characters of ASCII, so a text comes through a header field exactly if it consists of
such characters.
-/

namespace Http

/-- Whether a character can be read in the value of a field: a tab, or one of ASCII that is no
control character. -/
def IsReadable (c : Char) : Prop := c = '\t' ∨ ' ' ≤ c ∧ c ≤ '~'

instance (c : Char) : Decidable (IsReadable c) :=
  inferInstanceAs (Decidable (c = '\t' ∨ ' ' ≤ c ∧ c ≤ '~'))

theorem isReadable_iff {c : Char} : IsReadable c ↔ c.toNat = 9 ∨ 32 ≤ c.toNat ∧ c.toNat ≤ 126 := by
  unfold IsReadable
  rw [← Char.toNat_inj, Char.le_def, Char.le_def, UInt32.le_iff_toNat_le, UInt32.le_iff_toNat_le]
  rfl

theorem isReadableOctet_iff {octet : UInt8} :
    isReadableOctet octet = true ↔ octet.toNat = 9 ∨ 32 ≤ octet.toNat ∧ octet.toNat ≤ 126 := by
  simp [isReadableOctet, ← UInt8.toNat_inj, UInt8.le_iff_toNat_le, UInt8.lt_iff_toNat_lt]
  omega

theorem all_encoded_iff (c : Char) :
    (String.utf8EncodeChar c).all isReadableOctet = true ↔ IsReadable c := by
  rw [isReadable_iff]
  rcases Text.Utf8.encoded_cases c with ⟨octet, encoded, same, _⟩ | ⟨beyond, _, others⟩
  · rw [encoded, List.all_cons, List.all_nil, Bool.and_true, isReadableOctet_iff, same]
  · obtain ⟨first, rest, encoded⟩ := List.exists_cons_of_ne_nil (@String.utf8EncodeChar_ne_nil c)
    have begins := others first (encoded ▸ List.mem_cons_self)
    rw [encoded, List.all_cons, Bool.and_eq_true, isReadableOctet_iff]
    omega

theorem map_encoded {c : Char} (readable : IsReadable c) :
    (String.utf8EncodeChar c).map (fun octet => Char.ofNat octet.toNat) = [c] := by
  rw [isReadable_iff] at readable
  rcases Text.Utf8.encoded_cases c with ⟨octet, encoded, same, _⟩ | ⟨beyond, _⟩
  · rw [encoded, List.map_singleton, same, Char.ofNat_toNat]
  · omega

theorem map_flatMap_encoded {cs : List Char} (readable : ∀ c ∈ cs, IsReadable c) :
    (cs.flatMap String.utf8EncodeChar).map (fun octet => Char.ofNat octet.toNat) = cs := by
  induction cs with
  | nil => rfl
  | cons c rest ih =>
      rw [List.flatMap_cons, List.map_append, map_encoded (readable c List.mem_cons_self),
        ih fun other member => readable other (List.mem_cons_of_mem c member)]
      rfl

/-- A text comes through the value of a field as it is, or not at all. -/
theorem fieldText?_octets_eq_some_iff {text read : String} :
    fieldText? (Text.Utf8.octets text) = some read ↔
      read = text ∧ ∀ c ∈ text.toList, IsReadable c := by
  obtain ⟨cs, rfl⟩ : ∃ cs, text = String.ofList cs := ⟨text.toList, String.ofList_toList.symm⟩
  have all : (cs.flatMap String.utf8EncodeChar).all isReadableOctet = true ↔
      ∀ c ∈ cs, IsReadable c := by
    rw [List.all_flatMap, List.all_eq_true]
    exact forall₂_congr fun c _ => all_encoded_iff c
  rw [fieldText?, Text.Utf8.octets_ofList, String.toList_ofList]
  by_cases readable : ∀ c ∈ cs, IsReadable c
  · rw [if_pos (all.mpr readable), map_flatMap_encoded readable, Option.some_inj]
    exact ⟨fun same => ⟨same.symm, readable⟩, fun found => found.1.symm⟩
  · rw [if_neg (mt all.mp readable)]
    exact ⟨nofun, fun found => absurd found.2 readable⟩

/-- Whatever is read from the value of a field is readable. -/
theorem isReadable_of_fieldText? {value : List UInt8} {read : String}
    (found : fieldText? value = some read) : ∀ c ∈ read.toList, IsReadable c := by
  unfold fieldText? at found
  split at found
  · next readable =>
      cases found
      intro c member
      rw [String.toList_ofList] at member
      rcases List.mem_map.mp member with ⟨octet, given, rfl⟩
      have bounds := isReadableOctet_iff.mp (List.all_eq_true.mp readable octet given)
      have valid : octet.toNat.isValidChar := Or.inl (by omega)
      have kept : (Char.ofNat octet.toNat).toNat = octet.toNat := by
        rw [Char.ofNat, dif_pos valid]
        rfl
      rw [isReadable_iff, kept]
      exact bounds
  · cases found

end Http
end BpnDirectory
