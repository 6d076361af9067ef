import BpnDirectory.Directory.Dump
import BpnDirectory.Proofs.Collection.OrderedMap
import BpnDirectory.Proofs.Json.Written
import BpnDirectory.Proofs.Text.Utf8

namespace BpnDirectory
namespace Dump

/-!
The dump of a directory says what the directory is.

The text of a dump is one object with a member for each entry, and nothing else.  Its names stand in
the order of their octets, which is the order of the map, and the reader of the service makes the
same map of it, so two directories never have the same dump.
-/

open Json (Document Value textMembers)
open Text (Utf8.octets)

theorem symbols_write (entries : OrderedMap String) :
    (write entries).toList.map some =
      (Json.write (.fields (Json.stringMembers entries.entries))).map some := by
  rw [write, Json.Data.toText, String.toList_ofList]
  rfl

/-- The text of a dump is one object with the entries as its members. -/
theorem ofText_write (entries : OrderedMap String) :
    Document.ofText (write entries) = ⟨.object (textMembers entries.entries) true, false⟩ := by
  rw [Document.ofText, symbols_write, Json.lex_write_fields, Json.ofTokens_objectTokens]

/-- The octets of a dump are read as its text is. -/
theorem ofOctets_octets_write (entries : OrderedMap String) :
    Document.ofOctets (Utf8.octets (write entries)) =
      ⟨.object (textMembers entries.entries) true, false⟩ := by
  rw [Document.ofOctets, Text.Utf8.read_octets, symbols_write, Json.lex_write_fields,
    Json.ofTokens_objectTokens]

def readMap (octets : List UInt8) : Json.Reading (OrderedMap String) :=
  ((Document.ofOctets octets).read (Value.members Value.text)).map OrderedMap.ofList

theorem readMap_octets_write (entries : OrderedMap String) :
    readMap (Utf8.octets (write entries)) = .ok entries := by
  have members : (Document.ofOctets (Utf8.octets (write entries))).read
      (Value.members Value.text) = .ok entries.entries := by
    rw [ofOctets_octets_write, Document.read, Json.members_textMembers]
    rfl
  rw [readMap, members, Except.map, OrderedMap.ofList_entries]

theorem octets_ascending (entries : OrderedMap String) :
    entries.entries.Pairwise fun first second => Utf8.octets first.1 < Utf8.octets second.1 :=
  entries.ascending.imp Text.Utf8.octets_lt

/-- A dump is one object and nothing else, its members are the entries of the directory in strictly
ascending order of the octets of their names, and it is read as the directory that it was made of.
So dumps of two directories are the same only if the directories are. -/
theorem dump_decodes (entries other : OrderedMap String) :
    Document.ofText (write entries) = ⟨.object (textMembers entries.entries) true, false⟩ ∧
      Document.ofOctets (Utf8.octets (write entries)) =
        ⟨.object (textMembers entries.entries) true, false⟩ ∧
      readMap (Utf8.octets (write entries)) = .ok entries ∧
      (entries.entries.Pairwise fun first second =>
        Utf8.octets first.1 < Utf8.octets second.1) ∧
      (write entries = write other ↔ entries = other) := by
  refine ⟨ofText_write entries, ofOctets_octets_write entries, readMap_octets_write entries,
    octets_ascending entries, ?_⟩
  constructor
  · intro same
    have read := readMap_octets_write entries
    rw [same, readMap_octets_write other] at read
    exact (Except.ok.inj read).symm
  · rintro rfl
    rfl

/-- A quote, a control character, a backslash and a character beyond the first plane, as they stand
in a dump. -/
example : write (.ofList [("b\"\x01", "\\"), ("a", "𝄞")]) =
    "\x7b\"a\":\"𝄞\",\"b\\\"\\u0001\":\"\\\\\"\x7d" := by
  decide +kernel

end Dump
end BpnDirectory
