import BpnDirectory.Text.Blank
import Mathlib.Data.List.DropRight

namespace BpnDirectory
namespace Text

/-!
Trimmed texts.

Trimming takes characters away at both ends until one that is not blank stands there, so it
leaves a text as it is exactly if its first and its last character are not blank.  A text that
was trimmed once stays as it is.
-/

/-- Whether neither the first character nor the last one is blank. -/
def IsTrimmed (cs : List Char) : Prop :=
  (∀ c ∈ cs.head?, isBlank c = false) ∧ ∀ c ∈ cs.getLast?, isBlank c = false

theorem dropWhile_isBlank_eq_self_iff {cs : List Char} :
    cs.dropWhile isBlank = cs ↔ ∀ c ∈ cs.head?, isBlank c = false := by
  cases cs with
  | nil => simp
  | cons c rest => simp [List.dropWhile_eq_self_iff]

theorem trimRight_eq_self_iff {cs : List Char} :
    trimRight cs = cs ↔ ∀ c ∈ cs.getLast?, isBlank c = false := by
  rw [trimRight, List.reverse_eq_iff, dropWhile_isBlank_eq_self_iff, List.head?_reverse]

theorem trimChars_eq_self {cs : List Char} (trimmed : IsTrimmed cs) : trimChars cs = cs := by
  rw [trimChars, dropWhile_isBlank_eq_self_iff.mpr trimmed.1, trimRight_eq_self_iff.mpr trimmed.2]

/-- What is left of a text after trimming is trimmed. -/
theorem isTrimmed_trimChars (cs : List Char) : IsTrimmed (trimChars cs) := by
  have front : ∀ c ∈ (cs.dropWhile isBlank).head?, isBlank c = false :=
    dropWhile_isBlank_eq_self_iff.mp (List.dropWhile_idempotent isBlank cs)
  have back : trimRight (trimChars cs) = trimChars cs := by
    rw [trimChars]
    exact List.rdropWhile_idempotent isBlank (cs.dropWhile isBlank)
  refine ⟨fun c first => front c ?_, trimRight_eq_self_iff.mp back⟩
  -- Whatever is left of a list from its front begins with the same element.
  have initial : trimChars cs <+: cs.dropWhile isBlank :=
    List.rdropWhile_prefix isBlank (cs.dropWhile isBlank)
  rcases initial with ⟨rest, whole⟩
  rw [← whole, List.head?_append, Option.mem_def.mp first]
  rfl

theorem trimChars_trimChars (cs : List Char) : trimChars (trimChars cs) = trimChars cs :=
  trimChars_eq_self (isTrimmed_trimChars cs)

theorem mem_of_mem_trimChars {c : Char} {cs : List Char} (member : c ∈ trimChars cs) : c ∈ cs := by
  have inFront : c ∈ cs.dropWhile isBlank := by
    rw [trimChars, trimRight, List.mem_reverse] at member
    exact List.mem_reverse.mp ((List.dropWhile_sublist isBlank).mem member)
  exact (List.dropWhile_sublist isBlank).mem inFront

theorem trim_trim (text : String) : trim (trim text) = trim text := by
  unfold trim
  rw [String.toList_ofList, trimChars_trimChars]

theorem mem_of_mem_trim {c : Char} {text : String} (member : c ∈ (trim text).toList) :
    c ∈ text.toList := by
  rw [trim, String.toList_ofList] at member
  exact mem_of_mem_trimChars member

end Text
end BpnDirectory
