import BpnDirectory.Text.Parts

namespace BpnDirectory
namespace Text

/-!
Cutting texts at separators.

A text can be cut at its first separators or at its last ones.  The two ways meet
where the outer parts cannot hold a separator.
-/

theorem parts_eq_splitOn (separator : Char) (cs : List Char) :
    parts separator cs = cs.splitOn separator := by
  induction cs with
  | nil => rfl
  | cons c rest ih =>
      rw [List.splitOn_cons_eq_if_modifyHead, parts, ih]
      by_cases same : c = separator
      · simp [same]
      · rw [if_neg same, if_neg (by simpa using same)]
        cases found : rest.splitOn separator with
        | nil => exact absurd found (List.splitOn_ne_nil separator rest)
        | cons part later => rfl

theorem parts_append {separator : Char} {front : List Char} (inside : separator ∉ front)
    (rest : List Char) : parts separator (front ++ separator :: rest) =
      front :: parts separator rest := by
  rw [parts_eq_splitOn, parts_eq_splitOn, List.splitOn_append_cons_self_of_not_mem inside]

theorem parts_of_not_mem {separator : Char} {cs : List Char} (inside : separator ∉ cs) :
    parts separator cs = [cs] := by
  rw [parts_eq_splitOn, List.splitOn_eq_singleton inside]

theorem cut?_eq_some_iff {separator : Char} {cs before after : List Char} :
    cut? separator cs = some (before, after) ↔
      cs = before ++ separator :: after ∧ separator ∉ before := by
  induction cs generalizing before with
  | nil => simp [cut?]
  | cons c rest ih =>
      rw [cut?]
      by_cases same : c = separator
      · subst same
        rw [if_pos rfl]
        cases before with
        | nil => simp
        | cons first others => simp; grind
      · rw [if_neg same, Option.map_eq_some_iff]
        cases before with
        | nil => simp [same]
        | cons first others =>
            simp only [Prod.exists, Prod.mk.injEq, List.cons.injEq, List.cons_append,
              List.mem_cons, not_or]
            grind

theorem cutLast?_eq_some_iff {separator : Char} {cs before after : List Char} :
    cutLast? separator cs = some (before, after) ↔
      cs = before ++ separator :: after ∧ separator ∉ after := by
  have turned : cs.reverse = after.reverse ++ separator :: before.reverse ↔
      cs = before ++ separator :: after := by
    rw [List.reverse_eq_iff]
    simp
  rw [cutLast?, Option.map_eq_some_iff]
  constructor
  · rintro ⟨⟨behind, front⟩, cut, same⟩
    cases same
    rcases cut?_eq_some_iff.mp cut with ⟨whole, inside⟩
    exact ⟨by simpa using congrArg List.reverse whole, by simpa using inside⟩
  · rintro ⟨whole, inside⟩
    exact ⟨(after.reverse, before.reverse),
      cut?_eq_some_iff.mpr ⟨turned.mpr whole, by simpa using inside⟩, by simp⟩

end Text
end BpnDirectory
