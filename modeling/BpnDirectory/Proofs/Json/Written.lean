import BpnDirectory.Json.Reading
import BpnDirectory.Json.Writer
import BpnDirectory.Proofs.Collection.Outcome

namespace BpnDirectory
namespace Json

/-!
Strings and objects of strings read back as they were written.

A written string is taken in character by character: an escape is complete before the next character
begins, and what stands for itself neither ends the string nor starts an escape.  So the lexer has
one token for each string, whatever characters that has, and an object of strings is closed with
the members that it was written with, in their order.
-/

/-! ## Strings -/

theorem lexFrom_cons (mode : Mode) (tokens : List Token) (symbol : Symbol) (rest : List Symbol) :
    lexFrom mode tokens (symbol :: rest) =
      lexFrom (mode.step symbol).1 ((mode.step symbol).2.reverse ++ tokens) rest := rfl

theorem hexValue?_hexDigit {n : Nat} (bound : n < 16) :
    Text.hexValue? (hexDigit n) = some n := by
  have all : ∀ n < 16, Text.hexValue? (hexDigit n) = some n := by decide
  exact all n bound

theorem toNat_lt_of_control {c : Char} (control : c < ' ') : c.toNat < 32 :=
  UInt32.lt_iff_toNat_lt.mp (Char.lt_def.mp control)

/-- A control character stands for no half of a pair. -/
theorem Draft.unit_toNat {c : Char} (control : c < ' ') (draft : Draft) :
    draft.unit none c.toNat = .text (draft.push c) := by
  have small := toNat_lt_of_control control
  have notLead : Utf16.isLead c.toNat = false := by
    simp [Utf16.isLead]
    omega
  have notTrail : Utf16.isTrail c.toNat = false := by
    simp [Utf16.isTrail]
    omega
  rw [Draft.unit, notLead, notTrail, Char.ofNat_toNat]
  rfl

variable {tokens : List Token} {rest : List Symbol} {draft : Draft}

/-- The digit of a code unit that is not its last one. -/
theorem lexFrom_digit {n digits value : Nat} (bound : n < 16) (more : digits ≠ 3) :
    lexFrom (.code draft none digits value) tokens (some (hexDigit n) :: rest) =
      lexFrom (.code draft none (digits + 1) (value * 16 + n)) tokens rest := by
  rw [lexFrom_cons, Mode.step, Option.bind_some, hexValue?_hexDigit bound]
  dsimp only
  rw [if_neg more]
  rfl

theorem lexFrom_lastDigit {n value : Nat} (bound : n < 16) :
    lexFrom (.code draft none 3 value) tokens (some (hexDigit n) :: rest) =
      lexFrom (draft.unit none (value * 16 + n)) tokens rest := by
  rw [lexFrom_cons, Mode.step, Option.bind_some, hexValue?_hexDigit bound]
  rfl

/-- The written form of a character is taken in as this character. -/
theorem lexFrom_escapeChar (c : Char) (reversed : List Char) (tokens : List Token)
    (rest : List Symbol) :
    lexFrom (.text ⟨reversed, none⟩) tokens ((escapeChar c).map some ++ rest) =
      lexFrom (.text ⟨c :: reversed, none⟩) tokens rest := by
  unfold escapeChar
  split
  case h_8 quote backslash _ _ _ _ _ =>
    split
    case isTrue control =>
      have small := toNat_lt_of_control control
      have high : c.toNat / 16 < 16 := by omega
      have value : (((0 * 16 + 0) * 16 + 0) * 16 + c.toNat / 16) * 16 + c.toNat % 16 = c.toNat := by
        omega
      change lexFrom (.code ⟨reversed, none⟩ none 0 0) tokens (some (hexDigit 0) ::
        some (hexDigit 0) :: some (hexDigit (c.toNat / 16)) :: some (hexDigit (c.toNat % 16)) ::
        rest) = _
      rw [lexFrom_digit (by decide) (by decide), lexFrom_digit (by decide) (by decide),
        lexFrom_digit high (by decide), lexFrom_lastDigit (Nat.mod_lt _ (by decide)), value,
        Draft.unit_toNat control]
      rfl
    case isFalse plain =>
      have notQuote : c ≠ '"' := fun same => quote same
      have notBackslash : c ≠ '\\' := fun same => backslash same
      rw [List.map_singleton, List.singleton_append, lexFrom_cons, Mode.step, textStep,
        if_neg notQuote, if_neg notBackslash, if_neg plain]
      rfl
  all_goals rfl

theorem lexFrom_flatMap_escapeChar (cs reversed : List Char) (tokens : List Token)
    (rest : List Symbol) :
    lexFrom (.text ⟨reversed, none⟩) tokens ((cs.flatMap escapeChar).map some ++ rest) =
      lexFrom (.text ⟨cs.reverse ++ reversed, none⟩) tokens rest := by
  induction cs generalizing reversed with
  | nil => rfl
  | cons c others ih =>
      rw [List.flatMap_cons, List.map_append, List.append_assoc, lexFrom_escapeChar, ih,
        List.reverse_cons, List.append_assoc, List.singleton_append]

/-- A written string is one token. -/
theorem lexFrom_quote (text : String) (tokens : List Token) (rest : List Symbol) :
    lexFrom .between tokens ((quote text).map some ++ rest) =
      lexFrom .between (.string (.text text) :: tokens) rest := by
  have closed : lexFrom (.text ⟨text.toList.reverse ++ [], none⟩) tokens (some '"' :: rest) =
      lexFrom .between (.string (.text text) :: tokens) rest := by
    rw [lexFrom_cons, Mode.step, textStep, if_pos rfl, Draft.token, List.append_nil,
      List.reverse_reverse, String.ofList_toList]
    rfl
  rw [← closed, ← lexFrom_flatMap_escapeChar, quote, List.map_append, List.append_assoc]
  rfl

/-! ## Objects of strings -/

/-- The tokens of a member that stands behind another one. -/
def memberTokens (member : String × String) : List Token :=
  [.comma, .string (.text member.1), .colon, .string (.text member.2)]

/-- Members whose values are strings, to be written. -/
def stringMembers (members : List (String × String)) : List (String × Data) :=
  members.map fun member => (member.1, .string member.2)

/-- Members whose values are strings, as they stand in a text. -/
def textMembers (members : List (String × String)) : List (Option String × Value) :=
  members.map fun member => (some member.1, .string (.text member.2))

theorem lexFrom_comma (tokens : List Token) (rest : List Symbol) :
    lexFrom .between tokens (some ',' :: rest) = lexFrom .between (.comma :: tokens) rest := rfl

theorem lexFrom_colon (tokens : List Token) (rest : List Symbol) :
    lexFrom .between tokens (some ':' :: rest) = lexFrom .between (.colon :: tokens) rest := rfl

theorem lexFrom_arrayOpen (tokens : List Token) (rest : List Symbol) :
    lexFrom .between tokens (some '[' :: rest) = lexFrom .between (.arrayOpen :: tokens) rest := rfl

theorem lexFrom_objectOpen (tokens : List Token) (rest : List Symbol) :
    lexFrom .between tokens (some '\x7b' :: rest) =
      lexFrom .between (.objectOpen :: tokens) rest := rfl

theorem lexFrom_arrayClose (tokens : List Token) (rest : List Symbol) :
    lexFrom .between tokens (some ']' :: rest) = lexFrom .between (.arrayClose :: tokens) rest := rfl

theorem lexFrom_objectClose (tokens : List Token) (rest : List Symbol) :
    lexFrom .between tokens (some '\x7d' :: rest) =
      lexFrom .between (.objectClose :: tokens) rest := rfl

/-- A name and its value are two strings with a colon between them. -/
theorem lexFrom_member (name value : String) (tokens : List Token) (rest : List Symbol) :
    lexFrom .between tokens ((quote name ++ ':' :: quote value).map some ++ rest) =
      lexFrom .between (.string (.text value) :: .colon :: .string (.text name) :: tokens) rest := by
  rw [List.map_append, List.append_assoc, lexFrom_quote, List.map_cons, List.cons_append,
    lexFrom_colon, lexFrom_quote]

theorem lexFrom_writeMembers (members : List (String × String)) (tokens : List Token)
    (rest : List Symbol) :
    lexFrom .between tokens ((writeMembers (stringMembers members)).map some ++ rest) =
      lexFrom .between ((members.flatMap memberTokens).reverse ++ tokens) rest := by
  induction members generalizing tokens with
  | nil => rfl
  | cons member others ih =>
      have written : writeMembers (stringMembers (member :: others)) =
          ',' :: ((quote member.1 ++ ':' :: quote member.2) ++
            writeMembers (stringMembers others)) := by
        simp [stringMembers, writeMembers, write]
      rw [written, List.map_cons, List.cons_append, lexFrom_comma, List.map_append,
        List.append_assoc, lexFrom_member, ih, List.flatMap_cons, List.reverse_append,
        List.append_assoc]
      rfl

def objectTokens : List (String × String) → List Token
  | [] => [.objectOpen, .objectClose]
  | member :: others =>
    [.objectOpen, .string (.text member.1), .colon, .string (.text member.2)] ++
      others.flatMap memberTokens ++ [.objectClose]

theorem lex_write_fields (members : List (String × String)) :
    lex ((write (.fields (stringMembers members))).map some) = objectTokens members := by
  cases members with
  | nil => rfl
  | cons member others =>
      have written : write (.fields (stringMembers (member :: others))) =
          '\x7b' :: ((quote member.1 ++ ':' :: quote member.2) ++
            (writeMembers (stringMembers others) ++ ['\x7d'])) := by
        simp [stringMembers, write]
      have opened : ∀ symbols, lex (some '\x7b' :: symbols) =
          lexFrom .between [.objectOpen] symbols := fun _ => rfl
      have closed : ∀ tokens, lexFrom .between tokens (['\x7d'].map some) =
          (.objectClose :: tokens).reverse := fun _ => rfl
      rw [written, List.map_cons, opened, List.map_append, lexFrom_member, List.map_append,
        lexFrom_writeMembers, closed, objectTokens]
      simp

/-! ## Documents -/

theorem foldl_memberTokens (members : List (String × String))
    (read : List (Option String × Value)) :
    (members.flatMap memberTokens).foldl Progress.step (.reading [.object read none] .separator) =
      .reading [.object ((textMembers members).reverse ++ read) none] .separator := by
  induction members generalizing read with
  | nil => rfl
  | cons member others ih =>
      have one : (memberTokens member).foldl Progress.step
          (.reading [.object read none] .separator) =
            .reading [.object ((some member.1, .string (.text member.2)) :: read) none]
              .separator := rfl
      rw [List.flatMap_cons, List.foldl_append, one, ih]
      simp [textMembers]

/-- An object of strings is read with the members that it was written with, in their order, and
nothing stands behind it. -/
theorem ofTokens_objectTokens (members : List (String × String)) :
    Document.ofTokens (objectTokens members) = ⟨.object (textMembers members) true, false⟩ := by
  cases members with
  | nil => rfl
  | cons member others =>
      have first : [Token.objectOpen, .string (.text member.1), .colon,
            .string (.text member.2)].foldl Progress.step (.reading [] .item) =
          .reading [.object [(some member.1, .string (.text member.2))] none] .separator := rfl
      have last : ∀ read, [Token.objectClose].foldl Progress.step
          (.reading [.object read none] .separator) =
            .finished ⟨.object read.reverse true, false⟩ := fun _ => rfl
      rw [Document.ofTokens, objectTokens, List.foldl_append, List.foldl_append, first,
        foldl_memberTokens, last, List.reverse_append, List.reverse_reverse]
      rfl

/-- The members of an object of strings are the names with the texts that were written. -/
theorem members_textMembers (members : List (String × String)) :
    Value.members Value.text (.object (textMembers members) true) = .ok members := by
  induction members with
  | nil => rfl
  | cons member others ih =>
      rcases bind_eq_ok.mp ih with ⟨values, mapped, done⟩
      have same : values = others := Except.ok.inj done
      subst same
      refine bind_eq_ok.mpr ⟨member :: values, ?_, rfl⟩
      rw [textMembers, List.map_cons, ← textMembers, List.mapM_cons, mapped]
      rfl

end Json
end BpnDirectory
