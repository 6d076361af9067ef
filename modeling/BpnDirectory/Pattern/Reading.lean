import BpnDirectory.Pattern.Bracket
import BpnDirectory.Text.Alphanumeric

namespace BpnDirectory
namespace Pattern

/-!
Reading of regular expressions.

The reader goes over an expression from the left.  Groups that are not closed yet are
kept with what stood in them so far, the innermost first, and the expression as a
whole counts as a group that its end closes.
-/

/-- The settings that letters stand for, with the sign behind them and what follows.
No flag is given twice, and something follows the hyphen that turns flags off. -/
def settings? (negated dangling : Bool) (given : Settings) :
    List Char → Option (Settings × Char × List Char)
  | [] => none
  | c :: rest =>
    if c = ':' || c = ')' then if dangling then none else some (given, c, rest)
    else if c = '-' then if negated then none else settings? true true given rest
    else
      match Flag.ofChar? c with
      | none => none
      | some flag =>
        if (given.lookup flag).isSome then none
        else settings? negated false (given ++ [(flag, !negated)]) rest

def isGroupName : List Char → Bool
  | [] => false
  | c :: rest =>
    (c == '_' || Text.isAlphabetic c) &&
      rest.all fun c => "_.[]".toList.contains c || Text.isAlphanumeric c

inductive Opening where
  /-- Settings for what follows in the same group. -/
  | switch (settings : Settings)
  /-- A group with settings of its own, and the name if it has one. -/
  | group (settings : Settings) (name : Option (List Char))

/-- What the parenthesis before some characters opens, and what follows.  Looking
ahead and behind is not known. -/
def opening? (loose : Bool) (cs : List Char) : Option (Opening × List Char) :=
  let named (rest : List Char) : Option (Opening × List Char) :=
    match Text.cut? '>' rest with
    | some (name, later) =>
      if isGroupName name then some (.group [] (some name), later) else none
    | none => none
  match skip loose cs with
  | '?' :: '=' :: _ | '?' :: '!' :: _ | '?' :: '<' :: '=' :: _ | '?' :: '<' :: '!' :: _ => none
  | '?' :: 'P' :: '<' :: rest | '?' :: '<' :: rest => named rest
  | '?' :: rest =>
    match settings? false false [] rest with
    | some (settings, ':', later) => some (.group settings none, later)
    | some (settings, _, later) =>
      if settings.isEmpty then none else some (.switch settings, later)
    | none => none
  | cs => some (.group [] none, cs)

/-- Greatest number in the count of a repetition. -/
def greatestCount : Nat := 0xffffffff

/-- A number in the count of a repetition, and what follows it. -/
def countNumber? (loose : Bool) (cs : List Char) : Option (Nat × List Char) :=
  let (digits, later) := takeAll loose Char.isDigit (cs.dropWhile Text.isBlank)
  match Text.digits? digits with
  | some number =>
    if number ≤ greatestCount then some (number, later.dropWhile Text.isBlank) else none
  | none => none

/-- The count of a repetition in braces, behind the opening one, and what follows. -/
def count? (loose : Bool) (cs : List Char) : Option (Count × List Char) := do
  let (least, cs) ← countNumber? loose (skip loose cs)
  let (greatest, cs) ←
    match cs with
    | ',' :: rest =>
      match skip loose rest with
      | '\x7d' :: later => some (none, '\x7d' :: later)
      | rest => (countNumber? loose rest).map fun found => (some found.1, found.2)
    | cs => some (some least, cs)
  match cs with
  | '\x7d' :: later =>
    if greatest.all (least ≤ ·) then some (⟨least, greatest⟩, skip loose later) else none
  | _ => none

/-- What follows the sign that makes a repetition match as little as possible. -/
def dropLazy : List Char → List Char
  | '?' :: rest => rest
  | cs => cs

/-- A group that is not closed yet. -/
structure OpenGroup where
  settings : Settings
  /-- Whether the notation was loose before it. -/
  loose : Bool
  /-- The alternatives before this one, the last one first. -/
  choices : List Pattern
  /-- The parts of this alternative, the last one first. -/
  reversed : List Pattern

namespace OpenGroup

def body (group : OpenGroup) : Pattern :=
  let last := ofItems group.reversed.reverse
  match group.choices with
  | [] => last
  | choices => .choice (last :: choices).reverse

def add (group : OpenGroup) (item : Pattern) : OpenGroup :=
  { group with reversed := item :: group.reversed }

/-- A group with one more alternative begun. -/
def branch (group : OpenGroup) : OpenGroup :=
  { group with choices := ofItems group.reversed.reverse :: group.choices, reversed := [] }

/-- A group whose last part is repeated, if it can be. -/
def repeatLast? (group : OpenGroup) (count : Count) : Option OpenGroup :=
  match group.reversed with
  | item :: earlier =>
    if item.isRepeatable then some { group with reversed := .repeated count item :: earlier }
    else none
  | [] => none

end OpenGroup

/-- What the reader knows. -/
structure Reader where
  /-- Whether the notation is loose here. -/
  loose : Bool
  /-- The names of groups so far. -/
  names : List (List Char)
  group : OpenGroup
  /-- The groups around it. -/
  outer : List OpenGroup

namespace Reader

def start : Reader := ⟨false, [], ⟨[], false, [], []⟩, []⟩

def add (reader : Reader) (item : Pattern) : Reader :=
  { reader with group := reader.group.add item }

/-- The reader behind a parenthesis.  No two groups have one name. -/
def opened? (reader : Reader) : Opening → Option Reader
  | .switch settings =>
    some { reader.add (.switch settings) with loose := settings.value .loose reader.loose }
  | .group settings name =>
    if name.any reader.names.contains then none
    else some
      { loose := settings.value .loose reader.loose
        names := name.toList ++ reader.names
        group := ⟨settings, reader.loose, [], []⟩
        outer := reader.group :: reader.outer }

/-- The reader behind the parenthesis that closes a group. -/
def closed? (reader : Reader) : Option Reader :=
  match reader.outer with
  | [] => none
  | parent :: outer =>
    some { reader with
      loose := reader.group.loose
      group := parent.add (.group reader.group.settings reader.group.body)
      outer }

def repeated? (reader : Reader) (count : Count) : Option Reader :=
  (reader.group.repeatLast? count).map fun group => { reader with group }

/-- The reader behind what a character begins, and what follows that. -/
def step? (reader : Reader) (c : Char) (rest : List Char) : Option (Reader × List Char) :=
  let repeatedBy (least : Nat) (greatest : Option Nat) : Option (Reader × List Char) :=
    (reader.repeated? ⟨least, greatest⟩).map fun reader => (reader, dropLazy rest)
  match c with
  | '(' => do
    let (opening, later) ← opening? reader.loose rest
    return (← reader.opened? opening, later)
  | ')' => reader.closed?.map fun reader => (reader, rest)
  | '|' => some ({ reader with group := reader.group.branch }, rest)
  | '[' => do
    let (inner, later) ← openBracket? reader.loose rest
    let (item, later) ← bracket? reader.loose inner [] later
    return (reader.add item, later)
  | '?' => repeatedBy 0 (some 1)
  | '*' => repeatedBy 0 none
  | '+' => repeatedBy 1 none
  | '\x7b' => do
    let (count, later) ← count? reader.loose rest
    return (← reader.repeated? count, dropLazy later)
  | '.' => some (reader.add .any, rest)
  | '^' | '$' => some (reader.add (.place false), rest)
  | '\\' =>
    (escape? reader.loose rest).map fun found =>
      match found.1 with
      | .literal written => (reader.add (.literal written), found.2)
      | .shorthand negated => (reader.add (.shorthand negated), found.2)
      | .place word => (reader.add (.place word), found.2)
  | c => some (reader.add (.literal ⟨c, false⟩), rest)

def run (reader : Reader) (cs : List Char) : Option Reader :=
  match skip reader.loose cs with
  | [] => some reader
  | c :: rest =>
    match reader.step? c rest with
    | some (reader, later) => if later.length < cs.length then reader.run later else none
    | none => none
termination_by cs.length

end Reader

def ofChars? (cs : List Char) : Option Pattern :=
  match Reader.start.run cs with
  | some reader => if reader.outer.isEmpty then some reader.group.body else none
  | none => none

end Pattern
end BpnDirectory
