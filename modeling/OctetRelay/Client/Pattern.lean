/-
# Patterns of topic names

A list of patterns is written with commas between them; a comma in a pattern is
written twice.  A pattern is an extended regular expression over octets.  Only
whether it is well-formed is decided here, since nothing is matched before a
broker was reached: an expression is read from the left, and the first fault on
the way counts.

Source: `SPEC_FULL.md` 11, the properties passed on verbatim; the patterns that
a client compiles when it is created.
-/

import OctetRelay.Octets

namespace OctetRelay
namespace Client
namespace Pattern

/-- The patterns of a list.  At the start of a pattern a comma stands for the character behind
it, and a list does not end with an empty pattern. -/
def split (isFirst : Bool) : List Char → List (List Char)
  | [] => [[]]
  | [c] => if c = ',' then [[]] else [[c]]
  | c :: next :: rest =>
    if c ≠ ',' then extend c (split false (next :: rest))
    else if isFirst ∨ next = ',' then extend next (split false rest)
    else [] :: split true (next :: rest)
where
  /-- Puts a character in front of the first pattern. -/
  extend (c : Char) : List (List Char) → List (List Char)
    | [] => [[c]]
    | pattern :: others => (c :: pattern) :: others

/-- What is wrong with a pattern. -/
inductive Fault where
  | malformed
  | openGroup
  | openBracket
  | openCount
  | count
  | largeCount
  | nothingToRepeat
  | range
  | trailingBackslash
  | reference
  | className
  | collation
  deriving DecidableEq, Repr

/-- The text of a fault. -/
def Fault.message : Fault → String
  | .malformed => "Invalid regular expression"
  | .openGroup => "Unmatched ( or \\("
  | .openBracket => "Unmatched [, [^, [:, [., or [="
  | .openCount => "Unmatched \\\x7b"
  | .count => "Invalid content of \\\x7b\\\x7d"
  | .largeCount => "Regular expression too big"
  | .nothingToRepeat => "Invalid preceding regular expression"
  | .range => "Invalid range end"
  | .trailingBackslash => "Trailing backslash"
  | .reference => "Invalid back reference"
  | .className => "Invalid character class name"
  | .collation => "Invalid collation character"

/-! ### Bracket expressions -/

/-- A part of a bracket expression: one octet, or a name between marks. -/
inductive Element where
  | single (octet : Nat)
  /-- A name between `[.` and `.]`. -/
  | symbol (name : List Char)
  /-- A name between `[=` and `=]`. -/
  | equivalence (name : List Char)
  /-- A name between `[:` and `:]`. -/
  | charClass (name : List Char)
  deriving DecidableEq, Repr

/-- The names of the classes. -/
def classNames : List String :=
  ["alnum", "cntrl", "lower", "space", "alpha", "digit", "print", "upper", "blank", "graph",
   "punct", "xdigit"]

namespace Element

/-- Reads a name up to its closing mark; it has less than 32 octets. -/
def readName? (mark : Char) : Nat → List Char → Option (List Char × List Char)
  | fuel + 1, c :: next :: rest =>
    if c = mark ∧ next = ']' then some ([], rest)
    else (readName? mark fuel (next :: rest)).map fun (name, rest) => (c :: name, rest)
  | _, _ => none

/-- Reads an element.  A hyphen is one where the expression starts or a range ends, and before
the closing bracket. -/
def read (isHyphenAllowed : Bool) : List Char → Except Fault (Element × List Char)
  | [] => .error .openBracket
  | '[' :: mark :: rest =>
    if mark = '.' ∨ mark = '=' ∨ mark = ':' then
      match readName? mark 32 rest with
      | none => .error .openBracket
      | some (name, rest) =>
        .ok (if mark = '.' then .symbol name else if mark = '=' then .equivalence name
          else .charClass name, rest)
    else .ok (.single '['.toNat, mark :: rest)
  | '-' :: rest =>
    if isHyphenAllowed || rest.head? = some ']' then .ok (.single '-'.toNat, rest)
    else .error .range
  | c :: rest => .ok (.single c.toNat, rest)

/-- Checks an element that is no bound of a range. -/
def check : Element → Except Fault Unit
  | .single _ => .ok ()
  | .symbol name | .equivalence name => if name.length = 1 then .ok () else .error .collation
  | .charClass name =>
    if classNames.contains (String.ofList name) then .ok () else .error .className

/-- Whether a range may have the element for a bound, as far as its kind goes. -/
def isBound : Element → Bool
  | .single _ | .symbol _ => true
  | .equivalence _ | .charClass _ => false

/-- The octet of a bound. -/
def octet? : Element → Option Nat
  | .single octet => some octet
  | .symbol [c] => some c.toNat
  | _ => none

/-- Checks the bounds of a range. -/
def checkRange (low high : Element) : Except Fault Unit :=
  if low.isBound && high.isBound then
    match low.octet?, high.octet? with
    | some first, some last => if first ≤ last then .ok () else .error .range
    | _, _ => .error .collation
  else .error .range

end Element

/-- Whether a hyphen follows that makes a range of what is around it. -/
def startsRange : List Char → Bool
  | '-' :: rest => rest.head? ≠ some ']'
  | _ => false

/-- Reads the elements of a bracket expression and its closing bracket: what follows it. -/
def readElements (isFirst : Bool) : Nat → List Char → Except Fault (List Char)
  | 0, _ => .error .openBracket
  | fuel + 1, text => do
    let (low, rest) ← Element.read isFirst text
    if low.isBound && startsRange rest then
      let (high, rest) ← Element.read true (rest.drop 1)
      Element.checkRange low high
      close fuel rest
    else
      if low.isBound && rest.isEmpty then throw .openBracket
      low.check
      close fuel rest
where
  /-- Ends the expression, or reads on. -/
  close (fuel : Nat) : List Char → Except Fault (List Char)
    | [] => .error .openBracket
    | ']' :: rest => .ok rest
    | rest => readElements false fuel rest

/-- Reads a bracket expression behind its opening bracket: what follows it. -/
def readBracket (text : List Char) : Except Fault (List Char) :=
  let elements := match text with
    | '^' :: rest => rest
    | _ => text
  if elements.isEmpty then .error .malformed else readElements true text.length elements

/-! ### Counts of repetitions -/

/-- The greatest count. -/
def mostRepetitions : Nat := 32767

/-- A number of a count: one, none, or something else. -/
inductive Bound where
  | missing
  | number (n : Nat)
  | malformed
  deriving DecidableEq, Repr

/-- Reads a number of a count up to a comma or the closing brace: the number, whether a comma
ended it, and what follows.  Behind a backslash a digit from one on is a reference, and any other
character is itself. -/
def readBound (bound : Bound) : List Char → Option (Bound × Bool × List Char)
  | [] => none
  | ['\\'] => readBound .malformed []
  | '\\' :: ',' :: rest => some (bound, true, rest)
  | '\\' :: c :: rest => readBound (if '1' ≤ c ∧ c ≤ '9' then .malformed else extend c) rest
  | '}' :: rest => some (bound, false, rest)
  | ',' :: rest => some (bound, true, rest)
  | c :: rest => readBound (extend c) rest
where
  /-- The number with one more digit. -/
  extend (c : Char) : Bound :=
    if c.isDigit then
      let digit := c.toNat - 48
      match bound with
      | .missing => .number digit
      | .number n => .number (min (mostRepetitions + 1) (10 * n + digit))
      | .malformed => .malformed
    else .malformed

/-- Checks the two numbers of a count: the first one is zero and the second one without bound
if it is missing. -/
def checkCount (low : Nat) : Bound → Except Fault Unit
  | .missing => if mostRepetitions < low then .error .largeCount else .ok ()
  | .number high =>
    if high < low then .error .count
    else if mostRepetitions < high then .error .largeCount
    else .ok ()
  | .malformed => .error .count

/-- Reads a count behind its opening brace: what follows it. -/
def readCount (text : List Char) : Except Fault (List Char) :=
  match readBound .missing text with
  | none => .error .openCount
  | some (.malformed, _, _) => .error .count
  | some (.missing, false, _) => .error .count
  | some (.number n, false, rest) => (checkCount n (.number n)).map fun _ => rest
  | some (low, true, rest) =>
    match readBound .missing rest with
    | none => .error .openCount
    | some (_, true, _) => .error .count
    | some (high, false, rest) =>
      (checkCount (match low with | .number n => n | _ => 0) high).map fun _ => rest

/-! ### Expressions -/

/-- A group that is still open: its number and the groups that could be referred to when its
alternatives started. -/
structure Group where
  number : Nat
  before : List Nat
  /-- The groups of the alternatives that are complete. -/
  gathered : List Nat

/-- How far an expression was read. -/
structure Progress where
  /-- The groups around, the innermost one first; the last one is the whole expression. -/
  groups : List Group := [⟨0, [], []⟩]
  /-- How many groups were opened. -/
  opened : Nat := 0
  /-- The groups that can be referred to. -/
  complete : List Nat := []
  /-- Whether something is there that can be repeated. -/
  isRepeatable : Bool := false

namespace Progress

/-- Opens a group. -/
def enter (progress : Progress) : Progress :=
  { progress with
    groups := ⟨progress.opened + 1, progress.complete, []⟩ :: progress.groups
    opened := progress.opened + 1
    isRepeatable := false }

/-- Starts another alternative. -/
def alternate (progress : Progress) : Progress :=
  match progress.groups with
  | [] => progress
  | group :: around =>
    { progress with
      groups := { group with gathered := progress.complete ++ group.gathered } :: around
      complete := group.before
      isRepeatable := false }

/-- Closes the innermost group; around the whole expression a parenthesis is a character. -/
def leave (progress : Progress) : Progress :=
  match progress.groups with
  | group :: next :: around =>
    { progress with
      groups := next :: around
      complete := group.number :: progress.complete ++ group.gathered
      isRepeatable := true }
  | _ => { progress with isRepeatable := true }

/-- Reads one octet or bracket expression that can be repeated. -/
def item (progress : Progress) : Progress := { progress with isRepeatable := true }

/-- Reads what stands for a place in a text and cannot be repeated. -/
def place (progress : Progress) : Progress := { progress with isRepeatable := false }

/-- Reads a character behind a backslash. -/
def escaped (progress : Progress) (c : Char) : Except Fault Progress :=
  if '1' ≤ c ∧ c ≤ '9' then
    if progress.complete.contains (c.toNat - 48) then .ok progress.item else .error .reference
  else if ['<', '>', 'b', 'B', '\x60', '\x27'].contains c then .ok progress.place
  else .ok progress.item

/-- Reads the next part of an expression: how far it is read then, and what follows. -/
def step (progress : Progress) (c : Char) (rest : List Char) :
    Except Fault (Progress × List Char) :=
  if c = '\\' then
    match rest with
    | [] => .error .trailingBackslash
    | next :: rest => (progress.escaped next).map fun progress => (progress, rest)
  else if c = '*' ∨ c = '+' ∨ c = '?' then
    if progress.isRepeatable then .ok (progress, rest) else .error .nothingToRepeat
  else if c = '\x7b' then
    if progress.isRepeatable then (readCount rest).map fun rest => (progress, rest)
    else .error .nothingToRepeat
  else if c = '[' then (readBracket rest).map fun rest => (progress.item, rest)
  else if c = '(' then .ok (progress.enter, rest)
  else if c = ')' then .ok (progress.leave, rest)
  else if c = '|' then .ok (progress.alternate, rest)
  else if c = '^' ∨ c = '$' then .ok (progress.place, rest)
  else .ok (progress.item, rest)

/-- Reads an expression to its end. -/
def run : Nat → Progress → List Char → Except Fault Unit
  | 0, _, _ => .ok ()
  | _, progress, [] => if progress.groups.length = 1 then .ok () else .error .openGroup
  | fuel + 1, progress, c :: rest => do
    let (progress, rest) ← progress.step c rest
    run fuel progress rest

end Progress

/-- The octets of a text as characters. -/
def octets (text : List Char) : List Char :=
  (String.ofList text).toUTF8.toList.map fun octet => Char.ofNat octet.toNat

/-- Checks a pattern. -/
def check (pattern : List Char) : Except Fault Unit :=
  let expression := octets pattern
  Progress.run (expression.length + 1) {} expression

/-- The first pattern of a list that is not well-formed, with its fault. -/
def firstFault? (list : String) : Option (String × Fault) :=
  (split true list.toList).findSome? fun pattern =>
    match check pattern with
    | .ok () => none
    | .error fault => some (String.ofList pattern, fault)

end Pattern
end Client
end OctetRelay
