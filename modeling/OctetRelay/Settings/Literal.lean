/-
# Values written as text

A variable of the environment gives its value as text, and the text decides the
kind of the value.

| text | value |
| --- | --- |
| `true`, `false` | a flag |
| `[a, b]` | a list; a comma may follow the last item |
| `{k = v, "l" = w}` | a dictionary |
| `"…"`, `'c'` | a text, with escapes between double quotes |
| anything else up to `,`, `[`, `]`, `{` or `}` | a number if it reads as one, else a text |

A text that does not follow this grammar to its end is a text as it stands.

Source: the values of variables in `from_layers`; `SPEC_FULL.md` 11, the merged
sources.
-/

import OctetRelay.Settings.Value

namespace OctetRelay
namespace Literal

/-- The blank characters between the parts of a literal, which are ASCII ones. -/
def isGap (c : Char) : Bool :=
  c = ' ' || c = '\t' || c = '\n' || c = '\x0c' || c = '\r'

/-- Whether a character ends an unquoted value. -/
def isSeparator (c : Char) : Bool :=
  c = ',' || c = '\x7b' || c = '\x7d' || c = '[' || c = ']'

/-- Whether a character may stand in an unquoted key. -/
def isKeyChar (c : Char) : Bool :=
  c.isAlphanum || c = '_' || c = '-'

/-- A text without the gap at its start. -/
def skipGap (text : List Char) : List Char := text.dropWhile isGap

/-- The value of a hexadecimal digit. -/
def hexValue? (c : Char) : Option Nat :=
  if '0' ≤ c ∧ c ≤ '9' then some (c.toNat - 48)
  else if 'A' ≤ c ∧ c ≤ 'F' then some (c.toNat - 55)
  else if 'a' ≤ c ∧ c ≤ 'f' then some (c.toNat - 87)
  else none

/-- The code point that hexadecimal digits spell. -/
def codePoint? (digits : List Char) : Option Char := do
  let values ← digits.mapM hexValue?
  let n := values.foldl (fun sum d => 16 * sum + d) 0
  if n.isValidChar then some (Char.ofNat n) else none

/-- Whether a character may not stand between double quotes: a control other than the tab. -/
def isForbidden (c : Char) : Bool := c = '\x7f' || (c < ' ' && c ≠ '\t')

/-- Reads the rest of a text from its first escape up to its closing quote: the characters it stands
for and what follows it. -/
def readEscaped : List Char → Option (List Char × List Char)
  | [] => none
  | '"' :: rest => some ([], rest)
  | '\\' :: 'u' :: a :: b :: c :: d :: rest => do
    let point ← codePoint? [a, b, c, d]
    let (text, rest) ← readEscaped rest
    pure (point :: text, rest)
  | '\\' :: 'U' :: a :: b :: c :: d :: e :: f :: g :: h :: rest => do
    let point ← codePoint? [a, b, c, d, e, f, g, h]
    let (text, rest) ← readEscaped rest
    pure (point :: text, rest)
  | '\\' :: name :: rest => do
    let c ← match name with
      | '"' => some '"'
      | '\\' => some '\\'
      | 'b' => some '\x08'
      | 'f' => some '\x0c'
      | 'n' => some '\n'
      | 'r' => some '\r'
      | 't' => some '\t'
      | _ => none
    let (text, rest) ← readEscaped rest
    pure (c :: text, rest)
  | c :: rest =>
    if c = '\\' ∨ isForbidden c then none
    else do
      let (text, rest) ← readEscaped rest
      pure (c :: text, rest)

/-- The characters at the start of a text that fit into a number of octets. -/
def octetPrefix : Nat → List Char → List Char
  | _, [] => []
  | room, c :: rest =>
    if c.utf8Size ≤ room then c :: octetPrefix (room - c.utf8Size) rest else []

/-- A text of one octet a character fits as it is. -/
theorem octetPrefix_of_ascii {text : List Char} (h : ∀ c ∈ text, c.utf8Size = 1) :
    octetPrefix text.length text = text := by
  induction text with
  | nil => rfl
  | cons c rest ih =>
    have hc : c.utf8Size = 1 := h c (by simp)
    have hr : octetPrefix rest.length rest = rest := ih fun d hd => h d (by simp [hd])
    simp [octetPrefix, hc, hr]

/-- Reads a text up to its closing quote: the characters it stands for and what follows it.  Of the
characters before its first escape there remain as many as fit into one octet for each of them. -/
def readQuoted (text : List Char) : Option (List Char × List Char) :=
  let plain := text.takeWhile fun c => c ≠ '"' && c ≠ '\\'
  match text.drop plain.length with
  | '\\' :: rest =>
    if plain.any isForbidden then none
    else
      (readEscaped ('\\' :: rest)).map fun (escaped, rest) =>
        (octetPrefix plain.length plain ++ escaped, rest)
  | _ => readEscaped text

/-- What an unquoted text stands for. -/
def bare (text : List Char) : Scalar :=
  let fraction := if text.contains '.' then Binary64.ofText? text else none
  match fraction with
  | some number => .binary number
  | none =>
    match Text.readInteger .unsigned64 text with
    | .ok number => .unsigned (.ofNat number.toNat)
    | .error _ =>
      match Text.readInteger .signed64 text with
      | .ok number => .signed (.ofInt number)
      | .error _ => .text (String.ofList text)

/-- What follows a given front of a text. -/
def after? : List Char → List Char → Option (List Char)
  | [], rest => some rest
  | _ :: _, [] => none
  | c :: front, d :: rest => if c = d then after? front rest else none

/-- A scalar from the environment. -/
def scalar (content : Scalar) : Value := .scalar .environment content

/-- A key and what follows it. -/
def readKey (text : List Char) : Option (String × List Char) :=
  match text with
  | '"' :: rest => (readQuoted rest).map fun (key, rest) => (String.ofList key, rest)
  | _ =>
    let key := text.takeWhile isKeyChar
    if key.isEmpty then none else some (String.ofList key, text.dropWhile isKeyChar)

mutual

/-- Reads a value and the gaps around it. -/
def readValue : Nat → List Char → Option (Value × List Char)
  | 0, _ => none
  | fuel + 1, text =>
    let text := skipGap text
    let read : Option (Value × List Char) :=
      match after? "true".toList text, after? "false".toList text with
      | some rest, _ => some (scalar (.flag true), rest)
      | none, some rest => some (scalar (.flag false), rest)
      | none, none =>
        match text with
        | '\x7b' :: rest =>
          (readEntries fuel [] rest).map fun (entries, rest) => (.dict .environment entries, rest)
        | '[' :: rest =>
          (readItems fuel rest).map fun (items, rest) => (.list .environment items, rest)
        | '"' :: rest =>
          (readQuoted rest).map fun (text, rest) => (scalar (.text (String.ofList text)), rest)
        | '\'' :: c :: '\'' :: rest => some (scalar (.text (String.singleton c)), rest)
        | '\'' :: _ => none
        | text =>
          let word := text.takeWhile (!isSeparator ·)
          some (scalar (bare (Text.trimChars word)), text.dropWhile (!isSeparator ·))
    read.map fun (value, rest) => (value, skipGap rest)

/-- Reads the items of a list up to its end. -/
def readItems : Nat → List Char → Option (List Value × List Char)
  | 0, _ => none
  | _ + 1, ']' :: rest => some ([], rest)
  | fuel + 1, text => do
    let (item, rest) ← readValue fuel text
    match rest with
    | ',' :: rest =>
      let (items, rest) ← readItems fuel rest
      pure (item :: items, rest)
    | ']' :: rest => pure ([item], rest)
    | _ => none

/-- Reads the entries of a dictionary up to its end, after those already read. -/
def readEntries : Nat → List (String × Value) → List Char
    → Option (List (String × Value) × List Char)
  | 0, _, _ => none
  | _ + 1, entries, '\x7d' :: rest => some (entries, rest)
  | fuel + 1, entries, text => do
    let (key, rest) ← readKey (skipGap text)
    let rest ← after? ['='] (skipGap rest)
    let (value, rest) ← readValue fuel rest
    let entries := Dictionary.insert key value entries
    match rest with
    | ',' :: rest => readEntries fuel entries rest
    | '\x7d' :: rest => pure (entries, rest)
    | _ => none

end

/-- The value of a text. -/
def parse (text : String) : Value :=
  match readValue (2 * text.length + 4) text.toList with
  | some (value, []) => value
  | _ => scalar (.text text)

end Literal
end OctetRelay
