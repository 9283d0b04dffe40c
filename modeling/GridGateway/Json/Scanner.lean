import GridGateway.Json.Number

/-!
# Reading drafts

A text is read from the front; whatever follows the place where it breaks is left alone. `Json.scan` gives the
draft of a whole text and tells whether only blanks follow it.
-/

namespace GridGateway.Json

/-- A blank between the tokens of a document. -/
def isGap (c : Char) : Bool := c = ' ' || c = '\n' || c = '\t' || c = '\r'

/-- The text without the blanks in front. -/
def skipGaps (cs : List Char) : List Char := cs.dropWhile isGap

/-- The value of a hexadecimal digit of either case. -/
def hexDigitValue? (c : Char) : Option Nat :=
  if '0' ≤ c ∧ c ≤ '9' then some (c.toNat - 0x30)
  else if 'a' ≤ c ∧ c ≤ 'f' then some (c.toNat - 0x57)
  else if 'A' ≤ c ∧ c ≤ 'F' then some (c.toNat - 0x37)
  else none

/-- The number written with four hexadecimal digits. -/
def hex4? (a b c d : Char) : Option Nat := do
  let a ← hexDigitValue? a
  let b ← hexDigitValue? b
  let c ← hexDigitValue? c
  let d ← hexDigitValue? d
  return ((a * 16 + b) * 16 + c) * 16 + d

/-- The character of a short escape. -/
def shortEscape? (c : Char) : Option Char :=
  if c = '"' ∨ c = '\\' ∨ c = '/' then some c
  else if c = 'b' then some '\x08'
  else if c = 'f' then some '\x0c'
  else if c = 'n' then some '\n'
  else if c = 'r' then some '\r'
  else if c = 't' then some '\t'
  else none

/-- Whether a 16-bit unit is the first half of a surrogate pair. -/
def isHighSurrogate (u : Nat) : Bool := 0xd800 ≤ u && u < 0xdc00

/-- Whether a 16-bit unit is the second half of a surrogate pair. -/
def isLowSurrogate (u : Nat) : Bool := 0xdc00 ≤ u && u < 0xe000

/-- The character of a surrogate pair. -/
def ofSurrogates (high low : Nat) : Char := Char.ofNat (0x10000 + (high - 0xd800) * 0x400 + (low - 0xdc00))

/-- The characters of a string so far, the last one first; nothing once half of a surrogate pair has stood
alone. -/
abbrev Seen := Option (List Char)

/-- What has been seen once the escape in front, if it is the first half `high` of a pair, stays without its
second half. -/
def Seen.close (seen : Seen) (high : Option Nat) : Seen := if high.isSome then none else seen

/-- Reads the rest of a string after its opening quote, where `high` is the first half of a surrogate pair when
the escape just read was one. -/
def scanString (seen : Seen) (high : Option Nat) : List Char → Option (Draft × List Char)
  | [] => none
  | '"' :: rest =>
    match seen.close high with
    | some cs => some (.str (String.ofList cs.reverse), rest)
    | none => some (.loneSurrogate, rest)
  | '\\' :: 'u' :: a :: b :: c :: d :: rest =>
    match hex4? a b c d with
    | none => none
    | some u =>
      if isHighSurrogate u then scanString (seen.close high) (some u) rest
      else if isLowSurrogate u then
        match high with
        | some h => scanString (seen.map (ofSurrogates h u :: ·)) none rest
        | none => scanString none none rest
      else scanString ((seen.close high).map (Char.ofNat u :: ·)) none rest
  | '\\' :: c :: rest =>
    match shortEscape? c with
    | some e => scanString ((seen.close high).map (e :: ·)) none rest
    | none => none
  | c :: rest =>
    if c.toNat < 0x20 ∨ c = '\\' then none else scanString ((seen.close high).map (c :: ·)) none rest

/-- A draft that was read to its end, or the break when there is none. -/
def ended : Option (Draft × List Char) → Draft × Option (List Char)
  | some (d, rest) => (d, some rest)
  | none => (.broken, none)

mutual
/-- Reads a value. The second part is the text after it, or nothing when the text broke. -/
def scanValue : Nat → List Char → Draft × Option (List Char)
  | 0, _ => (.broken, none)
  | fuel + 1, cs =>
    match skipGaps cs with
    | 'n' :: 'u' :: 'l' :: 'l' :: rest => (.null, some rest)
    | 't' :: 'r' :: 'u' :: 'e' :: rest => (.bool true, some rest)
    | 'f' :: 'a' :: 'l' :: 's' :: 'e' :: rest => (.bool false, some rest)
    | '"' :: rest => ended (scanString (some []) none rest)
    | '[' :: rest =>
      match skipGaps rest with
      | ']' :: rest => (.arr [], some rest)
      | rest =>
        let (items, rest) := scanItems fuel rest
        (.arr items, rest)
    | '\x7b' :: rest =>
      match skipGaps rest with
      | '\x7d' :: rest => (.obj [], some rest)
      | rest =>
        let (members, rest) := scanMembers fuel rest
        (.obj members, rest)
    | rest => ended (scanNumber rest)

/-- Reads the items of an array from the place where one has to start. -/
def scanItems : Nat → List Char → List Draft × Option (List Char)
  | 0, _ => ([.broken], none)
  | fuel + 1, cs =>
    match scanValue fuel cs with
    | (item, none) => ([item], none)
    | (item, some rest) =>
      match skipGaps rest with
      | ',' :: rest =>
        let (items, rest) := scanItems fuel rest
        (item :: items, rest)
      | ']' :: rest => ([item], some rest)
      | _ => ([item, .broken], none)

/-- Reads the members of an object from the place where a name has to start. -/
def scanMembers : Nat → List Char → List (Draft × Draft) × Option (List Char)
  | 0, _ => ([(.broken, .broken)], none)
  | fuel + 1, cs =>
    match scanValue fuel cs with
    | (name, none) => ([(name, .broken)], none)
    | (name, some rest) =>
      match name, skipGaps rest with
      | .str _, ':' :: rest => scanMember fuel name rest
      | .loneSurrogate, ':' :: rest => scanMember fuel name rest
      | _, _ => ([(name, .broken)], none)

/-- Reads the value of a member and the members after it. -/
def scanMember : Nat → Draft → List Char → List (Draft × Draft) × Option (List Char)
  | 0, name, _ => ([(name, .broken)], none)
  | fuel + 1, name, cs =>
    match scanValue fuel cs with
    | (value, none) => ([(name, value)], none)
    | (value, some rest) =>
      match skipGaps rest with
      | ',' :: rest =>
        let (members, rest) := scanMembers fuel rest
        ((name, value) :: members, rest)
      | '\x7d' :: rest => ([(name, value)], some rest)
      | _ => ([(name, value), (.broken, .broken)], none)
end

/-- The draft of a text, and whether nothing but blanks follows it. -/
def scanChars (cs : List Char) : Draft × Bool :=
  -- no step is taken twice without reading a character in between, except into a member's value
  match scanValue (3 * cs.length + 3) cs with
  | (d, some rest) => (d, (skipGaps rest).isEmpty)
  | (d, none) => (d, false)

/-- The draft of a text, and whether nothing but blanks follows it. -/
def scan (text : String) : Draft × Bool := scanChars text.toList

/-- How deeply the containers of a document may be nested, plus one. -/
def depthLimit : Nat := 128

/-- The document a text stands for, in canonical form. -/
def parseChars? (cs : List Char) : Option Json :=
  match scanChars cs with
  | (d, true) => if d.sound depthLimit then some d.toJson else none
  | (_, false) => none

/-- The document a text stands for, in canonical form. -/
def parse? (text : String) : Option Json := parseChars? text.toList

end GridGateway.Json
