import GridGateway.Text.CaseTable
import GridGateway.Text.Ranges

/-!
# Lowercase text

Lowering of a whole text by the Unicode rules that do not depend on a language. Two letters need more than the
table: `İ` becomes an `i` and a combining dot, and a capital sigma becomes `ς` at the end of a word and `σ`
elsewhere.
-/

namespace GridGateway.Text

/-- The lowercase of one character, without the two special letters. -/
def lowerChar (c : Char) : Char :=
  if c.toNat < 0x80 then
    if 'A' ≤ c ∧ c ≤ 'Z' then Char.ofNat (c.toNat + 32) else c
  else
    match lowercaseRuns.find? fun r =>
        r.first ≤ c.toNat && c.toNat ≤ r.last && (c.toNat - r.first) % r.step == 0 with
    | some r => Char.ofNat (r.target + (c.toNat - r.first))
    | none => c

/-- Whether the first character that is not skipped is a letter with case. -/
def meetsCased : List Char → Bool
  | [] => false
  | c :: rest =>
    if inRanges caseIgnorableRanges c.toNat then meetsCased rest else inRanges casedRanges c.toNat

/-- Lowers `rest`, where `before` holds the characters already passed, the nearest first. -/
def lowerFrom (before : List Char) : List Char → List Char
  | [] => []
  | c :: rest =>
    let lowered :=
      if c = 'Σ' then [if meetsCased before && !meetsCased rest then 'ς' else 'σ']
      else if c = 'İ' then ['i', '\u0307']
      else [lowerChar c]
    lowered ++ lowerFrom (c :: before) rest

/-- The lowercase form of a text. -/
def lower (s : String) : String :=
  String.ofList (lowerFrom [] s.toList)

/-- The lowercase form of a text in which only ASCII letters change. -/
def lowerAscii (s : String) : String :=
  String.ofList (s.toList.map Char.toLower)

/-- Equality of two texts up to the case of ASCII letters. -/
def sameIgnoringAsciiCase (s t : String) : Bool :=
  lowerAscii s == lowerAscii t

end GridGateway.Text
