/-
Lower-casing of a whole text. Each character is replaced by its lower case,
which for one capital (the dotted I) is two characters. The capital sigma
alone looks around: at the end of a word it becomes the final sigma, where
a word ends after a cased character that no cased character follows, marks
and inner punctuation passed over on both sides.
-/
import Courier.Text.Lowercase.Table
import Courier.Text.Ranges

namespace Courier.Text

/-- Whether a character has a case. -/
def isCased (c : Char) : Bool :=
  inRanges casedRanges c

/-- Whether the word-final rule passes over a character. -/
def isCaseIgnorable (c : Char) : Bool :=
  inRanges caseIgnorableRanges c

/-- The lower case of a character taken by itself. -/
def lowercaseChar (c : Char) : List Char :=
  if c.toNat = 0x130 then ['i', Char.ofNat 0x307]
  else
    let run := lowercaseRuns.find? fun (first, last, step, _) =>
      first ≤ c.toNat && c.toNat ≤ last && (c.toNat - first) % step == 0
    match run with
    | some (_, _, _, shift) => [Char.ofNat (c.toNat + shift).toNat]
    | none => [c]

/-- Whether the first character that is not passed over is cased. -/
def meetsCased (cs : List Char) : Bool :=
  match cs.dropWhile isCaseIgnorable with
  | c :: _ => isCased c
  | [] => false

/-- Whether a sigma between these texts ends a word; `before` is the text in
front of it, nearest character first. -/
def endsWord (before after : List Char) : Bool :=
  meetsCased before && !meetsCased after

/-- Lower-cases what follows `before` (nearest character first). -/
def lowercaseAfter (before : List Char) : List Char → List Char
  | [] => []
  | c :: rest =>
    (if c = 'Σ' then [if endsWord before rest then 'ς' else 'σ'] else lowercaseChar c)
      ++ lowercaseAfter (c :: before) rest

/-- The lower case of a text. -/
def lowercase (s : String) : String :=
  String.ofList (lowercaseAfter [] s.toList)

end Courier.Text
