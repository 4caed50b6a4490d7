/-
  Upper and lower case of a TEXT, in any script.

  Case is not a map on characters.  Some capitals stand for several characters, and a capital sigma
  has two small forms: the final one where a word ends.  So `lower` walks along the text and knows
  what it has passed.

  1. **ASCII first** — `lowerChar` and `upperChar` settle ASCII by core's `Char.toLower` and
     `Char.toUpper` and look into the tables only beyond it.  Header names are ASCII in practice,
     and every law about ASCII letter case can be read off this first branch.
  2. **The final sigma** — `isFinalSigma before rest` skips the ignorable characters on both sides
     and asks for a letter before and for none after.
-/
import SigV4.Text.CaseTable

namespace SigV4.Text

open CaseTable

/-! ## Classes of characters -/

/-- A character that is skipped when one looks for the neighbours of a sigma. -/
def isIgnorable (c : Char) : Bool :=
  if c.toNat < 128 then
    c == Char.ofNat 0x27 || c == '.' || c == ':' || c == '^' || c == Char.ofNat 0x60
  else holds ignorableRanges c.toNat

/-- A character that is not skipped and is a letter with case. -/
def isCased (c : Char) : Bool :=
  if c.toNat < 128 then c.isAlpha else holds casedRanges c.toNat

/-- The first character that is not ignorable is a letter with case. -/
def meetsCased (cs : List Char) : Bool :=
  match cs.dropWhile isIgnorable with
  | c :: _ => isCased c
  | [] => false

/-- A sigma between `before` (read backwards) and `rest` ends a word. -/
def isFinalSigma (before rest : List Char) : Bool := meetsCased before && !meetsCased rest

/-! ## Lower case -/

/-- The small form of a character on its own. -/
def lowerChar (c : Char) : List Char :=
  if c.toNat < 128 then [c.toLower]
  else if c.toNat = 0x130 then ['i', Char.ofNat 0x307]
  else [((image? lowerRows c.toNat).map Char.ofNat).getD c]

/-- The small form of the text that follows `before` (read backwards). -/
def lowerAfter (before : List Char) : List Char → List Char
  | [] => []
  | c :: rest =>
    (if c.toNat = 0x3A3 then [Char.ofNat (if isFinalSigma before rest then 0x3C2 else 0x3C3)]
      else lowerChar c) ++ lowerAfter (c :: before) rest

/-- **The lower-case form of a text.** -/
def lower (s : String) : String := String.ofList (lowerAfter [] s.toList)

/-! ## Upper case -/

/-- The capital form of a character. -/
def upperChar (c : Char) : List Char :=
  if c.toNat < 128 then [c.toUpper]
  else match upperSpecials.lookup c.toNat with
    | some codes => codes.map Char.ofNat
    | none => [((image? upperRows c.toNat).map Char.ofNat).getD c]

/-- **The upper-case form of a text.** -/
def upper (s : String) : String := String.ofList (s.toList.flatMap upperChar)

/-! ## ASCII -/

theorem lowerChar_ascii {c : Char} (h : c.toNat < 128) : lowerChar c = [c.toLower] := by
  simp [lowerChar, h]

end SigV4.Text
