/-
  The CANONICAL PATH of a request.

  1. **Dot segments** — `removeDotSegments` walks over the `/`-separated segments with a stack: `.`
     is dropped, `..` takes back the segment before it.  The empty segment before a leading slash
     is on the stack like any other, so a `..` above the root takes it too and it is put back at
     the end.  A path that ends in a dot segment keeps its trailing slash.  `squeeze` makes one
     slash of every run.
  2. **Encoding** — either escapes are kept, in one spelling, and only what stands between them is
     encoded (`encodePath`), or the path is encoded as it stands, its escapes too (`encodeAgain`).
  3. **The canonical path** — `canonicalPath`: an empty path is `/`; a path is normalised if asked,
     then encoded.
-/
import SigV4.Text.Split
import SigV4.Url.Percent

namespace SigV4.Path

open Text

/-! ## Dot segments -/

/-- The segment that stands for its parent's place. -/
def dot : List Char := ['.']

/-- The segment that stands for the parent. -/
def dotDot : List Char := ['.', '.']

/-- The segments that are left, the last one FIRST. -/
def keepSegments (stack : List (List Char)) : List (List Char) → List (List Char)
  | [] => stack
  | segment :: rest =>
    if segment = dot then keepSegments stack rest
    else if segment = dotDot then keepSegments stack.tail rest
    else keepSegments (segment :: stack) rest

/-- Puts back the marker of a leading slash if it is gone. -/
def restoreRoot (segments : List (List Char)) : List (List Char) :=
  match segments with
  | [] :: _ => segments
  | _ => [] :: segments

/-- Whether the path ends in a dot segment that is not its first. -/
def endsInDots (segments : List (List Char)) : Bool :=
  2 ≤ segments.length && (segments.getLast? == some dot || segments.getLast? == some dotDot)

/-- One slash for every run of slashes. -/
def squeeze : List Char → List Char
  | '/' :: '/' :: rest => squeeze ('/' :: rest)
  | c :: rest => c :: squeeze rest
  | [] => []

/-- **The path without its dot segments,** and with single slashes if asked. -/
def removeDotSegments (path : List Char) (singleSlashes : Bool) : List Char :=
  let segments := split '/' path
  let kept := (keepSegments [] segments).reverse
  let rooted := if path.head? = some '/' then restoreRoot kept else kept
  let closed := if !rooted.isEmpty && endsInDots segments then rooted ++ [[]] else rooted
  let result := join '/' closed
  if singleSlashes then squeeze result else result

/-! ## Encoding -/

/-- An escape of the path, once its byte is known: an unreserved character takes its place, every
other escape is kept with its digits in upper case. -/
def respell (hi lo : Char) (b : UInt8) : List Char :=
  let c := Char.ofNat b.toNat
  if Percent.isUnreserved c then [c] else ['%', hi.toUpper, lo.toUpper]

/-- What is left of a segment, behind a `gap` (its last character first) that is not written yet.  A
gap ends at the next escape: the gap is encoded, the escape respelled. -/
def encodeFrom (gap : List Char) : List Char → List Char
  | c :: hi :: lo :: rest =>
    match Percent.escaped? c hi lo with
    | some b => Percent.encodeText gap.reverse ++ respell hi lo b ++ encodeFrom [] rest
    | none => encodeFrom (c :: gap) (hi :: lo :: rest)
  | c :: rest => encodeFrom (c :: gap) rest
  | [] => Percent.encodeText gap.reverse

/-- One segment, its escapes kept and all that stands between them encoded. -/
def encodeSegment (segment : List Char) : List Char := encodeFrom [] segment

/-- Every segment encoded on its own, the slashes kept. -/
def encodePath (path : List Char) : List Char :=
  join '/' ((split '/' path).map encodeSegment)

/-- The path encoded as it stands, the slashes kept: its escapes are encoded once more. -/
def encodeAgain (path : List Char) : List Char :=
  Percent.encode (· == '/') (Utf8.encode path)

/-! ## The canonical path -/

/-- An empty path is the root. -/
def orRoot (path : List Char) : List Char := if path.isEmpty then ['/'] else path

/-- **The canonical form of a path** as it is sent on the wire. -/
def canonicalPath (path : Option String) (encodeTwice normalize : Bool) : String :=
  let given := orRoot ((path.map String.toList).getD [])
  let clean := if normalize then orRoot (removeDotSegments given true) else given
  String.ofList (if encodeTwice then encodeAgain clean else encodePath clean)

end SigV4.Path
