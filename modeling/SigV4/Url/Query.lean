/-
  The query of an address: reading it, its CANONICAL FORM, and adding to it.

  1. **Reading** — `parse` cuts at every `&`, drops empty pieces, cuts each piece at its first `=`
     (a piece without one has an empty value), reads `+` as a space and then the escapes.
  2. **Writing** — `format` writes names and values with all but unreserved characters escaped.
  3. **The canonical form** — `canonicalQuery` reads, writes, and sorts the written pairs by name and
     then by value.
  4. **Adding** — `append` puts further parameters behind what is there.
-/
import SigV4.Text.Order
import SigV4.Text.Split
import SigV4.Url.Percent

namespace SigV4.Query

open Text

/-- A name and a value. -/
abbrev Param := List Char × List Char

/-! ## Reading -/

/-- One side of a parameter as it is meant: `+` is a space, and escapes stand for bytes. -/
def decodeSide (cs : List Char) : List Char :=
  Percent.decodeText (cs.map fun c => if c = '+' then ' ' else c)

/-- The parameter that a piece writes. -/
def readParam (piece : List Char) : Param :=
  let (name, value?) := cut '=' piece
  (decodeSide name, decodeSide (value?.getD []))

/-- **The parameters of a query,** in order. -/
def parse (query : List Char) : List Param :=
  ((split '&' query).filter (!·.isEmpty)).map readParam

/-! ## Writing -/

/-- A parameter with both sides escaped. -/
def encodeParam (p : Param) : Param := (Percent.encodeText p.1, Percent.encodeText p.2)

/-- An escaped parameter as text. -/
def writeParam (p : Param) : List Char := p.1 ++ '=' :: p.2

/-- The parameters as the text of a query. -/
def format (params : List Param) : List Char :=
  join '&' (params.map fun p => writeParam (encodeParam p))

/-! ## The canonical form -/

/-- The order of escaped parameters: by name, and by value where the names are the same. -/
def paramLE (p q : Param) : Bool :=
  if p.1 = q.1 then inOrder p.2 q.2 else inOrder p.1 q.1

/-- **The canonical form of a query.** -/
def canonicalQuery (query : Option String) : String :=
  let params := parse ((query.map String.toList).getD [])
  String.ofList (join '&' (((params.map encodeParam).mergeSort paramLE).map writeParam))

/-! ## Adding -/

/-- **The query with further parameters behind it.** -/
def append (query : Option String) (params : List (String × String)) : String :=
  let added := format (params.map fun p => (p.1.toList, p.2.toList))
  match query with
  | some old => if old.isEmpty then String.ofList added else old ++ "&" ++ String.ofList added
  | none => String.ofList added

end SigV4.Query
