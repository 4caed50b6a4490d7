/-
  The ADDRESS that a request is sent to.

  1. **Authority** — the host, and the port behind a colon if one is given.
  2. **Text** — `Address.text` writes `scheme://authority/path?query#fragment`, and leaves out what
     is empty.  An address without authority keeps its two slashes only under a scheme that is known
     to have an authority, and only if the path does not bring them itself.
-/
import SigV4.Url.Query

namespace SigV4

/-- Where a request goes.  Path and query are in the form in which they are sent. -/
structure Address where
  scheme : String := "https"
  host : String
  port : Option Int := none
  path : Option String := none
  query : Option String := none
  fragment : Option String := none
deriving DecidableEq, Repr

namespace Address

/-- The schemes whose addresses have an authority even when it is empty. -/
def authoritySchemes : List String :=
  ["ftp", "http", "gopher", "nntp", "telnet", "imap", "wais", "file", "mms", "https", "shttp",
    "snews", "prospero", "rtsp", "rtspu", "rsync", "svn", "svn+ssh", "sftp", "nfs", "git",
    "git+ssh", "ws", "wss"]

/-- The host, and the port if one is given. -/
def authority (a : Address) : String :=
  match a.port with
  | some port => a.host ++ ":" ++ toString port
  | none => a.host

/-- A part with its mark before it, or nothing if the part is missing or empty. -/
def marked (mark : String) (part : Option String) : String :=
  match part with
  | some text => if text.isEmpty then "" else mark ++ text
  | none => ""

/-- Whether the two slashes and the authority are written. -/
def showsAuthority (a : Address) : Bool :=
  !a.authority.isEmpty
    || (authoritySchemes.contains a.scheme && !(a.path.getD "").startsWith "//")

/-- The path with a leading slash, unless it is empty. -/
def rooted (path : String) : String :=
  if path.isEmpty || path.startsWith "/" then path else "/" ++ path

/-- **The address as text.** -/
def text (a : Address) : String :=
  let path := a.path.getD ""
  let place := if a.showsAuthority then "//" ++ a.authority ++ rooted path else path
  let located := if a.scheme.isEmpty then place else a.scheme ++ ":" ++ place
  located ++ marked "?" a.query ++ marked "#" a.fragment

/-- The address with further query parameters. -/
def withParams (a : Address) (params : List (String × String)) : Address :=
  { a with query := some (Query.append a.query params) }

end Address

end SigV4
