import HttpExchange.Url.Host
import HttpExchange.Url.Path

/-!
# URLs

Reading a URL brings it into its normal form.
-/

namespace HttpExchange

/-- A URL in its normal form. -/
structure Url where
  scheme : String
  /-- The user name before the host, escaped; it may be empty. -/
  user : String
  password : Option String
  host : Option String
  /-- The port, if it is not the usual one of the scheme. -/
  port : Option Nat
  path : String
  query : Option String
  fragment : Option String
  deriving DecidableEq

namespace Url

/-- User name and password as they stand before the host. -/
def credentials (url : Url) : String :=
  if url.user.isEmpty && url.password.isNone then ""
  else url.user ++ url.password.elim "" (":" ++ ·) ++ "@"

def text (url : Url) : String :=
  let authority := match url.host with
    | some host =>
      "//" ++ url.credentials ++ host ++ url.port.elim "" fun port => ":" ++ Nat.repr port
    | none => if url.path.startsWith "//" then "/." else ""
  url.scheme ++ ":" ++ authority ++ url.path ++ url.query.elim "" ("?" ++ ·) ++
    url.fragment.elim "" ("#" ++ ·)

def hasHost (url : Url) : Bool :=
  url.host.any fun host => !host.isEmpty

/-- What a server gets of the URL: path and query. -/
def target (url : Url) : String :=
  url.path ++ url.query.elim "" ("?" ++ ·)

/-- Schemes whose URLs always name a host, or a file, with their usual ports. -/
def specialSchemes : List (String × Option Nat) :=
  [("http", some 80), ("https", some 443), ("ws", some 80), ("wss", some 443), ("ftp", some 21),
    ("file", none)]

def isSpecial (scheme : String) : Bool :=
  (specialSchemes.lookup scheme).isSome

def usualPort? (scheme : String) : Option Nat :=
  (specialSchemes.lookup scheme).join

/-- A slash; in a special scheme a backslash is one, too. -/
def isSlash (special : Bool) (c : Char) : Bool :=
  c == '/' || (special && c == '\\')

def endsPath (c : Char) : Bool :=
  c == '?' || c == '#'

/-! ### Authority -/

structure Credentials where
  /-- The user name, escaped. -/
  user : String
  /-- The password, escaped, if it is not empty. -/
  password : Option String
  deriving DecidableEq

namespace Credentials

def none : Credentials := ⟨"", .none⟩

def parse (chars : List Char) : Credentials :=
  let escaped (part : List Char) : String := String.ofList (Escape.chars Escape.inCredentials part)
  let password := (chars.dropWhile (· != ':')).drop 1
  ⟨escaped (chars.takeWhile (· != ':')),
    if password.isEmpty then .none else some (escaped password)⟩

/-- User name and password that stand before the last `@`, and what follows it.  `more` tells that
something follows the authority; then a lone `@` wants a host. -/
def split (authority : List Char) (more : Bool) :
    Except UrlFault (Credentials × List Char) :=
  match (pieces (· == '@') authority).reverse with
  | host :: users =>
    match users with
    | [] => .ok (none, host)
    | [[]] => if host.isEmpty && more then .error .emptyHost else .ok (none, host)
    | _ => .ok (parse (['@'].intercalate users.reverse), host)
  | [] => .ok (none, [])

end Credentials

/-- The characters up to the colon that ends a host; a colon between brackets does not. -/
def hostEnd : (inside : Bool) → List Char → List Char
  | _, [] => []
  | inside, c :: rest =>
    if c = ':' ∧ !inside then []
    else c :: hostEnd (if c = '[' then true else if c = ']' then false else inside) rest

def readHost (special : Bool) (chars : List Char) : Except UrlFault String :=
  if special then if chars.isEmpty then .error .emptyHost else Host.parse chars
  else (Host.bracketed? chars).getD (Host.ofOpaque chars)

/-- The port that stands in front of a path, if there is one, and what follows it. -/
def splitPort (chars : List Char) : Except UrlFault (Option Nat × List Char) :=
  match chars with
  | ':' :: rest =>
    let digits := rest.takeWhile Char.isDigit
    let after := rest.dropWhile Char.isDigit
    let number := (Numeral.value? 10 digits).getD 0
    if 65535 < number ∨ after.head?.any (fun c => !(isSlash true c || endsPath c)) then
      .error .invalidPort
    else .ok (if digits.isEmpty then none else some number, after)
  | _ => .ok (none, chars)

/-! ### Path, query and fragment -/

/-- A path and what comes before it. -/
structure Located where
  credentials : Credentials
  host : Option String
  /-- The port. -/
  port : Option Nat
  path : String

/-- The path of a special scheme, which has a slash in front in any case. -/
def rootedPath (chars : List Char) : String :=
  let slash := isSlash true
  Path.normal (pieces slash (if chars.head?.any slash then chars.drop 1 else chars))

/-- The path of any other scheme, which may be missing after an authority. -/
def plainPath (chars : List Char) : String :=
  if chars.isEmpty then ""
  else
    Path.normal (pieces (· == '/') (if chars.head? = some '/' then chars.drop 1 else chars))

/-- Read what follows two slashes: authority and path.  `more` tells that a query or fragment
follows. -/
def readAuthority (scheme : String) (chars : List Char) (more : Bool) :
    Except UrlFault Located := do
  let special := isSpecial scheme
  let authority := chars.takeWhile fun c => !isSlash special c
  let after := chars.drop authority.length
  let (credentials, rest) ← Credentials.split authority (more || !after.isEmpty)
  let name := hostEnd false rest
  let host ← readHost special name
  let tail := rest.drop name.length
  if host.isEmpty && (!tail.isEmpty || credentials != .none) then .error .emptyHost
  let (port, tail) ← splitPort (tail ++ after)
  .ok ⟨credentials, some host, if port = usualPort? scheme then none else port,
    if special then rootedPath tail else plainPath tail⟩

/-- A path of a file: the slashes in front are reduced to one. -/
def filePath (segments : List (List Char)) : String :=
  match segments.dropWhile List.isEmpty with
  | [] => "/"
  | kept => Path.text kept

/-- A file on a host.  A path that begins with the name of a drive has none. -/
def onHost (host : String) (path : List Char) : Located :=
  let walk := Path.Walk.start.through true (pieces (isSlash true) path)
  ⟨.none, some (if walk.onDrive then "" else host), none, filePath walk.segments⟩

/-- Read what follows the scheme of a file, breaks included: two slashes, a host that may be empty,
and a path; or a path alone.  The name of a drive is no host. -/
def readFile (source : List Char) : Except UrlFault Located := do
  let chars := Breaks.leftOut source
  let slashes := (chars.takeWhile (isSlash true)).length
  if slashes = 0 then .ok (onHost "" source)
  else if slashes = 1 then .ok (onHost "" (Breaks.behind 1 source))
  else
    let name := (chars.drop 2).takeWhile fun c => !isSlash true c
    if name.isEmpty || Path.isDrive name then .ok (onHost "" (Breaks.behind 2 source))
    else
      let host ← Host.parse name
      let after := Breaks.behind (2 + name.length) source
      if host = "localhost" then .ok (onHost "" after)
      else .ok (onHost host (Breaks.behind 1 after))

/-- Read what follows the scheme, up to a query or fragment, breaks included.  `more` tells that one
follows. -/
def locate (scheme : String) (source : List Char) (more : Bool) : Except UrlFault Located :=
  let chars := Breaks.leftOut source
  if scheme = "file" then readFile source
  else if isSpecial scheme then readAuthority scheme (chars.dropWhile (isSlash true)) more
  else
    match chars with
    | '/' :: '/' :: rest => readAuthority scheme rest more
    | '/' :: _ => .ok ⟨.none, none, none, plainPath chars⟩
    | _ => .ok ⟨.none, none, none, String.ofList (Escape.chars [] chars)⟩

/-- Scheme and remaining characters, breaks included. -/
def splitScheme? (source : List Char) : Option (String × List Char) :=
  let chars := Breaks.leftOut source
  let name := chars.takeWhile fun c => c.isAlphanum || c == '+' || c == '-' || c == '.'
  match name, chars.drop name.length with
  | first :: _, ':' :: _ =>
    if first.isAlpha then
      some (Ascii.lower (String.ofList name), Breaks.behind (name.length + 1) source)
    else none
  | _, _ => none

def trim (chars : List Char) : List Char :=
  let blank (c : Char) : Bool := c.toNat ≤ 0x20
  ((chars.dropWhile blank).reverse.dropWhile blank).reverse

def part? (sign : Char) (also source : List Char) : Option String :=
  match Breaks.leftOut source with
  | [] => none
  | c :: rest => if c = sign then some (String.ofList (Escape.chars also rest)) else none

def parse (source : String) : Except UrlFault Url := do
  match splitScheme? (trim source.toList) with
  | none => .error .relative
  | some (scheme, source) =>
    let main := source.takeWhile fun c => !endsPath c
    let tail := source.drop main.length
    let located ← locate scheme main (!tail.isEmpty)
    let inQuery := if isSpecial scheme then '\'' :: Escape.inQuery else Escape.inQuery
    .ok {
      scheme := scheme
      user := located.credentials.user
      password := located.credentials.password
      host := located.host
      port := located.port
      path := located.path
      query := part? '?' inQuery (tail.takeWhile (· != '#'))
      fragment := part? '#' Escape.inFragment (tail.dropWhile (· != '#')) }

end Url
end HttpExchange
