import FleetTrial.Text.Split
import FleetTrial.Url.Host

/-!
# URLs

Reading a URL, alone or relative to a base, by the rules of the URL standard. A special scheme
takes a backslash for a slash and always has a host and a path; any other scheme may have an
opaque path instead. The text is first freed of the controls and spaces around it and of every
tab and line break.
-/

namespace FleetTrial.Url

/-- The path of a URL: its segments, or opaque text. -/
inductive Path
  | segments (parts : List (List Char))
  | opaqueText (text : List Char)
  deriving DecidableEq, Repr

/-- A parsed URL. A port is kept only where it is not the scheme's own. -/
structure Address where
  scheme : List Char
  /-- What stands before the `@` of the authority, as it is written. -/
  userInfo : List Char := []
  host : Option Host := none
  port : Option Nat := none
  path : Path
  query : Option (List Char) := none
  fragment : Option (List Char) := none
  deriving DecidableEq, Repr

/-- The schemes that always have a host, except `file`. -/
def webSchemes : List (List Char × Nat) :=
  [("http".toList, 80), ("https".toList, 443), ("ws".toList, 80), ("wss".toList, 443),
   ("ftp".toList, 21)]

/-- The scheme of local files. -/
def fileScheme : List Char := "file".toList

/-- Whether a scheme is special but not that of files. -/
def isWeb (scheme : List Char) : Bool := webSchemes.any fun s => s.1 == scheme

/-- Whether a scheme takes a backslash for a slash. -/
def isSpecial (scheme : List Char) : Bool := isWeb scheme || scheme == fileScheme

/-- The port that a scheme stands for. -/
def defaultPort? (scheme : List Char) : Option Nat :=
  (webSchemes.find? fun s => s.1 == scheme).map (·.2)

/-- Whether a character separates path segments in a scheme. -/
def isSlash (special : Bool) (c : Char) : Bool := c == '/' || (special && c == '\\')

/-- Whether a character ends the authority of a URL. -/
def endsAuthority (special : Bool) (c : Char) : Bool := isSlash special c || c == '?' || c == '#'

/-- Removes the controls and spaces around a text and every tab and line break in it. -/
def clean (text : List Char) : List Char :=
  let outer (c : Char) := c.toNat ≤ 0x20
  let inner := ((text.dropWhile outer).reverse.dropWhile outer).reverse
  inner.filter fun c => c != '\t' && c != '\n' && c != '\r'

/-- Whether a character may stand in a scheme after its first letter. -/
def isSchemeChar (c : Char) : Bool := c.isAlphanum || c == '+' || c == '-' || c == '.'

/-- Takes the scheme off a text, in lower case, with the colon after it. -/
def splitScheme (text : List Char) : Option (List Char × List Char) :=
  let name := text.takeWhile isSchemeChar
  match text.head?, text.drop name.length with
  | some c, ':' :: rest => if c.isAlpha then some (name.map Char.toLower, rest) else none
  | _, _ => none

/-- The segments that name the directory itself. -/
def isSingleDot (segment : List Char) : Bool :=
  segment == ['.'] || segment.map Char.toLower == ['%', '2', 'e']

/-- The segments that name the directory above. -/
def isDoubleDot (segment : List Char) : Bool :=
  let lower := segment.map Char.toLower
  [['.', '.'], ['.', '%', '2', 'e'], ['%', '2', 'e', '.'],
    ['%', '2', 'e', '%', '2', 'e']].contains lower

/-- Puts one segment behind those before it; the last one of a path leaves an empty segment
where it is a dot segment. -/
def pushSegment (before : List (List Char)) (segment : List Char) (last : Bool) :
    List (List Char) :=
  if isDoubleDot segment then before.dropLast ++ (if last then [[]] else [])
  else if isSingleDot segment then before ++ (if last then [[]] else [])
  else before ++ [segment]

/-- Puts several segments behind those before them. -/
def pushSegments (before : List (List Char)) : List (List Char) → List (List Char)
  | [] => before
  | [segment] => pushSegment before segment true
  | segment :: rest => pushSegments (pushSegment before segment false) rest

/-- The segments of a path text, each encoded. -/
def pathSegments (special : Bool) (text : List Char) : List (List Char) :=
  (text.splitOnP (isSlash special)).map (percentEncode encodesInPath)

/-- The query and the fragment of the text behind a path. -/
def readTail (special : Bool) (text : List Char) : Option (List Char) × Option (List Char) :=
  let beforeHash := text.takeWhile (· != '#')
  let fragment :=
    match text.drop beforeHash.length with
    | _ :: rest => some (percentEncode encodesInFragment rest)
    | [] => none
  let encodes (c : Char) := encodesInQuery c && (special || c != '\'')
  match beforeHash with
  | '?' :: rest => (some (percentEncode encodes rest), fragment)
  | _ => (none, fragment)

/-- Whether a character ends a path. -/
def endsPath (c : Char) : Bool := c == '?' || c == '#'

/-- A URL whose path and what follows it are read from a text, behind the segments `before`. -/
def Address.withPath (base : Address) (before : List (List Char)) (text : List Char) : Address :=
  let special := isSpecial base.scheme
  let path := text.takeWhile fun c => !endsPath c
  let (query, fragment) := readTail special (text.drop path.length)
  { base with
    path := .segments (pushSegments before (pathSegments special path))
    query := query
    fragment := fragment }

/-- Reads the path that follows an authority. -/
def Address.withAbsolutePath (base : Address) (text : List Char) : Address :=
  let special := isSpecial base.scheme
  match text with
  | c :: rest =>
    if isSlash special c then base.withPath [] rest
    else if !special && endsPath c then
      let (query, fragment) := readTail special text
      { base with path := .segments [], query := query, fragment := fragment }
    else base.withPath [] text
  | [] => { base with path := .segments (if special then [[]] else []) }

/-- Reads a port: digits up to the end of the authority. -/
def readPort (scheme : List Char) (text : List Char) : Except Fault (Option Nat × List Char) :=
  let digits := text.takeWhile Char.isDigit
  let rest := text.drop digits.length
  match Text.readDigits Text.maxWord16 0 digits with
  | .error _ => .error .badPort
  | .ok port =>
    if rest.head?.any fun c => !endsAuthority true c then .error .badPort
    else if digits.isEmpty || defaultPort? scheme = some port then .ok (none, rest)
    else .ok (some port, rest)

/-- The characters of a host: up to the end of the authority, or to a colon outside brackets. -/
def hostText (special bracketed : Bool) : List Char → List Char
  | [] => []
  | c :: rest =>
    if endsAuthority special c || (c == ':' && !bracketed) then []
    else if c == '[' then c :: hostText special true rest
    else if c == ']' then c :: hostText special false rest
    else c :: hostText special bracketed rest

/-- Takes the user information off an authority: what stands before its last `@`. -/
def splitUserInfo (special : Bool) (text : List Char) : Option (List Char) × List Char :=
  let authority := text.takeWhile fun c => !endsAuthority special c
  match Text.splitLast '@' authority with
  | some (info, _) => (some info, text.drop (info.length + 1))
  | none => (none, text)

/-- The user name and the password of a user information, each empty where it is left out. -/
def splitLogin (info : List Char) : List Char × List Char :=
  (Text.splitFirst ':' info).getD (info, [])

/-- Whether a user information names a user or gives a password. -/
def isLogin (info : List Char) : Bool := splitLogin info != ([], [])

/-- Whether an authority without a host name is refused: in a special scheme, before a port, and
behind a login; and behind a lone `@` before the path. -/
def needsHostName (special : Bool) (info : Option (List Char)) (rest : List Char) : Bool :=
  special || rest.head? == some ':' ||
    match info with
    | none => false
    | some [] => !rest.isEmpty
    | some info => isLogin info

/-- Reads the authority of a URL and everything behind it. -/
def readAuthority (scheme text : List Char) : Except Fault Address :=
  let special := isSpecial scheme
  let (info, text) := splitUserInfo special text
  let name := hostText special false text
  let rest := text.drop name.length
  if name.isEmpty && needsHostName special info rest then .error .emptyHost
  else do
    let host ← if special then Host.read name else Host.readOpaque name
    let (port, rest) ←
      match rest with
      | ':' :: after => readPort scheme after
      | _ => .ok (none, rest)
    let base : Address :=
      { scheme := scheme
        userInfo := info.getD []
        host := some host
        port := port
        path := .segments [] }
    .ok (base.withAbsolutePath rest)

/-- Reads a URL of the file scheme, without its scheme. -/
def readFile (text : List Char) : Except Fault Address :=
  let base : Address := { scheme := fileScheme, path := .segments [] }
  match text with
  | a :: b :: rest =>
    if isSlash true a && isSlash true b then
      let name := rest.takeWhile fun c => !endsAuthority true c
      let after := rest.drop name.length
      let isDrive := name.length = 2 && name.head?.any Char.isAlpha &&
        (name.getLast? = some ':' || name.getLast? = some '|')
      if name.isEmpty then .ok (base.withAbsolutePath after)
      else if isDrive then .ok (base.withPath [] rest)
      else (Host.read name).map fun host => { base with host := some host }.withAbsolutePath after
    else .ok (base.withAbsolutePath text)
  | _ => .ok (base.withAbsolutePath text)

/-- Reads a URL of a scheme that is not special, without its scheme. -/
def readPlain (scheme text : List Char) : Except Fault Address :=
  match text with
  | '/' :: '/' :: rest => readAuthority scheme rest
  | '/' :: rest => .ok ({ scheme := scheme, path := .segments [] : Address }.withPath [] rest)
  | _ =>
    let path := text.takeWhile fun c => !endsPath c
    let (query, fragment) := readTail false (text.drop path.length)
    .ok { scheme := scheme
          path := .opaqueText (percentEncode isControlOrWide path)
          query := query
          fragment := fragment }

/-- Resolves a text without a scheme against a base whose path is made of segments. -/
def resolve (base : Address) (parts : List (List Char)) (text : List Char) :
    Except Fault Address :=
  let special := isSpecial base.scheme
  match text with
  | [] => .ok { base with fragment := none }
  | '#' :: _ => .ok { base with fragment := (readTail special text).2 }
  | '?' :: _ =>
    let (query, fragment) := readTail special text
    .ok { base with query := query, fragment := fragment }
  | c :: rest =>
    if isSlash special c then
      match rest with
      | d :: after =>
        if isSlash special d then
          readAuthority base.scheme (if special then after.dropWhile (isSlash true) else after)
        else .ok (base.withPath [] rest)
      | [] => .ok (base.withPath [] rest)
    else .ok (base.withPath parts.dropLast text)

/-- Reads a cleaned text as a URL, relative to a base where there is one. -/
def readClean (base : Option Address) (text : List Char) : Except Fault Address :=
  match splitScheme text with
  | some (scheme, rest) =>
    if isWeb scheme then
      let slashes := (rest.takeWhile (isSlash true)).length
      match base with
      | some b =>
        match b.path with
        | .segments parts =>
          if slashes < 2 && b.scheme == scheme then resolve b parts rest
          else readAuthority scheme (rest.dropWhile (isSlash true))
        | .opaqueText _ => readAuthority scheme (rest.dropWhile (isSlash true))
      | none => readAuthority scheme (rest.dropWhile (isSlash true))
    else if scheme == fileScheme then readFile rest
    else readPlain scheme rest
  | none =>
    match base with
    | none => .error .relativeWithoutBase
    | some b =>
      match b.path with
      | .segments parts => resolve b parts text
      | .opaqueText _ =>
        if text.head? == some '#' then
          .ok { b with fragment := (readTail (isSpecial b.scheme) text).2 }
        else .error .relativeToOpaque

/-- Reads a URL. -/
def Address.parse (text : String) : Except Fault Address := readClean none (clean text.toList)

/-- Resolves a reference against a base. -/
def Address.join (base : Address) (reference : String) : Except Fault Address :=
  readClean (some base) (clean reference.toList)

/-- The scheme as text. -/
def Address.schemeText (a : Address) : String := String.ofList a.scheme

/-- The port that a connection goes to. -/
def Address.connectPort (a : Address) : Option Nat := a.port.or (defaultPort? a.scheme)

/-- A part of the user information with its encoded bytes put back; none if they are no text. -/
def decodeInfo (text : List Char) : Option String :=
  String.fromUTF8? ⟨(percentDecode text).toArray⟩

/-- The user name and the password that a URL carries, if it carries either. -/
def Address.login? (a : Address) : Option (String × String) :=
  let (name, password) := splitLogin a.userInfo
  if name.isEmpty && password.isEmpty then none
  else (decodeInfo name).map fun name => (name, (decodeInfo password).getD "")

/-- The text of a path. -/
def Path.text : Path → List Char
  | .segments parts => parts.flatMap ('/' :: ·)
  | .opaqueText text => text

/-- The path and query that a request line carries. -/
def Address.target (a : Address) : String :=
  String.ofList (a.path.text ++ (a.query.map ('?' :: ·)).getD [])

/-- The host and the port of a URL, the port only where it is not the scheme's own. -/
def Address.authority (a : Address) : String :=
  ((a.host.map Host.urlText).getD "") ++ ((a.port.map fun port => ":" ++ toString port).getD "")

/-- The text of a URL without its user information. -/
def Address.text (a : Address) : String :=
  a.schemeText ++ ":" ++
    (if a.host.isSome || a.scheme == fileScheme then "//" ++ a.authority else "") ++
    a.target ++ ((a.fragment.map fun text => "#" ++ String.ofList text).getD "")

end FleetTrial.Url
