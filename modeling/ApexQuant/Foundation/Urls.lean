import ApexQuant.Foundation.Text

namespace ApexQuant
namespace Foundation

/-!
# URLs

The functions `urlparse` and `urlunparse` of `urllib.parse`, and the properties of
their result that read the network location: everything up to the last `@` is user
information, and what follows its first colon is the password.

What these functions ask other packages is a parameter: Unicode normalization, case
folding, and the reading of an address in brackets.
-/

namespace Urls

/-- Why a text is refused, or a property of its parts cannot be read. -/
inductive UrlError where
  | invalidIpv6
  | invalidFutureAddress
  | notAnAddress (host : Text)
  | bracketedIpv4
  | denormalized (netloc : Text)
  | portNotNumber (port : Text)
  | portOutOfRange
  deriving DecidableEq

/-- What `ipaddress.ip_address` makes of a text. -/
inductive Address where
  | ipv4
  | ipv6
  | invalid
  deriving DecidableEq

/-- The packages below `urllib.parse`. -/
structure Packages where
  nfkc : Text -> Text
  fold : Text.Lowercasing
  address : Text -> Address

/-- `text.partition(c)` without the separator: what is before its first occurrence,
whether there is one, and what is after. -/
def partition (c : Char) (text : Text) : Text × Bool × Text :=
  (text.takeWhile fun d => decide (d ≠ c), text.contains c, (text.dropWhile fun d => decide (d ≠ c)).drop 1)

/-- `text.rpartition(c)`, at the last occurrence. -/
def rpartition (c : Char) (text : Text) : Text × Bool × Text :=
  match partition c text.reverse with
  | (after, found, before) => (before.reverse, found, after.reverse)

/-- `_WHATWG_C0_CONTROL_OR_SPACE`. -/
def isControlOrSpace (c : Char) : Bool :=
  decide (c.toNat ≤ 32)

/-- `_UNSAFE_URL_BYTES_TO_REMOVE`. -/
def isUnsafe (c : Char) : Bool :=
  c == '\t' || c == '\r' || c == '\n'

/-- `scheme_chars`. -/
def isSchemeChar (c : Char) : Bool :=
  c.isAlphanum || c == '+' || c == '-' || c == '.'

/-- `ParseResult`. -/
structure ParseResult where
  scheme : Text
  netloc : Text
  path : Text
  params : Text
  query : Text
  fragment : Text
  deriving DecidableEq

/-- The scheme of a text, and what follows it. -/
def splitScheme (url : Text) : Text × Text :=
  match partition ':' url with
  | (front, true, rest) =>
      if front.head?.any Char.isAlpha && front.all isSchemeChar then (front.map Char.toLower, rest) else ([], url)
  | (_, false, _) => ([], url)

/-- `_check_bracketed_host`. -/
def checkBracketedHost (packages : Packages) (hostname : Text) : Except UrlError Unit :=
  match hostname with
  | 'v' :: version =>
      match partition '.' version with
      | (digits, true, rest) =>
          if digits.isEmpty = false && (digits.all fun c => c.isDigit || "abcdefABCDEF".toList.contains c) &&
              rest.isEmpty = false then .ok ()
          else .error .invalidFutureAddress
      | (_, false, _) => .error .invalidFutureAddress
  | hostname =>
      match packages.address hostname with
      | .ipv6 => .ok ()
      | .ipv4 => .error .bracketedIpv4
      | .invalid => .error (.notAnAddress hostname)

/-- `_check_bracketed_netloc`. -/
def checkBracketedNetloc (packages : Packages) (netloc : Text) : Except UrlError Unit :=
  let hostnameAndPort := (rpartition '@' netloc).2.2
  match partition '[' hostnameAndPort with
  | (before, true, bracketed) =>
      if before.isEmpty = false then .error .invalidIpv6
      else
        match partition ']' bracketed with
        | (hostname, _, port) =>
            if port.isEmpty = false && port.head? ≠ some ':' then .error .invalidIpv6
            else checkBracketedHost packages hostname
  | (_, false, _) => checkBracketedHost packages (partition ':' hostnameAndPort).1

/-- The check of the brackets in `urlsplit`. -/
def checkBrackets (packages : Packages) (netloc : Text) : Except UrlError Unit :=
  match netloc.contains '[', netloc.contains ']' with
  | true, true => checkBracketedNetloc packages netloc
  | false, false => .ok ()
  | _, _ => .error .invalidIpv6

/-- `_checknetloc`. -/
def checkNetloc (packages : Packages) (netloc : Text) : Except UrlError Unit :=
  if Text.isAscii netloc then .ok ()
  else
    let bare := netloc.filter fun c => !("@:#?".toList.contains c)
    let normalized := packages.nfkc bare
    if bare = normalized then .ok ()
    else if "/?#@:".toList.any normalized.contains then .error (.denormalized netloc)
    else .ok ()

/-- `uses_params`. -/
def usesParams : List Text :=
  ["".toList, "ftp".toList, "hdl".toList, "prospero".toList, "http".toList, "imap".toList, "https".toList,
    "shttp".toList, "rtsp".toList, "rtsps".toList, "rtspu".toList, "sip".toList, "sips".toList, "mms".toList,
    "sftp".toList, "tel".toList]

/-- `_splitparams`: the parameters follow the first semicolon after the last slash. -/
def splitParams (url : Text) : Text × Text :=
  match rpartition '/' url with
  | (directory, slash, file) =>
      match partition ';' file with
      | (name, true, params) => ((if slash then directory ++ ['/'] else []) ++ name, params)
      | (_, false, _) => (url, [])

/-- `urlparse`. -/
def urlparse (packages : Packages) (url : Text) : Except UrlError ParseResult := do
  let url := (url.dropWhile isControlOrSpace).filter fun c => !isUnsafe c
  let (scheme, url) := splitScheme url
  let (netloc, url) :=
    if "//".toList.isPrefixOf url then (url.drop 2).span fun c => !("/?#".toList.contains c) else ([], url)
  checkBrackets packages netloc
  let (url, _, fragment) := partition '#' url
  let (url, _, query) := partition '?' url
  checkNetloc packages netloc
  let (path, params) := if usesParams.contains scheme then splitParams url else (url, [])
  pure { scheme := scheme, netloc := netloc, path := path, params := params, query := query, fragment := fragment }

namespace ParseResult

/-- `_userinfo`: the user name and the password. -/
def userinfo (parsed : ParseResult) : Option Text × Option Text :=
  match rpartition '@' parsed.netloc with
  | (_, false, _) => (none, none)
  | (information, true, _) =>
      match partition ':' information with
      | (username, true, password) => (some username, some password)
      | (username, false, _) => (some username, none)

/-- `_hostinfo`: the host name and the text of the port. -/
def hostinfo (parsed : ParseResult) : Text × Text :=
  let information := (rpartition '@' parsed.netloc).2.2
  match partition '[' information with
  | (_, true, bracketed) =>
      match partition ']' bracketed with
      | (hostname, _, port) => (hostname, (partition ':' port).2.2)
  | (_, false, _) =>
      match partition ':' information with
      | (hostname, _, port) => (hostname, port)

def username (parsed : ParseResult) : Option Text :=
  parsed.userinfo.1

def password (parsed : ParseResult) : Option Text :=
  parsed.userinfo.2

/-- The host name, in lower case up to the zone of an address. -/
def hostname (packages : Packages) (parsed : ParseResult) : Option Text :=
  match parsed.hostinfo.1 with
  | [] => none
  | host =>
      match partition '%' host with
      | (name, percent, zone) => some (packages.fold.lower name ++ (if percent then ['%'] else []) ++ zone)

def port (parsed : ParseResult) : Except UrlError (Option Nat) :=
  match parsed.hostinfo.2 with
  | [] => .ok none
  | text =>
      if text.all Char.isDigit then
        let number := Text.asciiDigits.number text
        if number ≤ 65535 then .ok (some number) else .error .portOutOfRange
      else .error (.portNotNumber text)

end ParseResult

/-- `uses_netloc`. -/
def usesNetloc : List Text :=
  ["".toList, "ftp".toList, "http".toList, "gopher".toList, "nntp".toList, "telnet".toList, "imap".toList,
    "wais".toList, "file".toList, "mms".toList, "https".toList, "shttp".toList, "snews".toList, "prospero".toList,
    "rtsp".toList, "rtsps".toList, "rtspu".toList, "rsync".toList, "svn".toList, "svn+ssh".toList, "sftp".toList,
    "nfs".toList, "git".toList, "git+ssh".toList, "ws".toList, "wss".toList, "itms-services".toList]

/-- `urlunparse`. -/
def urlunparse (parts : ParseResult) : Text :=
  let path := if parts.params.isEmpty then parts.path else parts.path ++ ';' :: parts.params
  let located :=
    if parts.netloc.isEmpty = false then
      "//".toList ++ parts.netloc ++ (if path.isEmpty || path.head? = some '/' then path else '/' :: path)
    else if "//".toList.isPrefixOf path then "//".toList ++ path
    else if parts.scheme.isEmpty = false && usesNetloc.contains parts.scheme &&
        (path.isEmpty || path.head? = some '/') then "//".toList ++ path
    else path
  (if parts.scheme.isEmpty then [] else parts.scheme ++ [':']) ++ located ++
    (if parts.query.isEmpty then [] else '?' :: parts.query) ++
    (if parts.fragment.isEmpty then [] else '#' :: parts.fragment)

/-- A text that begins with a hyphen has neither a scheme nor a location. -/
theorem splitScheme_of_hyphen (rest : Text) : splitScheme ('-' :: rest) = ([], '-' :: rest) := by
  have front : (partition ':' ('-' :: rest)).1.head? = some '-' := rfl
  unfold splitScheme
  split
  · rename_i named after split
    rw [split] at front
    dsimp only at front
    rw [front]
    rfl
  · rfl

/-- An option of a command is parsed without complaint, and carries no password. -/
theorem urlparse_of_hyphen (packages : Packages) (rest : Text) :
    Exists fun parsed => urlparse packages ('-' :: rest) = .ok parsed ∧ parsed.password = none := by
  have cleaned : (('-' :: rest).dropWhile isControlOrSpace).filter (fun c => !isUnsafe c) =
      '-' :: rest.filter fun c => !isUnsafe c := rfl
  have located : "//".toList.isPrefixOf ('-' :: rest.filter fun c => !isUnsafe c) = false := rfl
  unfold urlparse
  dsimp only
  rw [cleaned, splitScheme_of_hyphen]
  dsimp only
  rw [if_neg (located ▸ Bool.false_ne_true)]
  exact ⟨_, rfl, rfl⟩

end Urls
end Foundation
end ApexQuant
