import Mathlib.Data.List.Basic

/-!
# Joining URLs

`urllib.parse`, as far as `urljoin` needs it.
-/

namespace MovieApi.Text

/-! ## Parts of a URL -/

/-- What `urlparse` makes of a URL. -/
structure Url where
  scheme : List Char
  netloc : List Char
  path : List Char
  params : List Char
  query : List Char
  fragment : List Char
deriving DecidableEq, Repr

def usesRelative : List String :=
  ["", "ftp", "http", "gopher", "nntp", "imap", "wais", "file", "https", "shttp", "mms",
    "prospero", "rtsp", "rtsps", "rtspu", "sftp", "svn", "svn+ssh", "ws", "wss"]

def usesNetloc : List String :=
  ["", "ftp", "http", "gopher", "nntp", "telnet", "imap", "wais", "file", "mms", "https", "shttp",
    "snews", "prospero", "rtsp", "rtsps", "rtspu", "rsync", "svn", "svn+ssh", "sftp", "nfs", "git",
    "git+ssh", "ws", "wss", "itms-services"]

def usesParams : List String :=
  ["", "ftp", "hdl", "prospero", "http", "imap", "https", "shttp", "rtsp", "rtsps", "rtspu", "sip",
    "sips", "mms", "sftp", "tel"]

def isListed (scheme : List Char) (schemes : List String) : Bool :=
  decide (String.ofList scheme ∈ schemes)

/-- The text before the first mark, and what comes after it. -/
def cut (mark : Char) (text : List Char) : List Char × List Char :=
  (text.takeWhile fun c => c ≠ mark, (text.dropWhile fun c => c ≠ mark).drop 1)

/-- The scheme in front of a URL, and the rest. -/
def splitScheme (url : List Char) : Option (List Char × List Char) :=
  let (head, rest) := cut ':' url
  if ':' ∈ url ∧ (head.head?.any Char.isAlpha) ∧
      head.all fun c => c.isAlphanum || decide (c ∈ ['+', '-', '.']) then
    some (head.map Char.toLower, rest)
  else none

/-- `_splitparams`: the parameters of the last segment. -/
def splitParams (path : List Char) : List Char × List Char :=
  let folder := (path.reverse.dropWhile fun c => c ≠ '/').reverse
  let (name, params) := cut ';' (path.reverse.takeWhile fun c => c ≠ '/').reverse
  (folder ++ name, params)

section

-- the network locations that `urlsplit` does not refuse
variable (validNetloc : List Char → Bool)

/-- `urlparse`; nothing when it raises. -/
def urlParse (url scheme : List Char) : Option Url :=
  let url := (url.dropWhile fun c => decide (c.toNat ≤ 32)).filter fun c =>
    decide (c ∉ ['\t', '\r', '\n'])
  let (scheme, url) := (splitScheme url).getD (scheme, url)
  let (netloc, url) :=
    if "//".toList.isPrefixOf url then (url.drop 2).span fun c => decide (c ∉ ['/', '?', '#'])
    else ([], url)
  if validNetloc netloc then
    let (url, fragment) := cut '#' url
    let (path, query) := cut '?' url
    let (path, params) := if isListed scheme usesParams then splitParams path else (path, [])
    some ⟨scheme, netloc, path, params, query, fragment⟩
  else none

/-- `urlunparse`. -/
def urlUnparse (url : Url) : List Char :=
  let path := if url.params = [] then url.path else url.path ++ ';' :: url.params
  let hier :=
    if url.netloc ≠ [] then
      "//".toList ++ url.netloc ++ (if path ≠ [] ∧ path.head? ≠ some '/' then '/' :: path else path)
    else if "//".toList.isPrefixOf path ∨ (url.scheme ≠ [] ∧ isListed url.scheme usesNetloc ∧
        (path = [] ∨ path.head? = some '/')) then "//".toList ++ path
    else path
  (if url.scheme = [] then [] else url.scheme ++ [':']) ++ hier ++
    (if url.query = [] then [] else '?' :: url.query) ++
    (if url.fragment = [] then [] else '#' :: url.fragment)

/-- The segments without empty ones in the middle. -/
def squeeze (segments : List (List Char)) : List (List Char) :=
  match segments with
  | [] => []
  | first :: rest =>
      match rest.getLast? with
      | none => [first]
      | some last => first :: (rest.dropLast.filter fun segment => decide (segment ≠ [])) ++ [last]

def dotSegments : List (List Char) := [['.'], ['.', '.']]

/-- Follow `.` and `..`. -/
def walk (segments : List (List Char)) : List (List Char) :=
  segments.foldl (fun resolved segment =>
    if segment = ['.', '.'] then resolved.dropLast
    else if segment = ['.'] then resolved
    else resolved ++ [segment]) []

/-- The path of a reference, from the folder of the base. -/
def joinPath (base path : List Char) : List Char :=
  let folder := base.splitOn '/'
  let folder := if folder.getLast?.any fun segment => decide (segment ≠ []) then folder.dropLast
    else folder
  let segments := if path.head? = some '/' then path.splitOn '/'
    else squeeze (folder ++ path.splitOn '/')
  let resolved := walk segments ++
    (if segments.getLast?.any fun segment => decide (segment ∈ dotSegments) then [[]] else [])
  let joined := ['/'].intercalate resolved
  if joined = [] then ['/'] else joined

/-- `urljoin`; nothing when it raises. -/
def urlJoin (base url : List Char) : Option (List Char) :=
  if base = [] then some url
  else if url = [] then some base
  else do
    let from_ ← urlParse validNetloc base []
    let parts ← urlParse validNetloc url from_.scheme
    let hasNetloc := isListed parts.scheme usesNetloc
    if parts.scheme ≠ from_.scheme ∨ isListed parts.scheme usesRelative = false then
      return url
    else if hasNetloc ∧ parts.netloc ≠ [] then
      return urlUnparse parts
    else
      let netloc := if hasNetloc then from_.netloc else parts.netloc
      if parts.path = [] ∧ parts.params = [] then
        let query := if parts.query = [] then from_.query else parts.query
        return urlUnparse
          { parts with netloc := netloc, path := from_.path, params := from_.params, query := query }
      else
        return urlUnparse { parts with netloc := netloc, path := joinPath from_.path parts.path }

end

example : urlJoin (fun _ => true) "https://tv.example/live/a/index.m3u8?x=1".toList
    "../b/./seg1.ts?y=2".toList = some "https://tv.example/live/b/seg1.ts?y=2".toList := by
  decide +kernel

example : urlJoin (fun _ => true) "https://tv.example/live/index.m3u8".toList
    "//cdn.example/seg1.ts".toList = some "https://cdn.example/seg1.ts".toList := by
  decide +kernel

end MovieApi.Text
