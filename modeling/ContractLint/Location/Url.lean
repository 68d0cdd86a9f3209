import ContractLint.Location.Host
import ContractLint.Location.Path

namespace ContractLint

open Text

inductive UrlPath where
  | segments (ss : List String)
  | plain (text : String)
  deriving DecidableEq, Repr, Inhabited

def UrlPath.text : UrlPath → String
  | .segments ss => String.join (ss.map ("/" ++ ·))
  | .plain text => text

structure Url where
  scheme : String
  authority : Option String
  host : String
  path : UrlPath
  query : Option String
  fragment : Option String
  deriving DecidableEq, Repr, Inhabited

namespace Url

/-- Without an authority, a path that starts with two slashes needs `/.` before it. -/
def pathGuard (u : Url) : String :=
  match u.authority, u.path with
  | none, .segments ("" :: _ :: _) => "/."
  | _, _ => ""

def text (u : Url) : String :=
  u.scheme ++ ":" ++ (u.authority.map ("//" ++ ·)).getD "" ++ u.pathGuard ++ u.path.text
    ++ (u.query.map ("?" ++ ·)).getD "" ++ (u.fragment.map ("#" ++ ·)).getD ""

section Parsing

def isAlpha (c : Char) : Bool :=
  ('a' ≤ c && c ≤ 'z') || ('A' ≤ c && c ≤ 'Z')

def isSchemeChar (c : Char) : Bool :=
  isAlpha c || ('0' ≤ c && c ≤ '9') || c = '+' || c = '-' || c = '.'

def isGap (c : Char) : Bool :=
  c = '\t' || c = '\n' || c = '\r'

def skipGaps (cs : List Char) : List Char :=
  cs.dropWhile isGap

def solid (cs : List Char) : List Char :=
  cs.filter fun c => !isGap c

def trimEnds (cs : List Char) : List Char :=
  let outer := fun (c : Char) => decide (c.toNat ≤ 0x20)
  ((cs.dropWhile outer).reverse.dropWhile outer).reverse

def schemeFrom (name : List Char) : List Char → Option (String × List Char)
  | [] => none
  | ':' :: rest => some (String.ofList name, rest)
  | c :: cs =>
      if isGap c then schemeFrom name cs
      else if isSchemeChar c then schemeFrom (name ++ [c.toLower]) cs
      else none

def scheme? (cs : List Char) : Option (String × List Char) :=
  match skipGaps cs with
  | [] => none
  | c :: cs => if isAlpha c then schemeFrom [c.toLower] cs else none

def cutAt (mark : Char) (cs : List Char) : List Char × Option (List Char) :=
  match cs.dropWhile (· != mark) with
  | [] => (cs, none)
  | _ :: rest => (cs.takeWhile (· != mark), some rest)

def defaultPort? (scheme : String) : Option Nat :=
  match scheme with
  | "http" | "ws" => some 80
  | "https" | "wss" => some 443
  | "ftp" => some 21
  | _ => none

def isWeb (scheme : String) : Bool :=
  (defaultPort? scheme).isSome

def isSpecial (scheme : String) : Bool :=
  isWeb scheme || scheme = "file"

def straighten (scheme : String) (cs : List Char) : List Char :=
  if isSpecial scheme then cs.map fun c => if c = '\\' then '/' else c else cs

section Segments

def isDriveMark (c : Char) : Bool :=
  c = ':' || c = '|'

def isDriveLetter : List Char → Bool
  | [c, mark] => isAlpha c && isDriveMark mark
  | _ => false

def holdsDrive : List Char → Bool
  | c :: mark :: rest => isAlpha c && isDriveMark mark && rest.head?.all (· = '\\')
  | _ => false

def plainDots : List Char → List Char
  | '%' :: '2' :: 'e' :: cs | '%' :: '2' :: 'E' :: cs => '.' :: plainDots cs
  | c :: cs => c :: plainDots cs
  | [] => []

def isSingleDot (cs : List Char) : Bool :=
  plainDots cs = ['.']

def isDoubleDot (cs : List Char) : Bool :=
  plainDots cs = ['.', '.']

def shorten (done : List String) : List String :=
  if done.getLast?.any fun s => holdsDrive s.toList then done else done.dropLast

def written (cs : List Char) : String :=
  Percent.encodeText Percent.path (solid cs)

def behindGap (count : Nat) : List Char → Option (List Char)
  | [] => none
  | c :: cs =>
      if isGap c then
        if count = 0 then
          match skipGaps cs with
          | [] => none
          | rest => some rest
        else behindGap count cs
      else
        match count with
        | 0 => none
        | n + 1 => behindGap n cs

def partedDrive? (segment : List Char) : Option (String × String) :=
  match solid segment with
  | c :: ':' :: _ =>
      if isAlpha c then
        (behindGap 2 segment).map fun rest => (String.ofList [c, ':'], written rest)
      else none
  | _ => none

structure Trail where
  done : List String := []
  onDrive : Bool := false

def Trail.add (t : Trail) (isFile : Bool) (segment : List Char) (isLast : Bool) : Trail :=
  let plain := solid segment
  let close := fun (done : List String) =>
    { t with done := if isLast then done ++ [""] else done }
  match if isFile && t.done.isEmpty then partedDrive? segment else none with
  | some (drive, rest) => { t with done := [drive, rest] }
  | none =>
      if isDoubleDot plain then close (shorten t.done)
      else if isSingleDot plain then close t.done
      else if isFile && t.done.isEmpty && isDriveLetter plain then
        { done := [String.ofList (plain.take 1 ++ [':'])], onDrive := true }
      else { t with done := t.done ++ [written segment] }

def Trail.addAll (t : Trail) (isFile : Bool) : List (List Char) → Trail
  | [] => t
  | [segment] => t.add isFile segment true
  | segment :: rest => (t.add isFile segment false).addAll isFile rest

def trail (isFile : Bool) (cs : List Char) : Trail :=
  Trail.addAll {} isFile (partsAt '/' cs)

def oneSlash : List String → List String
  | "" :: s :: ss => oneSlash (s :: ss)
  | ss => ss

def segmentsOf (cs : List Char) : UrlPath :=
  .segments (trail false cs).done

end Segments

section Authorities

def behindSlash? (cs : List Char) : Option (List Char) :=
  match skipGaps cs with
  | '/' :: rest => some rest
  | _ => none

def beforeSlash (cs : List Char) : List Char × List Char :=
  (solid (cs.takeWhile (· != '/')), cs.dropWhile (· != '/'))

def userHost (cs : List Char) : Option (List Char) × List Char :=
  let back := cs.reverse
  match back.dropWhile (· != '@') with
  | _ :: front => (some front.reverse, (back.takeWhile (· != '@')).reverse)
  | [] => (none, cs)

def userText (cs : List Char) : String :=
  let (user, password) := cutAt ':' cs
  let encode := Percent.encodeText Percent.userinfo
  match password with
  | none | some [] => if user = [] then "" else encode user ++ "@"
  | some p => encode user ++ ":" ++ encode p ++ "@"

def hostPort (inside : Bool) : List Char → List Char × Option (List Char)
  | [] => ([], none)
  | c :: cs =>
      if c = ':' && !inside then ([], some cs)
      else
        let (host, port) := hostPort (if c = '[' then true else inside && c != ']') cs
        (c :: host, port)

def port? (scheme : String) (cs : List Char) : Option (String × List Char) :=
  let isDigit := fun (c : Char) => '0' ≤ c && c ≤ '9'
  let rest := cs.dropWhile isDigit
  if rest.head?.all (· = '\\') then
    match cs.takeWhile isDigit with
    | [] => some ("", rest)
    | ds => do
        let n ← Host.numberIn 10 0 ds
        if 65535 < n then none
        else some (if defaultPort? scheme = some n then "" else ":" ++ toString n, rest)
  else none

structure Authority where
  text : String
  host : String
  rest : List Char

def authority? (scheme : String) (cs : List Char) (isEnd : Bool) : Option Authority := do
  let (user, rest) := userHost cs
  if user = some [] && rest = [] && !isEnd then none
  else
    let user := (user.map userText).getD ""
    let (host, port) := hostPort false rest
    let name ← if isWeb scheme then Host.name? host else Host.kept? host
    if name = "" && (user != "" || port.isSome) then none
    else
      let (port, rest) ← port? scheme (port.getD [])
      some { text := user ++ name ++ port, host := name, rest }

end Authorities

def bare (scheme : String) (authority : Option String) (host : String) (path : UrlPath) : Url where
  scheme := scheme
  authority := authority
  host := host
  path := path
  query := none
  fragment := none

def fileHost? (cs : List Char) : Option String := do
  if cs = [] then some ""
  else
    let name ← Host.name? cs
    some (if name = "localhost" then "" else name)

def fileUrl (host : String) (path : Trail) : Url :=
  bare "file" (some host) host (.segments (oneSlash path.done))

def file? (cs : List Char) : Option Url :=
  match behindSlash? cs with
  | none => some (fileUrl "" (trail true cs))
  | some below =>
      match behindSlash? below with
      | none => some (fileUrl "" (trail true below))
      | some rest =>
          let (host, path) := beforeSlash rest
          if isDriveLetter host then some (fileUrl "" (trail true rest))
          else do
            let name ← fileHost? host
            if name = "" then some (fileUrl "" (trail true path))
            else
              let path := trail true (path.drop 1)
              some (fileUrl (if path.onDrive then "" else name) path)

def web? (scheme : String) (cs : List Char) (isEnd : Bool) : Option Url := do
  let (authority, path) := beforeSlash (cs.dropWhile fun c => isGap c || c = '/')
  let a ← authority? scheme authority (isEnd && path = [])
  some (bare scheme (some a.text) a.host (segmentsOf (a.rest ++ path.drop 1)))

def other? (scheme : String) (cs : List Char) (isEnd : Bool) : Option Url :=
  match behindSlash? cs with
  | none =>
      some (bare scheme none "" (.plain (Percent.encodeText Percent.controls (solid cs))))
  | some below =>
      match behindSlash? below with
      | none => some (bare scheme none "" (segmentsOf below))
      | some rest => do
          let (authority, path) := beforeSlash rest
          let a ← authority? scheme authority (isEnd && path = [])
          let path := match a.rest, path with
            | [], [] => UrlPath.segments []
            | [], _ :: below => segmentsOf below
            | start, path => segmentsOf (start ++ path)
          some (bare scheme (some a.text) a.host path)

def parse? (s : String) : Option Url := do
  let (scheme, rest) ← scheme? (trimEnds s.toList)
  let (rest, fragment) := cutAt '#' rest
  let (rest, query) := cutAt '?' rest
  let isEnd := query.isNone && fragment.isNone
  let rest := straighten scheme rest
  let u ← if scheme = "file" then file? rest
    else if isWeb scheme then web? scheme rest isEnd
    else other? scheme rest isEnd
  let querySet := if isSpecial scheme then Percent.specialQuery else Percent.query
  some { u with
    query := query.map fun q => Percent.encodeText querySet (solid q)
    fragment := fragment.map fun f => Percent.encodeText Percent.fragment (solid f) }

end Parsing

section Files

def closeDrive (bytes : Bytes) : Bytes :=
  match bytes.reverse with
  | mark :: letter :: _ :: _ =>
      if isAlpha (Char.ofNat letter.toNat) && (mark = 0x3A || mark = 0x7C) then
        bytes ++ [Path.slash]
      else bytes
  | _ => bytes

def filePath? (u : Url) : Option Path :=
  match u.path with
  | .plain _ | .segments [] => none
  | .segments ss =>
      if u.host = "" || u.host = "localhost" then
        some ⟨closeDrive (ss.flatMap fun s => Path.slash :: Percent.decode (Bytes.ofString s))⟩
      else none

def ofFilePath? (p : Path) : Option Url :=
  if p.isAbsolute then
    let segments := p.components.map (Percent.encode Percent.segment)
    some {
      scheme := "file", authority := some "", host := ""
      path := .segments (if segments.isEmpty then [""] else segments)
      query := none, fragment := none }
  else none

def location (u : Url) : Path :=
  u.filePath?.getD (Path.ofText u.path.text)

end Files

end Url

end ContractLint
