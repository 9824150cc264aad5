import RegionAudit.Url.Host

/-!
Addresses of what is asked for. Every spelling of an address is read into its parts, and the parts have one
written form. Credentials are no part of an address.
-/
namespace RegionAudit

/-- What an address names at its host: a way down from the root, or any text where there is no host. -/
inductive Url.Path
  | segments (ss : List (List Char))
  | text (cs : List Char)
  deriving DecidableEq, Repr

structure Url where
  scheme : List Char
  /-- The host, unless the address has none; it is the empty name where a file is meant. -/
  host : Option Url.Host
  /-- The port, unless it is the usual one of the scheme. -/
  port : Option Nat
  path : Url.Path
  query : Option (List Char)
  fragment : Option (List Char)
  deriving DecidableEq, Repr

namespace Url

/-- The usual port of each scheme that is well known, if it has one. -/
def specialSchemes : List (List Char × Option Nat) :=
  [("http".toList,some 80),("https".toList,some 443),("ws".toList,some 80),
    ("wss".toList,some 443),("ftp".toList,some 21),("file".toList,none)]

def isSpecialScheme (scheme : List Char) : Bool :=
  specialSchemes.any (·.1 = scheme)

def usualPort? (scheme : List Char) : Option Nat :=
  (specialSchemes.lookup scheme).join

def isWeb (u : Url) : Bool :=
  u.scheme = "http".toList || u.scheme = "https".toList

/-- The text without blanks and controls at either end, and without tabs and line ends. -/
def cleaned (cs : List Char) : List Char :=
  let inner := ((cs.dropWhile (· ≤ ' ')).reverse.dropWhile (· ≤ ' ')).reverse
  inner.filter fun c => !(c = '\t' || c = '\n' || c = '\r')

def isSchemeChar (c : Char) : Bool :=
  c.isAlphanum || c = '+' || c = '-' || c = '.'

def scheme? (cs : List Char) : Option (List Char × List Char) :=
  match cut (!isSchemeChar ·) cs with
  | (name@(c :: _),some rest) =>
    if c.isAlpha && cs[name.length]? = some ':' then some (name.map Char.toLower,rest) else none
  | _ => none

def isSlash (isSpecial : Bool) (c : Char) : Bool :=
  c = '/' || (isSpecial && c = '\\')

/-- A segment in small letters whose dots are not written in digits. -/
def plainDots : List Char → List Char
  | '%' :: '2' :: e :: rest =>
    if e.toLower = 'e' then '.' :: plainDots rest else '%' :: plainDots ('2' :: e :: rest)
  | c :: rest => c :: plainDots rest
  | [] => []

/-- Goes down some segments: one dot stays and two dots go up. -/
def descend (start : List (List Char)) : List (List Char) → List (List Char)
  | [] => start
  | [last] =>
    if plainDots last = ['.','.'] then start.dropLast ++ [[]]
    else if plainDots last = ['.'] then start ++ [[]]
    else start ++ [percentEncode isBadInPath last]
  | segment :: rest =>
    if plainDots segment = ['.','.'] then descend start.dropLast rest
    else if plainDots segment = ['.'] then descend start rest
    else descend (start ++ [percentEncode isBadInPath segment]) rest

def fromRoot (isSpecial : Bool) (cs : List Char) : List (List Char) :=
  match cs with
  | [] => if isSpecial then [[]] else []
  | c :: rest => descend [] (splitAt (isSlash isSpecial) (if isSlash isSpecial c then rest else cs))

/-- The port that digits name; no digits name the usual one. -/
def port? (scheme digits : List Char) : Option (Option Nat) :=
  if digits.isEmpty then some none
  else if digits.all Char.isDigit then do
    let n ← Text.number? 10 digits
    if n < UInt16.size then some (if usualPort? scheme = some n then none else some n) else none
  else none

/-- The host and the port of a text: the port follows the first colon outside brackets. -/
def hostAndPort (cs : List Char) : List Char × Option (List Char) :=
  if cs.head? = some '[' then
    match cut (· = ']') cs with
    | (front,some back) => (front ++ ']' :: (cut (· = ':') back).1,(cut (· = ':') back).2)
    | (front,none) => (front,none)
  else cut (· = ':') cs

def afterLast (p : Char → Bool) (cs : List Char) : List Char :=
  (cs.reverse.takeWhile (!p ·)).reverse

/-- What has been found so far of an address, and what is left of its text: the path and the query. -/
structure Front where
  scheme : List Char
  host : Option Host
  port : Option Nat
  rest : List Char

def front? (scheme cs : List Char) : Option Front := do
  let isSpecial := isSpecialScheme scheme
  let stops := fun c => isSlash isSpecial c || c = '?'
  let authority := afterLast (· = '@') (cs.takeWhile (!stops ·))
  let (hostText,portText) := hostAndPort authority
  let host ← if isSpecial then Host.special? hostText else Host.other? hostText
  let port ← port? scheme (portText.getD [])
  if hostText.isEmpty && (portText.isSome || authority.length < (cs.takeWhile (!stops ·)).length) then none
  else some ⟨scheme,host,port,cs.dropWhile (!stops ·)⟩

def fileFront? (cs : List Char) : Option Front := do
  let stops := fun c => isSlash true c || c = '?'
  match cs with
  | a :: b :: rest =>
    if isSlash true a && isSlash true b then
      let name := rest.takeWhile (!stops ·)
      let host ← if name.isEmpty then some (Host.name []) else Host.special? name
      some ⟨"file".toList,if host = Host.name "localhost".toList then Host.name [] else host,none,
        rest.dropWhile (!stops ·)⟩
    else some ⟨"file".toList,Host.name [],none,cs⟩
  | _ => some ⟨"file".toList,Host.name [],none,cs⟩

def queryText (isSpecial : Bool) (query : Option (List Char)) : Option (List Char) :=
  query.map (percentEncode (isBadInQuery isSpecial))

def fragmentText (fragment : Option (List Char)) : Option (List Char) :=
  fragment.map (percentEncode isBadInFragment)

def ofFront (f : Front) (fragment : Option (List Char)) : Url :=
  let isSpecial := isSpecialScheme f.scheme
  let (path,query) := cut (· = '?') f.rest
  { scheme := f.scheme
    host := f.host
    port := f.port
    path := .segments (fromRoot isSpecial path)
    query := queryText isSpecial query
    fragment := fragmentText fragment }

def ofScheme? (scheme rest : List Char) (fragment : Option (List Char)) : Option Url :=
  if scheme = "file".toList then (fileFront? rest).map (ofFront · fragment)
  else if isSpecialScheme scheme then
    (front? scheme (rest.dropWhile (isSlash true))).map (ofFront · fragment)
  else
    match rest with
    | '/' :: '/' :: authority => (front? scheme authority).map (ofFront · fragment)
    | '/' :: _ => some (ofFront ⟨scheme,none,none,rest⟩ fragment)
    | _ =>
      let (text,query) := cut (· = '?') rest
      some
        { scheme
          host := none
          port := none
          path := .text (percentEncode isOutside text)
          query := queryText false query
          fragment := fragmentText fragment }

/-- The address that a text is by itself. -/
def ofText? (text : List Char) : Option Url := do
  let (main,fragment) := cut (· = '#') (cleaned text)
  let (scheme,rest) ← scheme? main
  ofScheme? scheme rest fragment

def Path.parent : Path → List (List Char)
  | .segments ss => ss.dropLast
  | .text _ => []

/-- The address that a text is in a page at another address of a well-known scheme. -/
def relative? (base : Url) (text : List Char) (fragment : Option (List Char)) : Option Url :=
  let isSpecial := isSpecialScheme base.scheme
  match text with
  | [] => some { base with fragment := fragmentText fragment }
  | '?' :: query =>
    some { base with query := queryText isSpecial (some query), fragment := fragmentText fragment }
  | c :: rest =>
    if isSlash isSpecial c then
      match rest with
      | d :: _ =>
        if isSlash isSpecial d then ofScheme? base.scheme text fragment
        else some (ofFront ⟨base.scheme,base.host,base.port,text⟩ fragment)
      | [] => some (ofFront ⟨base.scheme,base.host,base.port,text⟩ fragment)
    else
      let (path,query) := cut (· = '?') text
      some { base with
        path := .segments (descend base.path.parent (splitAt (isSlash isSpecial) path))
        query := queryText isSpecial query
        fragment := fragmentText fragment }

def join? (base : Url) (text : List Char) : Option Url :=
  let (main,fragment) := cut (· = '#') (cleaned text)
  match scheme? main with
  | some (scheme,rest) =>
    if isSpecialScheme scheme && scheme = base.scheme && !("//".toList.isPrefixOf rest) then
      relative? base rest fragment
    else ofScheme? scheme rest fragment
  | none => relative? base main fragment

def pathText (u : Url) : List Char :=
  match u.path with
  | .text cs => cs
  | .segments ss =>
    let way := ss.flatMap ('/' :: ·)
    if u.host.isNone && 1 < ss.length && ss.head? = some [] then '/' :: '.' :: way else way

def originText (u : Url) : List Char :=
  u.scheme ++ ':' ::
    match u.host with
    | none => []
    | some host =>
      '/' :: '/' :: host.text ++
        match u.port with
        | none => []
        | some n => ':' :: Nat.toDigits 10 n

def tailText (mark : Char) (part : Option (List Char)) : List Char :=
  match part with
  | none => []
  | some cs => mark :: cs

/-- An address as it is sent, without its fragment. -/
def sentText (u : Url) : List Char :=
  u.originText ++ u.pathText ++ tailText '?' u.query

def text (u : Url) : String :=
  String.ofList (u.sentText ++ tailText '#' u.fragment)

end Url

end RegionAudit
