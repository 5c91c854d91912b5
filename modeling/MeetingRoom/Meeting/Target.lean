import MeetingRoom.Meeting.Server
import MeetingRoom.Text.Blank

/-!
Targets: the part of an address that names something on a server, as it is sent to that server. An
address is first tidied: space around it and line breaks inside are dropped, a backslash is a slash.
Its segments are then resolved, where a dot stays and two dots go back, and what may not stand in
an address is written by its bytes.
-/

namespace MeetingRoom.Meeting

/-- The segments of a path and what is asked of it, both as they are sent. -/
structure Target where
  segments : List (List Char)
  query : Option (List Char)
  deriving DecidableEq

namespace Target

open Text (trimWhile upperHexDigit)

def isSpaceOrControl (char : Char) : Bool := char.toNat ≤ 32

def isBreak (char : Char) : Bool := char = '\t' || char = '\n' || char = '\r'

def isSlash (char : Char) : Bool := char = '/' || char = '\\'

def isMark (char : Char) : Bool := char = '?' || char = '#'

/-- The address without what does not count in it. -/
def tidy (address : List Char) : List Char :=
  (trimWhile isSpaceOrControl address).filter (!isBreak ·)

/-- A character by its bytes, each after a percent sign. -/
def byBytes (char : Char) : List Char :=
  (String.utf8EncodeChar char).flatMap fun byte =>
    ['%', upperHexDigit (byte.toNat / 16), upperHexDigit (byte.toNat % 16)]

/-- Controls, space and whatever is beyond ASCII never stand in a target. -/
def isForeign (char : Char) : Bool := char.toNat ≤ 32 || 127 ≤ char.toNat

def encodeSegment (segment : List Char) : List Char :=
  segment.flatMap fun char =>
    if isForeign char || ['"', '<', '>', '\x60', '\x7b', '\x7d'].contains char then byBytes char
    else [char]

def encodeQuery (query : List Char) : List Char :=
  query.flatMap fun char =>
    if isForeign char || ['"', '<', '>', '\''].contains char then byBytes char else [char]

/-- A segment with every written dot read as a dot. -/
def readDots : List Char → List Char
  | '%' :: '2' :: mark :: rest =>
      if mark = 'e' ∨ mark = 'E' then '.' :: readDots rest
      else '%' :: '2' :: mark :: readDots rest
  | char :: rest => char :: readDots rest
  | [] => []

def staysHere (segment : List Char) : Bool := readDots segment = ['.']

def goesBack (segment : List Char) : Bool := readDots segment = ['.', '.']

/-- Takes the segments one by one, with those settled so far held last first. Staying or going back
at the end leaves an empty segment. -/
def resolve (settled : List (List Char)) : List (List Char) → List (List Char)
  | [] => settled.reverse
  | [segment] =>
      if goesBack segment then ([] :: settled.tail).reverse
      else if staysHere segment then ([] :: settled).reverse
      else (encodeSegment segment :: settled).reverse
  | segment :: rest =>
      if goesBack segment then resolve settled.tail rest
      else if staysHere segment then resolve settled rest
      else resolve (encodeSegment segment :: settled) rest

/-- A path starts with a slash, which is no part of its first segment. -/
def ofPath (path : List Char) : List (List Char) :=
  match path with
  | [] => [[]]
  | _ :: rest => resolve [] (rest.splitOnP isSlash)

def isWebScheme (scheme : List Char) : Bool :=
  let lowered := scheme.map Char.toLower
  lowered = "http".toList || lowered = "https".toList

/-- The target of an address, if a request can be made of it. -/
def ofAddress? (address : String) : Option Target :=
  let chars := tidy address.toList
  let scheme := chars.takeWhile (· ≠ ':')
  match chars.drop scheme.length with
  | [] => none
  | _ :: behind =>
      let place := behind.dropWhile isSlash
      let server := place.takeWhile fun char => !isSlash char && !isMark char
      let rest := place.drop server.length
      let path := rest.takeWhile (!isMark ·)
      let query? :=
        match rest.drop path.length with
        | '?' :: query => some (encodeQuery (query.takeWhile (· ≠ '#')))
        | _ => none
      if isWebScheme scheme && Server.accepts server then
        some { segments := ofPath path, query := query? }
      else none

def text (target : Target) : String :=
  String.ofList
    (target.segments.flatMap ('/' :: ·) ++
      match target.query with
      | some query => '?' :: query
      | none => [])

end Target

end MeetingRoom.Meeting
