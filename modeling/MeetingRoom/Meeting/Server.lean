import MeetingRoom.Text.Numeral

/-!
Servers as an address names them: perhaps a user, then a host, then perhaps a number. A server is
only accepted or not. A host that ends in a number has to be four bytes, which may be written with
fewer and larger numbers, and in three bases.
-/

namespace MeetingRoom.Meeting.Server

open Text (hexDigit?)

/-- The number that digits write in a base, if all of them belong to it. -/
def inBase? (base : Nat) (digits : List Char) : Option Nat :=
  digits.foldlM (fun number char =>
    (hexDigit? char).bind fun digit =>
      if digit < base then some (number * base + digit) else none) 0

/-- A leading zero asks for base eight, and a leading zero with an x for base sixteen. -/
def part? : List Char → Option Nat
  | [] => none
  | '0' :: 'x' :: digits => inBase? 16 digits
  | '0' :: 'X' :: digits => inBase? 16 digits
  | '0' :: digits => inBase? 8 digits
  | digits => inBase? 10 digits

/-- The parts of a host. One dot at the end does not count. -/
def partsOf (host : List Char) : List (List Char) :=
  let parts := host.splitOn '.'
  if parts.length > 1 ∧ parts.getLast? = some [] then parts.dropLast else parts

def endsInNumber (host : List Char) : Bool :=
  match (partsOf host).getLast? with
  | some [] => false
  | some part => part.all Char.isDigit || (part? part).isSome
  | none => false

/-- All parts but the last are bytes, and the last one fills up what is left of four. -/
def isFourBytes (host : List Char) : Bool :=
  match (partsOf host).mapM part? with
  | none => false
  | some parts =>
      parts.length ≤ 4 && parts.dropLast.all (· < 256) &&
        parts.getLastD 0 < Nat.pow 256 (5 - parts.length)

/-- Signs that no host can have. -/
def isForbidden (char : Char) : Bool :=
  char.toNat ≤ 32 || char.toNat = 127 ||
    ['#', '/', '<', '>', '?', '@', '\\', '^', '|', '%', ':', '[', ']'].contains char

/-- A character written by its number counts as that character. -/
def readBytes : List Char → List Char
  | '%' :: first :: second :: rest =>
      match hexDigit? first, hexDigit? second with
      | some high, some low => Char.ofNat (high * 16 + low) :: readBytes rest
      | _, _ => '%' :: readBytes (first :: second :: rest)
  | char :: rest => char :: readBytes rest
  | [] => []

def acceptsHost (host : List Char) : Bool :=
  let read := readBytes host
  !read.isEmpty && !read.any isForbidden && (!endsInNumber read || isFourBytes read)

/-- Hosts in square brackets are written in digits of base sixteen, colons and dots. -/
def acceptsBracketed (host : List Char) : Bool :=
  !host.isEmpty && host.all fun char => (hexDigit? char).isSome || char = ':' || char = '.'

/-- No number, or one of sixteen bits. -/
def acceptsNumber (digits : List Char) : Bool :=
  digits.all Char.isDigit && (inBase? 10 digits).any (· < 65536)

/-- What is behind the last sign of a kind, or everything. -/
def afterLast (sign : Char) (chars : List Char) : List Char :=
  (chars.reverse.takeWhile (· ≠ sign)).reverse

def accepts (server : List Char) : Bool :=
  match afterLast '@' server with
  | '[' :: rest =>
      match rest.dropWhile (· ≠ ']') with
      | _ :: ':' :: digits =>
          acceptsBracketed (rest.takeWhile (· ≠ ']')) && acceptsNumber digits
      | [_] => acceptsBracketed (rest.takeWhile (· ≠ ']'))
      | _ => false
  | place =>
      acceptsHost (place.takeWhile (· ≠ ':')) && acceptsNumber ((place.dropWhile (· ≠ ':')).drop 1)

end MeetingRoom.Meeting.Server
