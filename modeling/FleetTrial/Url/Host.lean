import FleetTrial.Text.Number
import FleetTrial.Url.Domain
import FleetTrial.Url.Fault
import FleetTrial.Url.Percent

/-!
# Hosts

The host of a URL is a domain, an IPv4 address in any of its numeric spellings, an IPv6 address
in brackets, or opaque text where the scheme gives hosts no meaning.
-/

namespace FleetTrial.Url

/-- The host that a URL names. -/
inductive Host
  | domain (name : List Char)
  | ipv4 (address : Nat)
  /-- Eight pieces of 16 bits. -/
  | ipv6 (pieces : List Nat)
  | opaqueText (text : List Char)
  deriving DecidableEq, Repr

/-- A number of an IPv4 address: hexadecimal after `0x`, octal after `0`, else decimal. -/
def ipv4Number? (part : List Char) : Option Nat :=
  let read (radix : Nat) (digits : List Char) : Option Nat :=
    digits.foldlM (fun value c =>
      match Text.hexDigit? c with
      | some d => if d < radix then some (value * radix + d) else none
      | none => none) 0
  match part with
  | [] => none
  | '0' :: 'x' :: rest => read 16 rest
  | '0' :: 'X' :: rest => read 16 rest
  | '0' :: c :: rest => read 8 (c :: rest)
  | digits => read 10 digits

/-- Whether the last part of a domain is a number, so that the domain is an IPv4 address. -/
def endsInNumber (domain : List Char) : Bool :=
  let parts := (domain.splitOn '.').reverse
  let last :=
    match parts with
    | [] :: rest => rest.head?
    | part :: _ => some part
    | [] => none
  match last with
  | some part => (part != [] && part.all Char.isDigit) || (ipv4Number? part).isSome
  | none => false

/-- Reads an IPv4 address of one to four numbers, the last of which fills the bytes left. -/
def readIpv4 (domain : List Char) : Except Fault Nat :=
  let parts := domain.splitOn '.'
  let parts := if parts.getLast? = some [] then parts.dropLast else parts
  if 4 < parts.length then .error .badIpv4
  else
    match parts.mapM ipv4Number? with
    | none => .error .badIpv4
    | some numbers =>
      match numbers.reverse with
      | [] => .error .badIpv4
      | last :: before =>
        let room := Nat.pow 256 (4 - before.length)
        if room ≤ last || before.any (255 < ·) then .error .badIpv4
        else .ok (before.reverse.foldl (fun a n => a * 256 + n) 0 * room + last)

/-- The value of a piece of at most four hexadecimal digits. -/
def ipv6Piece? (part : List Char) : Option Nat :=
  if part.isEmpty || 4 < part.length then none
  else part.foldlM (fun value c => (Text.hexDigit? c).map (value * 16 + ·)) 0

/-- The value of one byte of the IPv4 tail: decimal, without a leading zero. -/
def ipv6TailByte? (part : List Char) : Option Nat :=
  if part.isEmpty || !part.all Char.isDigit || (part.head? == some '0' && 1 < part.length) then none
  else
    match Text.readDigits 255 0 part with
    | .ok n => some n
    | .error _ => none

/-- The pieces of one side of the `::`; an IPv4 address may stand for the last two. -/
def ipv6Side? (mayEndInIpv4 : Bool) (side : List Char) : Option (List Nat) :=
  if side.isEmpty then some []
  else
    let parts := side.splitOn ':'
    match parts.getLast? with
    | some last =>
      if mayEndInIpv4 && last.contains '.' then do
        let high ← parts.dropLast.mapM ipv6Piece?
        match ← (last.splitOn '.').mapM ipv6TailByte? with
        | [a, b, c, d] => some (high ++ [a * 256 + b, c * 256 + d])
        | _ => none
      else parts.mapM ipv6Piece?
    | none => none

/-- The parts before and after the first `::`. -/
def splitAtGap : List Char → Option (List Char × List Char)
  | ':' :: ':' :: rest => some ([], rest)
  | c :: rest => (splitAtGap rest).map fun (before, after) => (c :: before, after)
  | [] => none

/-- Reads the eight pieces of an IPv6 address. -/
def readIpv6 (text : List Char) : Except Fault (List Nat) :=
  let pieces : Option (List Nat) :=
    match splitAtGap text with
    | none => do
      let all ← ipv6Side? true text
      if all.length = 8 then some all else none
    | some (before, after) => do
      let high ← ipv6Side? false before
      let low ← ipv6Side? true after
      if high.length + low.length < 8 then
        some (high ++ List.replicate (8 - high.length - low.length) 0 ++ low)
      else none
  match pieces with
  | some pieces => .ok pieces
  | none => .error .badIpv6

/-- Reads an IPv6 address with its brackets. -/
def readBracketed (text : List Char) : Except Fault Host :=
  if text.getLast? = some ']' then (readIpv6 (text.drop 1).dropLast).map .ipv6
  else .error .badIpv6

/-- The characters that no opaque host may hold. -/
def isForbiddenInHost (c : Char) : Bool :=
  ['\x00', '\t', '\n', '\r', ' ', '#', '/', ':', '<', '>', '?', '@', '[', '\\', ']', '^',
    '|'].contains c

/-- Reads the host of a special scheme. -/
def Host.read (text : List Char) : Except Fault Host :=
  if text.head? = some '[' then readBracketed text
  else
    match String.fromUTF8? ⟨(percentDecode text).toArray⟩ with
    | none => .error .badDomain
    | some decoded =>
      match domainToAscii decoded.toList with
      | none => .error .badDomain
      | some [] => .error .emptyHost
      | some name =>
        if endsInNumber name then (readIpv4 name).map .ipv4 else .ok (.domain name)

/-- Reads the host of a scheme that gives hosts no meaning. -/
def Host.readOpaque (text : List Char) : Except Fault Host :=
  if text.head? = some '[' then readBracketed text
  else if text.any isForbiddenInHost then .error .badHostCharacter
  else .ok (.opaqueText (percentEncode isControlOrWide text))

/-- The hexadecimal digits of a piece, without zeros in front. -/
def pieceText (piece : Nat) : String := String.ofList (Nat.toDigits 16 piece)

/-- The number of zeros at the front of a list. -/
def leadingZeros (pieces : List Nat) : Nat := (pieces.takeWhile (· == 0)).length

/-- Where the first of the longest runs of zeros begins, and its length. -/
def longestGap : List Nat → Nat × Nat
  | [] => (0, 0)
  | piece :: rest =>
    let (start, length) := longestGap rest
    if length ≤ leadingZeros (piece :: rest) then (0, leadingZeros (piece :: rest))
    else (start + 1, length)

/-- The text of an IPv6 address, the first of its longest runs of several zeros left out. -/
def ipv6Text (pieces : List Nat) : String :=
  let joined (part : List Nat) : String := ":".intercalate (part.map pieceText)
  let (start, length) := longestGap pieces
  if length < 2 then joined pieces
  else joined (pieces.take start) ++ "::" ++ joined (pieces.drop (start + length))

/-- The text of a host as a resolver takes it. -/
def Host.text : Host → String
  | .domain name => String.ofList name
  | .opaqueText text => String.ofList text
  | .ipv4 address =>
    ".".intercalate ([3, 2, 1, 0].map fun i => toString (address / Nat.pow 256 i % 256))
  | .ipv6 pieces => ipv6Text pieces

/-- The text of a host as a URL holds it. -/
def Host.urlText : Host → String
  | .ipv6 pieces => "[" ++ ipv6Text pieces ++ "]"
  | host => host.text

end FleetTrial.Url
