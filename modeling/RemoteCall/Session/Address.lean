/-!
# Addresses

An address is a host and a port with a colon between them. Which hosts exist is for the network to
say; a listener of a session can be bound to the hosts of the machine itself.
-/

namespace RemoteCall

/-- A host and a port. -/
structure Address where
  host : String
  port : Nat
  deriving DecidableEq, Repr

namespace Address

/-- The number that decimal digits spell; there has to be a digit. -/
def number? (digits : List Char) : Option Nat :=
  if digits ≠ [] ∧ digits.all Char.isDigit then
    some (digits.foldl (fun n c => 10 * n + (c.toNat - '0'.toNat)) 0)
  else none

/-- A port: a number of 16 bits, in front of which a plus sign may stand. -/
def port? (text : List Char) : Option Nat :=
  let number := match text with
    | '+' :: digits => number? digits
    | digits => number? digits
  number.filter (· < 65536)

/-- The parts before and after the last colon. -/
def splitLast (text : List Char) : Option (List Char × List Char) :=
  match text.reverse.span (· ≠ ':') with
  | (back, _ :: front) => some (front.reverse, back.reverse)
  | (_, []) => none

/-- Read an address. -/
def ofString (text : String) : Option Address :=
  match splitLast text.toList with
  | none => none
  | some (host, port) =>
    match host, port? port with
    | [], _ | _, none => none
    | host, some port => some ⟨String.ofList host, port⟩

/-- The hosts to which a listener can be bound. -/
def localHosts : List String := ["127.0.0.1", "0.0.0.0", "localhost", "[::1]", "[::]"]

/-- Whether a listener can be bound to the address. -/
def isLocal (address : Address) : Bool := localHosts.contains address.host

end Address

end RemoteCall
