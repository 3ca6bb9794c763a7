import RustEnrich.Net.IpAddr

/-!
# Textual socket addresses

The parser of `std::net::SocketAddr`: an address of either kind and a port, an IPv6
address in brackets and with a scope if need be.
-/

namespace RustEnrich

/-- An address with its port. -/
structure SocketAddr where
  ip : IpAddr
  port : UInt16
  /-- Zero for IPv4. -/
  scopeId : UInt32
  deriving DecidableEq

namespace SocketAddr

/-- A decimal number of any length behind a character, and below a bound. -/
def readNumberAfter (target : Char) (bound : Nat) (input : List Char) :
    Option (Nat × List Char) := do
  let rest ← IpAddr.readGivenChar target input
  let (number, rest) ← IpAddr.readNumber 10 rest.length true rest
  if number < bound then some (number, rest) else none

/-- An IPv4 address with its port. -/
def readV4 (input : List Char) : Option (SocketAddr × List Char) := do
  let ((one, two, three, four), rest) ← IpAddr.readIpv4 input
  let (port, rest) ← readNumberAfter ':' 65536 rest
  some ({ ip := .v4 one two three four, port := .ofNat port, scopeId := 0 }, rest)

/-- An IPv6 address in brackets, with its scope and port. -/
def readV6 (input : List Char) : Option (SocketAddr × List Char) := do
  let rest ← IpAddr.readGivenChar '[' input
  let (segments, rest) ← IpAddr.readIpv6 rest
  let (scopeId, rest) := (readNumberAfter '%' 4294967296 rest).getD (0, rest)
  let rest ← IpAddr.readGivenChar ']' rest
  let (port, rest) ← readNumberAfter ':' 65536 rest
  some ({ ip := .v6 segments, port := .ofNat port, scopeId := .ofNat scopeId }, rest)

/-- `str::parse::<SocketAddr>`. -/
def parse (text : String) : Option SocketAddr :=
  match (readV4 text.toList).or (readV6 text.toList) with
  | some (address, []) => some address
  | _ => none

example : parse "[::1%3]:08080" = some {
    ip := .v6 #v[0, 0, 0, 0, 0, 0, 0, 1], port := 8080, scopeId := 3 } := by
  decide +kernel

/-- A host name is no address. -/
example : parse "localhost:8080" = none := by decide +kernel

end SocketAddr

end RustEnrich
