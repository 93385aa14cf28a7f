import DualToken.Net.IpAddress

/-!
# Addresses to listen at

An Internet address and the number of a socket on its machine. An address of version 6 stands in
brackets and may name the interface that it belongs to by a number behind a percent sign.
-/

set_option autoImplicit false

namespace DualToken

/-- An Internet address with a socket. -/
inductive SocketAddress where
  /-- Version 4. -/
  | v4 (address : Ipv4) (socket : UInt16)
  /-- Version 6, with the number of an interface or zero. -/
  | v6 (address : Ipv6) (interface : UInt32) (socket : UInt16)
  deriving DecidableEq, Repr

namespace SocketAddress

/-- Reads the number of a socket. -/
def readSocket? (digits : List Char) : Option UInt16 :=
  ((Text.readNatural? digits).filter (· < UInt16.size)).map UInt16.ofNat

/-- Reads the number of an interface. -/
def readInterface? (digits : List Char) : Option UInt32 :=
  ((Text.readNatural? digits).filter (· < UInt32.size)).map UInt32.ofNat

/-- Reads what stands in the brackets. -/
def readInner? (characters : List Char) : Option (Ipv6 × UInt32) := do
  let address ← Ipv6.read? (characters.takeWhile (· ≠ '%'))
  match characters.dropWhile (· ≠ '%') with
  | [] => return (address, 0)
  | _ :: digits => return (address, ← readInterface? digits)

/-- Reads an address in brackets with its socket. -/
def readBracketed? (characters : List Char) : Option SocketAddress := do
  let (address, interface) ← readInner? (characters.takeWhile (· ≠ ']'))
  match characters.dropWhile (· ≠ ']') with
  | ']' :: ':' :: socket => return v6 address interface (← readSocket? socket)
  | _ => none

/-- Reads an address with its socket. -/
def read? (text : String) : Option SocketAddress :=
  match text.toList with
  | '[' :: rest => readBracketed? rest
  | characters => do
    let address ← Ipv4.read? (characters.takeWhile (· ≠ ':'))
    match characters.dropWhile (· ≠ ':') with
    | ':' :: socket => return v4 address (← readSocket? socket)
    | _ => none

/-- Writes an address with its socket, in canonical form. -/
def write : SocketAddress → List Char
  | v4 address socket => address.write ++ ':' :: Text.writeNatural socket.toNat
  | v6 address interface socket =>
    let scope := if interface = 0 then [] else '%' :: Text.writeNatural interface.toNat
    '[' :: Ipv6.write address ++ scope ++ "]:".toList ++ Text.writeNatural socket.toNat

/-- An address with its socket as text. -/
def text (address : SocketAddress) : String :=
  String.ofList address.write

/-- The first address of this machine that other machines cannot reach. -/
def loopback (socket : UInt16) : SocketAddress :=
  v4 #v[127, 0, 0, 1] socket

end SocketAddress

end DualToken
