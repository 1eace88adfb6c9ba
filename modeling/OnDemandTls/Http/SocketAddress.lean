import OnDemandTls.Certificate.SubjectName
import OnDemandTls.FileTree

namespace OnDemandTls

/-!
# Socket addresses

Where a listener listens: an address of four or sixteen bytes, and a port.  The
long addresses are written with their longest run of zeros left out.
-/

/-- An address and a port. -/
structure SocketAddress where
  address : Bytes
  port : Nat
  deriving DecidableEq, Repr

namespace SocketAddress

/-- The two-byte numbers of an address. -/
def groups : Bytes → List Nat
  | high :: low :: rest => (high.toNat * 256 + low.toNat) :: groups rest
  | _ => []

/-- How many zeros a list begins with. -/
def leadingZeros (groups : List Nat) : Nat :=
  (groups.takeWhile (· == 0)).length

/-- The place and length of the longest run of zeros, the first one of several. -/
def longestGap
    (groups : List Nat) :
    Nat × Nat :=
  (List.range groups.length).foldl
    (fun best place =>
      let length := leadingZeros (groups.drop place)
      if best.2 < length then (place, length) else best)
    (0, 0)

/-- Numbers in hexadecimal digits between colons. -/
def hexadecimalGroups (groups : List Nat) : String :=
  ":".intercalate (groups.map (fun group => String.ofList (Nat.toDigits 16 group)))

/-- Bytes in decimal digits between dots. -/
def decimalBytes (bytes : Bytes) : String :=
  ".".intercalate (bytes.map (fun byte => toString byte.toNat))

/-- The text of an address. -/
def addressText (address : Bytes) : String :=
  if address.length = 4 then
    decimalBytes address
  else if (groups address).take 6 = [0, 0, 0, 0, 0, 0xFFFF] then
    "::ffff:" ++ decimalBytes (address.drop 12)
  else
    let (place, length) := longestGap (groups address)
    if length < 2 then
      hexadecimalGroups (groups address)
    else
      hexadecimalGroups ((groups address).take place) ++ "::" ++
        hexadecimalGroups ((groups address).drop (place + length))

/-- The text of an address and a port; brackets hold a long address. -/
def text (socket : SocketAddress) : String :=
  let address := addressText socket.address
  (if socket.address.length = 4 then address else "[" ++ address ++ "]") ++ ":" ++
    toString socket.port

/-- The address of this machine to itself. -/
def loopback : Bytes := [127, 0, 0, 1]

/-- The address of a host: bytes in decimal digits, hexadecimal numbers in
brackets or without, or the name of this machine. -/
def hostAddress? (host : String) : Option Bytes :=
  if host = "localhost" then
    some loopback
  else
    match host.toList with
    | '[' :: rest =>
        if rest.getLast? = some ']' then
          SubjectName.hexadecimalAddress? rest.dropLast
        else
          none
    | _ => SubjectName.address? host

/-- Whether an address stands for all addresses of this machine. -/
def isAny (address : Bytes) : Bool :=
  address.all (· == 0)

/-- Whether an address is one of this machine. -/
def isLocal (address : Bytes) : Bool :=
  address.head? = some 127 && address.length = 4 ||
    isAny address ||
    address = List.replicate 15 0 ++ [1]

/-- The first port that everybody may listen on. -/
def firstOpenPort : Nat := 1024

/-- Whether two listeners would be in each other's way; port zero stands for any
port that is free. -/
def clash (first second : SocketAddress) : Bool :=
  first.port == second.port && first.port != 0 &&
    (first.address == second.address || isAny first.address || isAny second.address)

/-- Whether somebody without privileges may listen, besides some listeners. -/
def mayListen
    (taken : List SocketAddress)
    (socket : SocketAddress) :
    Except OsError Unit :=
  if 0 < socket.port ∧ socket.port < firstOpenPort then
    .error .permissionDenied
  else if !isLocal socket.address then
    .error (.other "Cannot assign requested address (os error 99)")
  else if taken.any socket.clash then
    .error (.other "Address already in use (os error 98)")
  else
    .ok ()

end SocketAddress

end OnDemandTls
