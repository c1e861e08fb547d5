/-
This file puts envelopes into datagrams. A datagram is a header of eight bytes, which lets a
receiver turn away foreign and cut traffic before it looks at the body, and the JSON form of the
envelope. Bytes after the announced length are ignored, and no datagram exceeds 1200 bytes.
-/

import ServiceDiscovery.Wire.Envelope

namespace ServiceDiscovery

/-- Why an envelope has no datagram, or a datagram no envelope. -/
inductive WireError where
  | badMagic (found : Bytes)
  | unsupportedVersion (found : UInt8)
  | unknownKind (found : UInt8)
  | truncated (expected actual : Nat)
  | kindMismatch (header content : Kind)
  | tooLarge (size : Nat)
  | invalidEnvelope
  deriving DecidableEq, Repr

namespace Wire

/-- The mark at the start of every datagram. -/
def magic : Bytes := [0x43, 0x41, 0x49, 0x52]

/-- The version of the format. -/
def formatVersion : UInt8 := 1

/-- The largest datagram that is sent or accepted. -/
def maxDatagram : Nat := 1200

def headerLength : Nat := 8

/-- The address that requests are sent to, which every node on the link listens on. -/
def multicastAddress : String := "ff02::1"

/-- The port that responders listen on unless told otherwise. -/
def defaultPort : Nat := 9100

def kindCode : Kind → UInt8
  | .request => 1
  | .reply => 2

def kindOfCode? (code : UInt8) : Option Kind :=
  if code = 1 then some .request else if code = 2 then some .reply else none

/-- The header of a body: mark, version, kind, and the length with its low byte first. -/
def header (kind : Kind) (length : Nat) : Bytes :=
  magic ++ [formatVersion, kindCode kind, UInt8.ofNat length, UInt8.ofNat (length / 256)]

/-- The body that carries an envelope. -/
def body (envelope : Envelope) : Bytes :=
  envelope.toJson.toBytes

/-- The datagram of an envelope, unless it would be too large. -/
def encode (envelope : Envelope) : Except WireError Bytes :=
  if maxDatagram < headerLength + (body envelope).length then
    .error (.tooLarge (headerLength + (body envelope).length))
  else
    .ok (header envelope.content.kind (body envelope).length ++ body envelope)

/-- The envelope in a body, if its content is of the kind that the header announced. -/
def decodeBody (kind : Kind) (bytes : Bytes) : Except WireError Envelope :=
  match (Json.ofBytes bytes).decode Envelope.ofJson with
  | .error _ => .error .invalidEnvelope
  | .ok envelope =>
    if envelope.content.kind = kind then .ok envelope
    else .error (.kindMismatch kind envelope.content.kind)

/-- The envelope behind the fields of a header. -/
def decodeFramed (version code : UInt8) (length : Nat) (rest : Bytes) :
    Except WireError Envelope :=
  if version = formatVersion then
    match kindOfCode? code with
    | none => .error (.unknownKind code)
    | some kind =>
      if rest.length < length then .error (.truncated length rest.length)
      else decodeBody kind (rest.take length)
  else .error (.unsupportedVersion version)

/-- The envelope in a datagram. -/
def decode : Bytes → Except WireError Envelope
  | first :: second :: third :: fourth :: version :: code :: low :: high :: rest =>
    if [first, second, third, fourth] = magic then
      decodeFramed version code (low.toNat + 256 * high.toNat) rest
    else .error (.badMagic [first, second, third, fourth])
  | bytes => .error (.truncated headerLength bytes.length)

end Wire

namespace WireError

/-- A byte as two hexadecimal digits. -/
def byteText (byte : UInt8) : String :=
  String.ofList (Hex.encodeByte byte)

def message : WireError → String
  | .badMagic found => "bad frame magic: [" ++ ", ".intercalate (found.map byteText) ++ "]"
  | .unsupportedVersion found => "unsupported frame version: 0x" ++ byteText found
  | .unknownKind found => "unknown frame kind: 0x" ++ byteText found
  | .truncated expected actual =>
    "frame truncated: header says " ++ toString expected ++ " bytes, got " ++ toString actual
  | .kindMismatch header content =>
    "frame kind " ++ header.display ++ " does not match envelope content " ++ content.display
  | .tooLarge size =>
    "datagram of " ++ toString size ++ " bytes exceeds maximum " ++ toString Wire.maxDatagram
  | .invalidEnvelope => "invalid envelope"

end WireError

end ServiceDiscovery
