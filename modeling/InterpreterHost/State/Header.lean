import InterpreterHost.State.Params
import InterpreterHost.State.Stream

/-!
# The container of saved states

A saved state is a version, the length of a header, the header and what the state itself has saved.  The header
holds the parameters of the state: four texts, each with its length before it.

## Main definitions

* `Header.encode`, `Header.decode` — the octets of the header
* `Container.start` — all that is before what the state has saved
* `Container.write`, `Container.read` — write and read it
-/

namespace InterpreterHost

/-- The lowest octets of a number, the lowest first. -/
def littleEndian : Nat → Nat → Octets
  | 0, _ => []
  | width + 1, n => UInt8.ofNat n :: littleEndian width (n / 256)

/-- The number with the given octets, the lowest first. -/
def ofLittleEndian : Octets → Nat
  | [] => 0
  | b :: rest => b.toNat + 256 * ofLittleEndian rest

namespace Header

/-- A text, its length before it. -/
def encodeText (s : String) : Octets :=
  let octets := Utf8.encode s.toList
  littleEndian 8 octets.length ++ octets

/-- The octets of a header. -/
def encode (p : StateParams) : Octets :=
  encodeText p.modulePath ++ encodeText p.moduleName ++ encodeText p.className ++ encodeText p.writeMethod

/-- Read a text, its length before it; and what follows. -/
def decodeText (octets : Octets) : Except HeaderFault (String × Octets) :=
  if octets.length < 8 then .error .noLength
  else
    let n := ofLittleEndian (octets.take 8)
    let rest := octets.drop 8
    if rest.length < n then .error .noText
    else match Utf8.decode (rest.take n) with
      | .ok chars => .ok (String.ofList chars, rest.drop n)
      | .error f => .error (.notUtf8 f)

/-- The header that octets begin with. -/
def decode (octets : Octets) : Except HeaderFault StateParams := do
  let (modulePath, octets) ← decodeText octets
  let (moduleName, octets) ← decodeText octets
  let (className, octets) ← decodeText octets
  let (writeMethod, _) ← decodeText octets
  return { modulePath, moduleName, className, writeMethod }

end Header

namespace Container

/-- The version that is written, and the only one that is read. -/
def version : UInt8 := 1

/-- The length of a header as it is written. -/
def lengthOf (header : Octets) : UInt32 := UInt32.ofNat header.length

/-- All that comes before what the state has saved. -/
def start (p : StateParams) : Octets :=
  let header := Header.encode p
  version :: littleEndian 4 (lengthOf header).toNat ++ header

/-- Write one part after the other, up to one that cannot be written. -/
def writeParts (sink : Sink) : List Octets → Except StreamError Unit × Sink
  | [] => (.ok (), sink)
  | part :: parts =>
    match sink.write part with
    | (.ok (), sink) => writeParts sink parts
    | refused => refused

/-- Write all that comes before what the state has saved: the version, the length of the header and the header. -/
def write (sink : Sink) (p : StateParams) : Except StateError Unit × Sink :=
  let header := Header.encode p
  let (result, sink) := writeParts sink [[version], littleEndian 4 (lengthOf header).toNat, header]
  (result.mapError .stream, sink)

/-- Read octets, of which there must be enough. -/
def readExactly (source : Source) (n : Nat) : Except StateError Octets × Source :=
  let (result, source) := source.take n
  (result.mapError .stream, source)

/-- Read the header that has the given length. -/
def readHeader (source : Source) (length : UInt32) : Except StateError StateParams × Source :=
  match source.take length.toNat with
  | (.error e, source) => (.error (if e.isEnd then .truncatedHeader length else .stream e), source)
  | (.ok octets, source) => ((Header.decode octets).mapError .header, source)

/-- Read the length of the header and the header. -/
def readLength (source : Source) : Except StateError StateParams × Source :=
  match readExactly source 4 with
  | (.error e, source) => (.error e, source)
  | (.ok octets, source) =>
    let length := UInt32.ofNat (ofLittleEndian octets)
    if length = 0 then (.error .emptyHeader, source) else readHeader source length

/-- Read all that comes before what the state has saved. -/
def read (source : Source) : Except StateError StateParams × Source :=
  match readExactly source 1 with
  | (.error e, source) => (.error e, source)
  | (.ok octets, source) =>
    let found := octets.headD 0
    if found = version then readLength source else (.error (.unsupportedVersion found), source)

end Container

end InterpreterHost
