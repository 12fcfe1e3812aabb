import InterpreterHost.Text.Utf8

/-!
# Streams of octets

## Main definitions

* `StreamError` — why octets could not be read or written
* `Source` — octets that are read, which may end in a failure
* `Sink` — octets that are written, of which there may not be too many
* `Source.copyTo` — write what is read
-/

namespace InterpreterHost

/-- Why octets could not be read or written. -/
structure StreamError where
  reason : String
  /-- Whether it is of the kind that says that octets have come to an end too early. -/
  isEnd : Bool := false
deriving DecidableEq, Repr, Inhabited

instance : Coe String StreamError := ⟨fun reason => { reason }⟩

/-- There are fewer octets than were asked for. -/
def StreamError.ended : StreamError := ⟨"failed to fill whole buffer", true⟩

/-- Octets to be read.  After them comes the end, or a failure in its place. -/
structure Source where
  content : Octets
  failure : Option StreamError := none
deriving DecidableEq, Repr, Inhabited

namespace Source

/-- What comes after the octets, for one who needs more. -/
def afterEnd (s : Source) : StreamError := s.failure.getD .ended

/-- Read the given number of octets.  If there are not so many those that there are have been read. -/
def take (s : Source) (n : Nat) : Except StreamError Octets × Source :=
  if n ≤ s.content.length then (.ok (s.content.take n), { s with content := s.content.drop n })
  else (.error s.afterEnd, { s with content := [] })

/-- Read all octets up to the end. -/
def takeAll (s : Source) : Except StreamError Octets × Source :=
  match s.failure with
  | some e => (.error e, { s with content := [] })
  | none => (.ok s.content, { s with content := [] })

end Source

/-- Octets that were written, and how many there may be. -/
structure Sink where
  content : Octets := []
  limit : Option Nat := none
  /-- What is reported when there would be too many. -/
  refusal : StreamError := ""
deriving DecidableEq, Repr, Inhabited

/-- Write octets, or as many of them as there may be. -/
def Sink.write (s : Sink) (octets : Octets) : Except StreamError Unit × Sink :=
  let whole := s.content ++ octets
  match s.limit with
  | none => (.ok (), { s with content := whole })
  | some limit =>
    if whole.length ≤ limit then (.ok (), { s with content := whole })
    else (.error s.refusal, { s with content := whole.take limit })

/-- How many octets are read before they are written. -/
def Source.pieceLength : Nat := 8192

/-- Read octets up to the end and write them, piece by piece: where a piece cannot be written whole no other is
read. -/
def Source.copyTo (s : Source) (sink : Sink) : Except StreamError Unit × Source × Sink :=
  match sink.write s.content with
  | (.ok (), sink) =>
    let (result, s) := s.takeAll
    (result.map fun _ => (), s, sink)
  | (.error e, full) =>
    let written := full.content.length - sink.content.length
    (.error e, { s with content := s.content.drop ((written / pieceLength + 1) * pieceLength) }, full)

end InterpreterHost
