/-!
# Sinks

Where a rendering goes. A sink takes bytes up to an optional limit; what goes
beyond the limit is refused, and of a text that only fits in part the part that
fits is kept. Writing nothing always succeeds.
-/

namespace Stencil

/-- **A sink**: what it has taken, and how much it takes at most. -/
structure Sink where
  limit : Option Nat
  written : ByteArray

namespace Sink

/-- A sink that takes everything. -/
def unlimited : Sink := ⟨none, ByteArray.empty⟩

/-- A sink that takes `limit` bytes. -/
def limited (limit : Nat) : Sink := ⟨some limit, ByteArray.empty⟩

/-- Whether the sink can take that many more bytes. -/
def hasRoom (s : Sink) (count : Nat) : Bool :=
  match s.limit with
  | none => true
  | some limit => s.written.size + count ≤ limit || count == 0

/-- The bytes that the sink keeps of those written to it. -/
def kept (s : Sink) (bytes : ByteArray) : ByteArray :=
  match s.limit with
  | none => bytes
  | some limit => bytes.extract 0 (limit - s.written.size)

/-- **Writes bytes**: the sink after, and whether it took all of them. -/
def write (s : Sink) (bytes : ByteArray) : Sink × Bool :=
  ({ s with written := s.written ++ s.kept bytes }, s.hasRoom bytes.size)

/-- What a sink says when it refuses bytes. -/
def refusal : String := "sink closed"

end Sink

end Stencil
