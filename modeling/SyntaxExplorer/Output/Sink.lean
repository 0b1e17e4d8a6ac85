/-!
# SyntaxExplorer.Output.Sink

**Somewhere bytes can be written.** A sink accepts as many of the bytes offered
to it as it likes, or fails. `Sink.writeAll` offers what was not accepted again
until nothing is left, and offers nothing when there is nothing to write.

A sink that was only interrupted (`Failure.isInterrupted`) is offered the same bytes
again, so writing into a sink that is interrupted every time never comes to an end. Here
the writing has some patience, and no answer where that runs out. Writing as it is meant
ends where there is an answer with enough patience, and never where there is none with any.

`LimitedSink` has room for a number of bytes and then fails, which shows what a
writer does when its output is closed under it.
-/

namespace SyntaxExplorer

/-- Why a sink fails, as far as a writer looks at it. -/
class Failure (ε : Type) where
  /-- Nothing is wrong: the sink was interrupted, and can be asked again. -/
  isInterrupted : ε → Bool
  /-- The sink accepts nothing, and does not fail itself. -/
  stalled : ε

/-- No failure is an interruption. -/
class Failure.IsFinal (ε : Type) [Failure ε] : Prop where
  isInterrupted_eq_false : ∀ failure : ε, Failure.isInterrupted failure = false

/-- A writer of bytes. -/
class Sink (ω : Type) (ε : outParam Type) where
  /-- Offer bytes; the answer is how many of them were accepted. -/
  write : ω → ByteArray → Except ε Nat × ω
  /-- Pass on what was accepted. -/
  flush : ω → Except ε Unit × ω

/-- How writing into a sink ends, and the sink afterwards; nothing where there is no patience
left. -/
abbrev Written (ω ε : Type) := Option (Except ε Unit × ω)

/-- Write all bytes, unless the sink fails. Where it is interrupted, write on, though not more
often than `patience` allows. -/
def Sink.writeAll {ω ε : Type} [Sink ω ε] [Failure ε] (patience : Nat) (sink : ω)
    (bytes : ByteArray) : Written ω ε :=
  if bytes.size = 0 then some (.ok (), sink)
  else
    match Sink.write sink bytes with
    | (.error failure, sink) =>
      if Failure.isInterrupted failure then
        match patience with
        | 0 => none
        | patience + 1 => writeAll patience sink bytes
      else some (.error failure, sink)
    | (.ok accepted, sink) =>
      if accepted = 0 then some (.error Failure.stalled, sink)
      else writeAll patience sink (bytes.extract accepted bytes.size)
termination_by patience + bytes.size
decreasing_by
  · omega
  · simp only [ByteArray.size_extract]
    omega

/-! ### A sink with limited room -/

/-- Why a `LimitedSink` could not be written to. -/
inductive WriteFailure
  /-- Nobody reads the output any more. -/
  | closed
  /-- What was accepted cannot be passed on. -/
  | flushRefused
  /-- The sink accepts nothing and does not fail. -/
  | stalled
  deriving Repr, DecidableEq

def WriteFailure.message : WriteFailure → String
  | closed => "closed"
  | flushRefused => "flush refused"
  | stalled => "failed to write whole buffer"

instance : Failure WriteFailure where
  isInterrupted _ := false
  stalled := .stalled

instance : Failure.IsFinal WriteFailure := ⟨fun _ => rfl⟩

/-- A sink with room for so many bytes, none meaning any number, that counts how
often it was flushed and may refuse to be. -/
structure LimitedSink where
  accepted : ByteArray
  room : Option Nat
  flushes : Nat
  refusesFlush : Bool

namespace LimitedSink

/-- A sink that has accepted nothing yet. -/
def ofRoom (room : Option Nat) (refusesFlush : Bool) : LimitedSink :=
  ⟨.empty, room, 0, refusesFlush⟩

/-- How many of `size` bytes still fit. -/
def fitting (sink : LimitedSink) (size : Nat) : Nat :=
  match sink.room with
  | some room => min room size
  | none => size

instance : Sink LimitedSink WriteFailure where
  write sink bytes :=
    let n := sink.fitting bytes.size
    if n = 0 && bytes.size != 0 then (.error .closed, sink)
    else
      (.ok n, { sink with
        accepted := sink.accepted ++ bytes.extract 0 n
        room := sink.room.map (· - n) })
  flush sink :=
    let sink := { sink with flushes := sink.flushes + 1 }
    (if sink.refusesFlush then .error .flushRefused else .ok (), sink)

end LimitedSink

end SyntaxExplorer
