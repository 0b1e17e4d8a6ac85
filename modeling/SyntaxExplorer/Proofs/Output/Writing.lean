import SyntaxExplorer.Proofs.Node.Outline
import SyntaxExplorer.Proofs.Output.Sink

/-!
# SyntaxExplorer.Proofs.Output.Writing

**Writing an outline delivers its bytes.** An outline is written in pieces
(`Program.pieces`) which are the outline when they are put together, and since texts are
delivered one after the other up to the first failure, so is the outline
(`Program.Writes`).

What comes of it is up to the sink. One that accepts everything gets all bytes and is
flushed, once and at last (`write_accepts`). One with less room gets as many bytes as it
takes, fails, and then nothing is asked of it any more, unless the failure is an
interruption: then the writing never comes to an end, since no patience is enough for it
(`write_limited`).
-/

namespace SyntaxExplorer

namespace Program

variable {ω ε : Type} [Sink ω ε] [Failure ε]

theorem writeTo_eq (p : Program) (indent patience : Nat) (sink : ω) :
    p.writeTo indent patience sink =
      (TextWriter.writeTexts (SinkWriter.ofSink patience sink)
        (p.pieces indent)).written.flush := by
  rw [writeTo, writeLines_eq]

/-- **The answer of `Program.writeTo` stays with more patience**: where there is one, it is that
of a writing that repeats interrupted writes for ever. -/
theorem writeTo_of_le {p : Program} {indent patience : Nat} {sink : ω}
    {written : Except ε Unit × ω} (h : p.writeTo indent patience sink = some written)
    {patience' : Nat} (hle : patience ≤ patience') :
    p.writeTo indent patience' sink = some written := by
  rw [writeTo_eq] at h ⊢
  cases htexts : (TextWriter.writeTexts (SinkWriter.ofSink patience sink : SinkWriter ω ε)
      (p.pieces indent)).written with
  | none =>
      rw [htexts] at h
      cases h
  | some written' =>
      rw [htexts] at h
      rwa [Sink.writeTexts_of_le htexts hle]

/-- `Program.writeTo` ends with the answer, whatever the patience, and the calls are all that is
asked of the sink. It is the same whether the sink is `Observed` or not. -/
def Writes (p : Program) (indent : Nat) (sink : ω) (calls : List (SinkCall ε))
    (answer : Except ε Unit) : Prop :=
  ∃ last : Observed ω ε, last.calls = calls ∧ ∀ patience,
    p.writeTo indent patience (Observed.ofSink sink) = some (answer, last) ∧
      p.writeTo indent patience sink = some (answer, last.sink)

/-- **What is asked of a sink that an outline is written into**: all that delivers
`Program.outline` (`Sink.Delivers`), and then a flush, unless there was a failure. -/
theorem exists_writes {good : Nat → ω → Prop} (h : Sink.Uninterrupted good) (p : Program)
    (indent : Nat) (sink : ω) {n : Nat} (hgood : good n sink)
    (hle : (p.outline indent).toUTF8.size ≤ n) :
    ∃ calls result last, Sink.Run sink calls last ∧
      Sink.Delivers (p.outline indent).toUTF8 calls result ∧
      (result = .ok () → ∃ answer, p.Writes indent sink (calls ++ [.flush answer]) answer) ∧
      ∀ failure, result = .error failure → p.Writes indent sink calls (.error failure) := by
  rw [← p.join_pieces] at hle ⊢
  obtain ⟨calls, result, watched, hwatched, hrun, hdelivers⟩ :=
    Sink.writeTexts_delivers (Observed.uninterrupted h) (Observed.ofSink sink) hgood hle
  have hcalls : watched.calls = calls := Observed.calls_of_run hrun
  have hwritten : ∀ patience,
      (TextWriter.writeTexts (SinkWriter.ofSink patience sink) (p.pieces indent)).written =
        some (result, watched.sink) := by
    intro patience
    have hsink := Observed.writeTexts_sink patience (Observed.ofSink sink) (p.pieces indent)
    rwa [hwatched, Option.map_some] at hsink
  refine ⟨calls, result, watched.sink, Observed.run_sink hrun, hdelivers, ?_, ?_⟩
  · rintro rfl
    refine ⟨(Sink.flush watched.sink).1, ⟨(Sink.flush watched.sink).2,
      watched.calls ++ [.flush (Sink.flush watched.sink).1]⟩, by rw [hcalls], fun patience => ?_⟩
    rw [writeTo_eq, writeTo_eq, hwatched, hwritten]
    exact ⟨rfl, rfl⟩
  · rintro failure rfl
    refine ⟨watched, hcalls, fun patience => ?_⟩
    rw [writeTo_eq, writeTo_eq, hwatched, hwritten]
    exact ⟨rfl, rfl⟩

/-- Where no failure is an interruption, the writing comes to an end, whatever the patience:
`Program.write` gives its answer. -/
theorem writeTo_eq_some_write [Failure.IsFinal ε] (p : Program) (indent : Nat) (sink : ω)
    (patience : Nat) : p.writeTo indent patience sink = some (p.write indent sink) := by
  obtain ⟨calls, result, -, -, -, hok, hfail⟩ :=
    p.exists_writes Sink.uninterrupted_of_isFinal indent sink trivial (Nat.le_refl _)
  have hends : ∃ written, ∀ patience, p.writeTo indent patience sink = some written := by
    cases result with
    | ok =>
        obtain ⟨answer, last, -, hwritten⟩ := hok rfl
        exact ⟨_, fun patience => (hwritten patience).2⟩
    | error failure =>
        obtain ⟨last, -, hwritten⟩ := hfail failure rfl
        exact ⟨_, fun patience => (hwritten patience).2⟩
  obtain ⟨written, hwritten⟩ := hends
  rw [write, hwritten, hwritten, Option.getD_some]

/-- A sink that accepts everything (`Sink.Accepts`) gets all bytes of `Program.outline`, and
then it is flushed. -/
theorem write_accepts (p : Program) (indent : Nat) {sink : ω} (h : Sink.Accepts sink) :
    ∃ writes answer, p.Writes indent sink (writes ++ [.flush answer]) answer ∧
      (∀ call ∈ writes, call.Succeeds) ∧
      SinkCall.accepted writes = (p.outline indent).toUTF8 := by
  obtain ⟨calls, result, last, hrun, hdelivers, hflush, -⟩ :=
    p.exists_writes h.uninterrupted indent sink ⟨[], .done⟩ (Nat.le_refl _)
  obtain ⟨hresult, hcalls, hbytes⟩ := h.delivers hrun hdelivers
  obtain ⟨answer, hwrites⟩ := hflush hresult
  exact ⟨calls, answer, hwrites, hcalls, hbytes⟩

/-- **Writing into a sink with room for so many bytes.** If the outline fits (`Sink.Limited`),
then all its bytes are accepted, and the last call is a flush, whose answer is the result.
Otherwise the sink accepts as many bytes as there is room for, and then it fails. If that
failure is no interruption, then the refused write is the last thing that is asked of the
sink, and the failure is the result; if it is one (`Failure.isInterrupted`), then no patience
is enough for `Program.writeTo`, and the writing never comes to an end. -/
theorem write_limited {room : ω → Option Nat} {failure : ε}
    (h : Sink.Limited room failure) (p : Program) (indent : Nat) (sink : ω) {r : Nat}
    (hr : room sink = some r) :
    let text := (p.outline indent).toUTF8
    (r < text.size → Failure.isInterrupted failure = false → ∃ writes offered,
      p.Writes indent sink (writes ++ [.write offered (.error failure)]) (.error failure) ∧
      offered.size ≠ 0 ∧ (∀ call ∈ writes, call.Succeeds) ∧
      SinkCall.accepted writes = text.extract 0 r) ∧
    (r < text.size → Failure.isInterrupted failure = true →
      ∀ patience, p.writeTo indent patience sink = (none : Written ω ε)) ∧
    (text.size ≤ r → ∃ writes answer,
      p.Writes indent sink (writes ++ [.flush answer]) answer ∧
      (∀ call ∈ writes, call.Succeeds) ∧ SinkCall.accepted writes = text) := by
  intro text
  refine ⟨fun hlt hfinal => ?_, fun hlt hinterrupted => ?_, fun hle => ?_⟩
  · obtain ⟨calls, result, last, hrun, hdelivers, -, hfail⟩ :=
      p.exists_writes (h.uninterrupted hfinal) indent sink trivial (Nat.le_refl _)
    rcases h.delivers hrun hdelivers with ⟨hfits, -⟩ |
      ⟨left, writes, offered, hleft, -, hresult, rfl, hoffered, hcalls, hbytes⟩
    · exact absurd (hfits r hr) (Nat.not_le.2 hlt)
    · obtain rfl : left = r := Option.some.inj (hleft.symm.trans hr)
      exact ⟨writes, offered, hfail failure hresult, hoffered, hcalls, hbytes⟩
  · intro patience
    have hjoin : r < (String.join (p.pieces indent)).toUTF8.size := by rwa [p.join_pieces]
    rw [writeTo_eq, h.writeTexts_eq_none hinterrupted hr hjoin patience]
    rfl
  · have hroom : ∀ left ∈ room sink, text.size ≤ left := by
      intro left hleft
      obtain rfl : left = r := Option.some.inj (hleft.symm.trans hr)
      exact hle
    obtain ⟨calls, result, last, hrun, hdelivers, hflush, -⟩ :=
      p.exists_writes h.uninterrupted_of_room indent sink hroom (Nat.le_refl _)
    rcases h.delivers hrun hdelivers with ⟨-, hresult, hcalls, hbytes⟩ | ⟨left, _, _, hleft, hlt, -⟩
    · obtain ⟨answer, hwrites⟩ := hflush hresult
      exact ⟨calls, answer, hwrites, hcalls, hbytes⟩
    · exact absurd (hroom left hleft) (Nat.not_le.2 hlt)

/-- With room for thirteen bytes, an outline ends between two spaces. -/
theorem write_limited_indented :
    let p : Program := ⟨[⟨"f", .int, [], [], .start⟩]⟩
    let sink := LimitedSink.ofRoom (some 13) false
    sink.room = some 13 ∧ p.outline 2 = "function: f\n  type: int\n" ∧
      ∃ writes offered,
        p.Writes 2 sink (writes ++ [.write offered (.error .closed)]) (.error .closed) ∧
        SinkCall.accepted writes = "function: f\n ".toUTF8 := by
  intro p sink
  have htext : p.outline 2 = "function: f\n  type: int\n" := by decide +kernel
  obtain ⟨hfails, -⟩ := write_limited LimitedSink.limited p 2 sink rfl
  rw [htext] at hfails
  obtain ⟨writes, offered, hwrites, -, -, haccepted⟩ := hfails (by decide) rfl
  exact ⟨rfl, htext, writes, offered, hwrites, haccepted.trans (by decide +kernel)⟩

end Program

/-! ### A sink that is interrupted -/

/-- Why a `BusySink` fails. -/
inductive BusyFailure
  | interrupted | stalled
  deriving DecidableEq

instance : Failure BusyFailure where
  isInterrupted failure := failure == .interrupted
  stalled := .stalled

/-- A sink with room for so many bytes, that is interrupted where the room ends. -/
structure BusySink where
  room : Nat

namespace BusySink

instance : Sink BusySink BusyFailure where
  write sink bytes :=
    let n := min sink.room bytes.size
    (if n = 0 then .error .interrupted else .ok n, ⟨sink.room - n⟩)
  flush sink := (.ok (), sink)

theorem limited : Sink.Limited (fun sink : BusySink => some sink.room) BusyFailure.interrupted where
  answer _ _ _ := rfl
  room_write sink bytes _ := by
    show some (sink.room - min sink.room bytes.size) = some (sink.room - bytes.size)
    congr 1
    omega

end BusySink

/-- With room for thirteen bytes, an outline of twenty-four is written for ever: the `BusySink`
accepts thirteen of them and is interrupted from then on, and no patience is enough for
`Program.writeTo`. -/
theorem Program.writeTo_busy_never_ends :
    let p : Program := ⟨[⟨"f", .int, [], [], .start⟩]⟩
    Sink.Limited (fun sink : BusySink => some sink.room) BusyFailure.interrupted ∧
      13 < (p.outline 2).toUTF8.size ∧
      ∀ patience, p.writeTo 2 patience (⟨13⟩ : BusySink) = none := by
  intro p
  have htext : p.outline 2 = "function: f\n  type: int\n" := by decide +kernel
  have hlt : 13 < (p.outline 2).toUTF8.size := by
    rw [htext]
    decide
  refine ⟨BusySink.limited, hlt, fun patience => ?_⟩
  have hnone : (TextWriter.writeTexts (SinkWriter.ofSink patience ⟨13⟩ :
      SinkWriter BusySink BusyFailure) (p.pieces 2)).written = none := by
    refine BusySink.limited.writeTexts_eq_none rfl rfl ?_ patience
    rwa [p.join_pieces]
  rw [Program.writeTo_eq, hnone]
  rfl

end SyntaxExplorer
