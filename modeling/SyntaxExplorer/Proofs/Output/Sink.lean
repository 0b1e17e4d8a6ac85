import SyntaxExplorer.Output.Writing
import SyntaxExplorer.Proofs.Output.TextWriter

/-!
# SyntaxExplorer.Proofs.Output.Sink

**What is asked of a sink when texts are written, whatever it answers.** The calls are
kept with their answers (`SinkCall`). Up to the last one they are writes of some bytes, of
which the sink accepts some; the last one may be refused, and then nothing is asked any
more (`Sink.Delivers`). So the accepted bytes are all that were to be written, or the first
of them. That is what comes of writing texts (`Sink.writeTexts_delivers`), with whatever
patience, as long as the sink is not interrupted (`Sink.Uninterrupted`). More patience never
changes what comes of it (`Sink.writeTexts_of_le`).

How many bytes are accepted is up to the sink. If it has room for so many (`Sink.Limited`),
then all of them are accepted if they fit, and otherwise as many as there is room for
(`Limited.delivers`), unless the sink is interrupted where the room ends: then no patience is
enough (`Limited.writeTexts_eq_none`).
-/

namespace SyntaxExplorer

variable {ω ε : Type}

/-! ### Calls -/

/-- One thing that is asked of a sink, `Sink.write` or `Sink.flush`, and what it answers. -/
inductive SinkCall (ε : Type)
  | write (bytes : ByteArray) (answer : Except ε Nat)
  | flush (answer : Except ε Unit)

namespace SinkCall

/-- A `Sink.write` that offers some bytes, of which some are accepted. -/
inductive Succeeds : SinkCall ε → Prop
  | write {bytes accepted} : bytes.size ≠ 0 → accepted ≠ 0 → Succeeds (.write bytes (.ok accepted))

/-- The sink accepts nothing. If it does not say so, the failure is `Failure.stalled`. -/
inductive Refuses [Failure ε] : Except ε Nat → ε → Prop
  | failed {failure} : Refuses (.error failure) failure
  | stalled : Refuses (.ok 0) Failure.stalled

/-- The bytes that are accepted in a call. -/
def taken : SinkCall ε → ByteArray
  | write bytes (.ok accepted) => bytes.extract 0 accepted
  | write _ (.error _) => .empty
  | flush _ => .empty

/-- The bytes that are `taken` in some calls, one after the other. -/
def accepted : List (SinkCall ε) → ByteArray
  | [] => .empty
  | call :: calls => call.taken ++ accepted calls

@[simp] theorem accepted_nil : accepted ([] : List (SinkCall ε)) = .empty := rfl

@[simp] theorem accepted_cons (call : SinkCall ε) (calls : List (SinkCall ε)) :
    accepted (call :: calls) = call.taken ++ accepted calls := rfl

@[simp] theorem accepted_append (calls more : List (SinkCall ε)) :
    accepted (calls ++ more) = accepted calls ++ accepted more := by
  induction calls with
  | nil => simp
  | cons call calls ih => simp [ih, ByteArray.append_assoc]

end SinkCall

open SinkCall

namespace Sink

variable [Sink ω ε]

/-- The sink is asked these things one after the other, answers so and is another one
then. -/
inductive Run : ω → List (SinkCall ε) → ω → Prop
  | done {sink} : Run sink [] sink
  | write {sink bytes answer next calls last} : Sink.write sink bytes = (answer, next) →
      Run next calls last → Run sink (.write bytes answer :: calls) last
  | flush {sink answer next calls last} : Sink.flush sink = (answer, next) →
      Run next calls last → Run sink (.flush answer :: calls) last

/-- To write the bytes, these things were asked, and this came of it. -/
inductive Delivers [Failure ε] (text : ByteArray) : List (SinkCall ε) → Except ε Unit → Prop
  /-- All bytes are accepted. -/
  | all {calls} : (∀ call ∈ calls, call.Succeeds) → accepted calls = text →
      Delivers text calls (.ok ())
  /-- The last call is refused, and some of the bytes are not accepted. -/
  | cut {calls offered answer failure} (behind : ByteArray) : (∀ call ∈ calls, call.Succeeds) →
      offered.size ≠ 0 → Refuses answer failure →
      accepted calls ++ (offered ++ behind) = text →
      Delivers text (calls ++ [.write offered answer]) (.error failure)

variable {sink mid last : ω} {bytes : ByteArray} {calls more : List (SinkCall ε)}

theorem Run.append (h : Run sink calls mid) (h' : Run mid more last) :
    Run sink (calls ++ more) last := by
  induction h with
  | done => exact h'
  | write hwrite _ ih => exact .write hwrite (ih h')
  | flush hflush _ ih => exact .flush hflush (ih h')

theorem Run.split (h : Run sink (calls ++ more) last) :
    ∃ mid, Run sink calls mid ∧ Run mid more last := by
  induction calls generalizing sink with
  | nil => exact ⟨sink, .done, h⟩
  | cons call calls ih =>
      cases h with
      | write hwrite h =>
          obtain ⟨mid, hcalls, hmore⟩ := ih h
          exact ⟨mid, .write hwrite hcalls, hmore⟩
      | flush hflush h =>
          obtain ⟨mid, hcalls, hmore⟩ := ih h
          exact ⟨mid, .flush hflush hcalls, hmore⟩

/-! ### Sinks with room for so many bytes -/

/-- How many of `size` bytes fit into the room, where none means any number. -/
def fitting (room : Option Nat) (size : Nat) : Nat := room.elim size fun room => min room size

/-- The sink has room for so many bytes. Of some bytes it accepts those that fit, and if
none of them does, it fails. -/
structure Limited (room : ω → Option Nat) (failure : ε) : Prop where
  answer : ∀ (sink : ω) (bytes : ByteArray), bytes.size ≠ 0 →
    (Sink.write sink bytes).1 = if fitting (room sink) bytes.size = 0 then .error failure
      else .ok (fitting (room sink) bytes.size)
  room_write : ∀ (sink : ω) (bytes : ByteArray), bytes.size ≠ 0 →
    room (Sink.write sink bytes).2 = (room sink).map fun room => room - bytes.size

namespace Limited

variable {room : ω → Option Nat} {failure : ε}

/-- A write that succeeds is granted as many bytes as are `fitting`. -/
theorem write_ok (h : Limited room failure) {accepted : Nat} {next : ω} (hsome : bytes.size ≠ 0)
    (hwrite : Sink.write sink bytes = (.ok accepted, next)) :
    accepted = fitting (room sink) bytes.size ∧ accepted ≠ 0 ∧
      room next = (room sink).map fun room => room - bytes.size := by
  have hanswer := h.answer sink bytes hsome
  have hroom := h.room_write sink bytes hsome
  rw [hwrite] at hanswer hroom
  split at hanswer
  · cases hanswer
  · obtain rfl := Except.ok.inj hanswer
    exact ⟨rfl, ‹_›, hroom⟩

/-- A write that fails finds no room. -/
theorem write_error (h : Limited room failure) {failure' : ε} {next : ω}
    (hsome : bytes.size ≠ 0) (hwrite : Sink.write sink bytes = (.error failure', next)) :
    room sink = some 0 ∧ failure' = failure ∧ room next = some 0 := by
  have hanswer := h.answer sink bytes hsome
  have hroom := h.room_write sink bytes hsome
  rw [hwrite] at hanswer hroom
  split at hanswer
  · rename_i hzero
    have hfull : room sink = some 0 := by
      cases hleft : room sink with
      | none => exact absurd (by simpa [hleft, fitting] using hzero) hsome
      | some left =>
          have hleft : min left bytes.size = 0 := by simpa [hleft, fitting] using hzero
          rw [show left = 0 by omega]
    exact ⟨hfull, Except.error.inj hanswer, by simpa [hfull] using hroom⟩
  · cases hanswer

/-- What is `accepted` takes up room. -/
theorem room_run (h : Limited room failure) (hrun : Run sink calls last)
    (hcalls : ∀ call ∈ calls, call.Succeeds) :
    room last = (room sink).map (fun left => left - (accepted calls).size) ∧
      ∀ left ∈ room sink, (accepted calls).size ≤ left := by
  induction hrun with
  | done => simp
  | @write sink bytes answer next calls last hwrite _ ih =>
      rw [List.forall_mem_cons] at hcalls
      obtain ⟨⟨hsome, -⟩, hcalls⟩ := hcalls
      obtain ⟨rfl, -, hnext⟩ := h.write_ok hsome hwrite
      obtain ⟨hlast, hle⟩ := ih hcalls
      cases hroom : room sink with
      | none => simp_all
      | some left =>
          rw [hroom, Option.map_some] at hnext
          have hle := hle _ hnext
          have hsize :
              (accepted (.write bytes (.ok (fitting (some left) bytes.size)) :: calls :
                List (SinkCall ε))).size = min left bytes.size + (accepted calls).size := by
            simp [taken, fitting, ByteArray.size_extract]
          simp only [hsize, hlast, hnext, Option.map_some, Option.some.injEq, Option.mem_def]
          refine ⟨by omega, ?_⟩
          rintro _ rfl
          omega
  | flush =>
      rw [List.forall_mem_cons] at hcalls
      cases hcalls.1

end Limited

/-! ### What is asked in order to write -/

variable [Failure ε] {result : Except ε Unit}

/-- Behind calls that are a success (`SinkCall.Succeeds`), the rest of the bytes is delivered. -/
theorem Delivers.behind (hcalls : ∀ call ∈ calls, call.Succeeds)
    (h : Delivers bytes more result) :
    Delivers (accepted calls ++ bytes) (calls ++ more) result := by
  cases h with
  | all hmore hbytes =>
      refine .all (List.forall_mem_append.2 ⟨hcalls, hmore⟩) ?_
      rw [accepted_append, hbytes]
  | cut behind hmore hoffered hrefuses hbytes =>
      rw [← List.append_assoc]
      refine .cut behind (List.forall_mem_append.2 ⟨hcalls, hmore⟩) hoffered hrefuses ?_
      rw [accepted_append, ByteArray.append_assoc, hbytes]

/-- Behind a failure, `Delivers` holds of any more bytes as well, since nothing is asked for
them. -/
theorem Delivers.append {failure : ε} (h : Delivers bytes calls (.error failure))
    (later : ByteArray) : Delivers (bytes ++ later) calls (.error failure) := by
  cases h with
  | cut behind hcalls hoffered hrefuses hbytes =>
      refine .cut (behind ++ later) hcalls hoffered hrefuses ?_
      simp only [← hbytes, ByteArray.append_assoc]

/-- As long as `good n sink` holds, the sink is not interrupted when at most `n` bytes are
offered; behind those that it accepts, it holds for the rest of them. -/
structure Uninterrupted (good : Nat → ω → Prop) : Prop where
  answer : ∀ {n sink} {bytes : ByteArray} {failure}, good n sink → bytes.size ≠ 0 →
    bytes.size ≤ n → (Sink.write sink bytes).1 = .error failure →
    Failure.isInterrupted failure = false
  next : ∀ {n sink} {bytes : ByteArray} {accepted next}, good n sink → bytes.size ≠ 0 →
    bytes.size ≤ n → Sink.write sink bytes = (.ok accepted, next) →
    good (n - min accepted bytes.size) next

variable {good : Nat → ω → Prop} {n : Nat}

section writeAll

variable {patience : Nat} {next : ω} {failure : ε} {granted : Nat}

theorem writeAll_of_empty (h : bytes.size = 0) :
    writeAll patience sink bytes = some (.ok (), sink) := by
  rw [writeAll, if_pos h]

theorem writeAll_of_error (h : bytes.size ≠ 0)
    (hwrite : Sink.write sink bytes = (.error failure, next))
    (hfinal : Failure.isInterrupted failure = false) :
    writeAll patience sink bytes = some (.error failure, next) := by
  rw [writeAll, if_neg h]
  simp only [hwrite, hfinal, Bool.false_eq_true, if_false]

/-- With no patience left, an interrupted write is the last one. -/
theorem writeAll_zero (h : bytes.size ≠ 0)
    (hwrite : Sink.write sink bytes = (.error failure, next))
    (hinterrupted : Failure.isInterrupted failure = true) :
    writeAll 0 sink bytes = (none : Written ω ε) := by
  rw [writeAll, if_neg h]
  simp only [hwrite, hinterrupted, if_true]

/-- With some patience, an interrupted write is repeated. -/
theorem writeAll_succ (h : bytes.size ≠ 0)
    (hwrite : Sink.write sink bytes = (.error failure, next))
    (hinterrupted : Failure.isInterrupted failure = true) :
    writeAll (patience + 1) sink bytes = writeAll patience next bytes := by
  rw [writeAll, if_neg h]
  simp only [hwrite, hinterrupted, if_true]

theorem writeAll_of_stalled (h : bytes.size ≠ 0) (hwrite : Sink.write sink bytes = (.ok 0, next)) :
    writeAll patience sink bytes = some (.error Failure.stalled, next) := by
  rw [writeAll, if_neg h]
  simp only [hwrite, if_true]

theorem writeAll_of_ok (h : bytes.size ≠ 0)
    (hwrite : Sink.write sink bytes = (.ok granted, next)) (hgranted : granted ≠ 0) :
    writeAll patience sink bytes =
      writeAll patience next (bytes.extract granted bytes.size) := by
  rw [writeAll, if_neg h]
  simp only [hwrite, if_neg hgranted]

end writeAll

/-- What comes of `Sink.writeAll` stays with more patience. -/
theorem writeAll_of_le {patience : Nat} {written : Except ε Unit × ω}
    (h : writeAll patience sink bytes = some written) {patience' : Nat}
    (hle : patience ≤ patience') : writeAll patience' sink bytes = some written := by
  fun_induction writeAll patience sink bytes generalizing patience' with
  | case1 patience sink bytes hempty => rwa [writeAll_of_empty hempty]
  | case2 => cases h
  | case3 sink bytes hsome failure next hwrite hinterrupted patience ih =>
      cases patience' with
      | zero => omega
      | succ patience' =>
          rw [writeAll_succ hsome hwrite hinterrupted]
          exact ih h (by omega)
  | case4 patience sink bytes hsome failure next hwrite hfinal =>
      rwa [writeAll_of_error hsome hwrite (Bool.eq_false_iff.2 hfinal)]
  | case5 patience sink bytes hsome next hwrite => rwa [writeAll_of_stalled hsome hwrite]
  | case6 patience sink bytes hsome accepted next hwrite hzero ih =>
      rw [writeAll_of_ok hsome hwrite hzero]
      exact ih h hle

/-- **Bytes are delivered** by `Sink.writeAll`, which needs no patience. -/
theorem writeAll_delivers (h : Uninterrupted good) (hgood : good n sink) (hle : bytes.size ≤ n) :
    ∃ calls result next, (∀ patience, writeAll patience sink bytes = some (result, next)) ∧
      Run sink calls next ∧ Delivers bytes calls result ∧
      (result = .ok () → good (n - bytes.size) next) := by
  -- Every write that does not end the writing leaves fewer bytes.
  induction hsize : bytes.size using Nat.strongRecOn generalizing sink bytes n with
  | ind size ih =>
  subst hsize
  by_cases hempty : bytes.size = 0
  · have hbytes : bytes = .empty := ByteArray.size_eq_zero_iff.1 hempty
    exact ⟨[], _, _, fun _ => writeAll_of_empty hempty, .done, .all (by simp) hbytes.symm,
      fun _ => by rwa [hempty]⟩
  · cases hwrite : Sink.write sink bytes with
    | mk answer next =>
    cases answer with
    | error failure =>
        have hfinal := h.answer hgood hempty hle (by rw [hwrite])
        exact ⟨[] ++ [_], .error failure, next,
          fun _ => writeAll_of_error hempty hwrite hfinal, .write hwrite .done,
          .cut .empty (by simp) hempty .failed (by simp), fun hok => by cases hok⟩
    | ok taken =>
        by_cases hzero : taken = 0
        · subst hzero
          exact ⟨[] ++ [_], .error Failure.stalled, next,
            fun _ => writeAll_of_stalled hempty hwrite, .write hwrite .done,
            .cut .empty (by simp) hempty .stalled (by simp), fun hok => by cases hok⟩
        · have hrest : (bytes.extract taken bytes.size).size = bytes.size - taken := by
            simp [ByteArray.size_extract]
          obtain ⟨calls, result, last, hwritten, hrun, hdelivers, hlast⟩ :=
            ih (bytes.extract taken bytes.size).size (by omega)
              (h.next hgood hempty hle hwrite) (by omega) rfl
          have hfirst : ∀ call ∈ [(.write bytes (.ok taken) : SinkCall ε)], call.Succeeds := by
            intro call hcall
            rw [List.mem_singleton.1 hcall]
            exact .write hempty hzero
          refine ⟨_ :: calls, result, last, fun patience => ?_, .write hwrite hrun, ?_, ?_⟩
          · rw [writeAll_of_ok hempty hwrite hzero]
            exact hwritten patience
          · -- What was accepted stands in front of what is offered again.
            simpa [SinkCall.taken] using hdelivers.behind hfirst
          · intro hok
            have hleft := hlast hok
            rwa [hrest, show n - min taken bytes.size - (bytes.size - taken) = n - bytes.size by
              omega] at hleft

variable {patience : Nat}

theorem writeTexts_of_writeAll {written : Written ω ε} {text : String}
    (h : writeAll patience sink text.toUTF8 = written) (texts : List String) :
    TextWriter.writeTexts (SinkWriter.ofSink patience sink) (text :: texts) =
      TextWriter.writeTexts (⟨patience, written⟩ : SinkWriter ω ε) texts := by
  subst h
  rfl

theorem writeTexts_of_error (failure : ε) (sink : ω) (texts : List String) :
    TextWriter.writeTexts (⟨patience, some (.error failure, sink)⟩ : SinkWriter ω ε) texts =
      ⟨patience, some (.error failure, sink)⟩ :=
  TextWriter.writeTexts_of_not_isOpen rfl texts

theorem writeTexts_of_none (texts : List String) :
    TextWriter.writeTexts (⟨patience, none⟩ : SinkWriter ω ε) texts = ⟨patience, none⟩ :=
  TextWriter.writeTexts_of_not_isOpen rfl texts

/-- What comes of writing texts stays with more patience. -/
theorem writeTexts_of_le {texts : List String} {written : Except ε Unit × ω}
    (h : (TextWriter.writeTexts (SinkWriter.ofSink patience sink) texts).written = some written)
    {patience' : Nat} (hle : patience ≤ patience') :
    (TextWriter.writeTexts (SinkWriter.ofSink patience' sink) texts).written = some written := by
  induction texts generalizing sink with
  | nil => exact h
  | cons text texts ih =>
      cases hwritten : writeAll patience sink text.toUTF8 with
      | none =>
          rw [writeTexts_of_writeAll hwritten, writeTexts_of_none] at h
          cases h
      | some first =>
          obtain ⟨answer, next⟩ := first
          rw [writeTexts_of_writeAll hwritten] at h
          rw [writeTexts_of_writeAll (writeAll_of_le hwritten hle)]
          cases answer with
          | ok => exact ih h
          | error failure => rwa [writeTexts_of_error] at h ⊢

/-- **Texts are delivered one after the other** by `TextWriter.writeTexts`, up to the first
failure. -/
theorem writeTexts_delivers (h : Uninterrupted good) (sink : ω) {texts : List String}
    (hgood : good n sink) (hle : (String.join texts).toUTF8.size ≤ n) :
    ∃ calls result next,
      (∀ patience, (TextWriter.writeTexts (SinkWriter.ofSink patience sink) texts).written =
        some (result, next)) ∧
      Run sink calls next ∧ Delivers (String.join texts).toUTF8 calls result := by
  induction texts generalizing sink n with
  | nil => exact ⟨[], .ok (), sink, fun _ => rfl, .done, .all (by simp) (by simp)⟩
  | cons text texts ih =>
      have hbytes : (String.join (text :: texts)).toUTF8 =
          text.toUTF8 ++ (String.join texts).toUTF8 := by simp
      rw [hbytes, ByteArray.size_append] at hle
      rw [hbytes]
      obtain ⟨calls, result, next, hwritten, hrun, hdelivers, hnext⟩ :=
        writeAll_delivers h hgood (Nat.le_trans (Nat.le_add_right ..) hle)
      cases result with
      | error failure =>
          refine ⟨calls, _, _, fun patience => ?_, hrun, hdelivers.append _⟩
          rw [writeTexts_of_writeAll (hwritten patience), writeTexts_of_error]
      | ok _ =>
          obtain ⟨more, result, last, hwritten', hrun', hdelivers'⟩ :=
            ih next (hnext rfl) (by omega)
          cases hdelivers with
          | all hcalls haccepted =>
              rw [← haccepted]
              refine ⟨calls ++ more, result, last, fun patience => ?_, hrun.append hrun',
                hdelivers'.behind hcalls⟩
              rw [writeTexts_of_writeAll (hwritten patience)]
              exact hwritten' patience

/-- Where no failure is an interruption (`Failure.IsFinal`), no sink is ever interrupted. -/
theorem uninterrupted_of_isFinal [Failure.IsFinal ε] :
    Uninterrupted fun (_ : Nat) (_ : ω) => True where
  answer _ _ _ _ := Failure.IsFinal.isInterrupted_eq_false _
  next _ _ _ _ := trivial

namespace Limited

variable {room : ω → Option Nat} {failure : ε}

/-- A write that is refused (`SinkCall.Refuses`) finds no room. -/
theorem write_refused (h : Limited room failure) {answer : Except ε Nat}
    {failure' : ε} {next : ω} (hsome : bytes.size ≠ 0)
    (hwrite : Sink.write sink bytes = (answer, next)) (hrefuses : Refuses answer failure') :
    room sink = some 0 ∧ answer = .error failure ∧ failure' = failure := by
  cases hrefuses with
  | failed =>
      obtain ⟨hfull, rfl, -⟩ := h.write_error hsome hwrite
      exact ⟨hfull, rfl, rfl⟩
  | stalled => exact absurd rfl (h.write_ok hsome hwrite).2.1

/-- **How a `Limited` sink is written to.** If all bytes fit, then all of them are accepted.
Otherwise those are that there is room for, and then the sink fails. -/
theorem delivers (h : Limited room failure) (hrun : Run sink calls last)
    (hdelivers : Delivers bytes calls result) :
    ((∀ left ∈ room sink, bytes.size ≤ left) ∧ result = .ok () ∧
      (∀ call ∈ calls, call.Succeeds) ∧ accepted calls = bytes) ∨
    ∃ left writes offered, room sink = some left ∧ left < bytes.size ∧ result = .error failure ∧
      calls = writes ++ [.write offered (.error failure)] ∧ offered.size ≠ 0 ∧
      (∀ call ∈ writes, call.Succeeds) ∧ accepted writes = bytes.extract 0 left := by
  cases hdelivers with
  | all hcalls hbytes =>
      obtain ⟨-, hle⟩ := h.room_run hrun hcalls
      exact .inl ⟨hbytes ▸ hle, rfl, hcalls, hbytes⟩
  | @cut writes offered _ _ behind hcalls hoffered hrefuses hbytes =>
      obtain ⟨mid, hfront, hback⟩ := hrun.split
      cases hback with
      | write hwrite hback =>
          obtain ⟨hfull, rfl, rfl⟩ := h.write_refused hoffered hwrite hrefuses
          obtain ⟨hroom, hle⟩ := h.room_run hfront hcalls
          obtain ⟨left, hleft, hused⟩ := Option.map_eq_some_iff.1 (hroom.symm.trans hfull)
          have hsize := hle left hleft
          -- There was room for what was accepted, and for no more.
          obtain rfl : left = (accepted writes).size := by omega
          subst hbytes
          refine .inr ⟨_, writes, offered, hleft, ?_, rfl, rfl, hoffered, hcalls, ?_⟩
          · simp only [ByteArray.size_append]
            omega
          · simp [ByteArray.extract_append]

/-- If its failure is no interruption, a `Limited` sink is never interrupted. -/
theorem uninterrupted (h : Limited room failure) (hfinal : Failure.isInterrupted failure = false) :
    Uninterrupted fun (_ : Nat) (_ : ω) => True where
  answer _ hsome _ hanswer := by
    obtain ⟨-, rfl, -⟩ := h.write_error hsome (Prod.ext hanswer rfl)
    exact hfinal
  next _ _ _ _ := trivial

/-- Whatever its failure is, a `Limited` sink is not interrupted where there is room. -/
theorem uninterrupted_of_room (h : Limited room failure) :
    Uninterrupted fun n (sink : ω) => ∀ left ∈ room sink, n ≤ left where
  answer hgood hsome hle hanswer := by
    obtain ⟨hfull, -⟩ := h.write_error hsome (Prod.ext hanswer rfl)
    have := hgood 0 hfull
    omega
  next := by
    intro n sink bytes accepted next hgood hsome hle hwrite left hleft
    obtain ⟨rfl, -, hnext⟩ := h.write_ok hsome hwrite
    rw [hnext, Option.mem_def, Option.map_eq_some_iff] at hleft
    obtain ⟨before, hbefore, rfl⟩ := hleft
    have := hgood before hbefore
    simp only [hbefore, fitting, Option.elim_some]
    omega

/-- Where the room ends, a sink that is interrupted then is asked again and again, and no
patience is enough for `Sink.writeAll`. -/
theorem writeAll_eq_none (h : Limited room failure)
    (hinterrupted : Failure.isInterrupted failure = true) {left : Nat}
    (hleft : room sink = some left) (hlt : left < bytes.size) (patience : Nat) :
    writeAll patience sink bytes = (none : Written ω ε) := by
  -- There is less room than bytes, as long as the writing goes on.
  fun_induction writeAll patience sink bytes generalizing left with
  | case1 => omega
  | case2 => rfl
  | case3 sink bytes hsome _ next hwrite _ patience ih =>
      exact ih (h.write_error hsome hwrite).2.2 (by omega)
  | case4 patience sink bytes hsome _ next hwrite hfinal =>
      obtain ⟨-, rfl, -⟩ := h.write_error hsome hwrite
      exact absurd hinterrupted hfinal
  | case5 patience sink bytes hsome next hwrite =>
      exact absurd rfl (h.write_ok hsome hwrite).2.1
  | case6 patience sink bytes hsome accepted next hwrite _ ih =>
      obtain ⟨haccepted, -, hnext⟩ := h.write_ok hsome hwrite
      simp only [hleft, fitting, Option.elim_some, Option.map_some] at haccepted hnext
      refine ih hnext ?_
      simp only [ByteArray.size_extract]
      omega

/-- **No patience is enough for texts that do not fit** into a `Limited` sink that is
interrupted where its room ends. -/
theorem writeTexts_eq_none (h : Limited room failure)
    (hinterrupted : Failure.isInterrupted failure = true) {texts : List String} {left : Nat}
    (hleft : room sink = some left) (hlt : left < (String.join texts).toUTF8.size)
    (patience : Nat) :
    (TextWriter.writeTexts (SinkWriter.ofSink patience sink) texts).written =
      (none : Written ω ε) := by
  induction texts generalizing sink left with
  | nil => simp at hlt
  | cons text texts ih =>
      have hbytes : (String.join (text :: texts)).toUTF8 =
          text.toUTF8 ++ (String.join texts).toUTF8 := by simp
      rw [hbytes, ByteArray.size_append] at hlt
      by_cases hfits : text.toUTF8.size ≤ left
      · have hgood : ∀ room' ∈ room sink, text.toUTF8.size ≤ room' := by simpa [hleft] using hfits
        obtain ⟨calls, result, next, hwritten, hrun, hdelivers, -⟩ :=
          writeAll_delivers h.uninterrupted_of_room hgood (Nat.le_refl _)
        rcases h.delivers hrun hdelivers with ⟨-, rfl, hcalls, haccepted⟩ |
          ⟨left', -, -, hleft', hlt', -⟩
        · have hnext := (h.room_run hrun hcalls).1
          rw [hleft, haccepted, Option.map_some] at hnext
          rw [writeTexts_of_writeAll (hwritten patience)]
          exact ih hnext (by omega)
        · cases hleft.symm.trans hleft'
          omega
      · have hnone := h.writeAll_eq_none hinterrupted hleft
          (show left < text.toUTF8.size by omega) patience
        rw [writeTexts_of_writeAll hnone, writeTexts_of_none]

end Limited

/-! ### Sinks that accept everything -/

/-- Whatever was asked of the sink, some of the bytes that are offered next are accepted. -/
def Accepts (sink : ω) : Prop :=
  ∀ calls next (bytes : ByteArray), Run sink calls next → bytes.size ≠ 0 →
    ∃ accepted, accepted ≠ 0 ∧ (Sink.write next bytes).1 = .ok accepted

/-- A sink that `Accepts` everything is not interrupted. -/
theorem Accepts.uninterrupted (h : Accepts sink) :
    Uninterrupted fun (_ : Nat) (next : ω) => ∃ calls, Run sink calls next where
  answer hgood hsome _ hanswer := by
    obtain ⟨calls, hrun⟩ := hgood
    obtain ⟨accepted, -, hok⟩ := h _ _ _ hrun hsome
    cases hok.symm.trans hanswer
  next hgood _ _ hwrite := by
    obtain ⟨calls, hrun⟩ := hgood
    exact ⟨_, hrun.append (.write hwrite .done)⟩

/-- All bytes are delivered to a sink that `Accepts` everything. -/
theorem Accepts.delivers (h : Accepts sink) (hrun : Run sink calls last)
    (hdelivers : Delivers bytes calls result) :
    result = .ok () ∧ (∀ call ∈ calls, call.Succeeds) ∧ accepted calls = bytes := by
  cases hdelivers with
  | all hcalls hbytes => exact ⟨rfl, hcalls, hbytes⟩
  | cut _ _ hoffered hrefuses _ =>
      obtain ⟨mid, hfront, hback⟩ := hrun.split
      cases hback with
      | write hwrite _ =>
          obtain ⟨accepted, haccepted, hok⟩ := h _ _ _ hfront hoffered
          rw [hwrite] at hok
          cases hok
          cases hrefuses
          exact absurd rfl haccepted

end Sink

/-! ### Watching a sink -/

/-- A sink, and all that it was asked so far. -/
structure Observed (ω ε : Type) where
  sink : ω
  calls : List (SinkCall ε)

namespace Observed

variable [Sink ω ε]

/-- A sink that was asked nothing yet. -/
def ofSink (sink : ω) : Observed ω ε := ⟨sink, []⟩

instance : Sink (Observed ω ε) ε where
  write o bytes :=
    let (answer, sink) := Sink.write o.sink bytes
    (answer, ⟨sink, o.calls ++ [.write bytes answer]⟩)
  flush o :=
    let (answer, sink) := Sink.flush o.sink
    (answer, ⟨sink, o.calls ++ [.flush answer]⟩)

theorem write_sink {o o' : Observed ω ε} {bytes : ByteArray} {answer : Except ε Nat}
    (h : Sink.write o bytes = (answer, o')) : Sink.write o.sink bytes = (answer, o'.sink) := by
  cases h
  rfl

/-- What is asked of an `Observed` sink is asked of the sink itself. -/
theorem run_sink {o o' : Observed ω ε} {calls : List (SinkCall ε)} (h : Sink.Run o calls o') :
    Sink.Run o.sink calls o'.sink := by
  induction h with
  | done => exact .done
  | write hwrite _ ih =>
      cases hwrite
      exact .write rfl ih
  | flush hflush _ ih =>
      cases hflush
      exact .flush rfl ih

/-- The calls that are kept are those of the `Sink.Run`. -/
theorem calls_of_run {o o' : Observed ω ε} {calls : List (SinkCall ε)} (h : Sink.Run o calls o') :
    o'.calls = o.calls ++ calls := by
  induction h with
  | done => rw [List.append_nil]
  | write hwrite _ ih =>
      cases hwrite
      rw [ih]
      simp
  | flush hflush _ ih =>
      cases hflush
      rw [ih]
      simp

variable [Failure ε]

/-- An `Observed` sink is as uninterrupted as the sink itself. -/
theorem uninterrupted {good : Nat → ω → Prop} (h : Sink.Uninterrupted good) :
    Sink.Uninterrupted fun n (o : Observed ω ε) => good n o.sink where
  answer hgood hsome hle hanswer := h.answer hgood hsome hle hanswer
  next hgood hsome hle hwrite := h.next hgood hsome hle (write_sink hwrite)

/-- `Sink.writeAll` does to the sink what it would do without an observer. -/
theorem writeAll_sink (patience : Nat) (o : Observed ω ε) (bytes : ByteArray) :
    Sink.writeAll patience o.sink bytes =
      (Sink.writeAll patience o bytes).map fun written => (written.1, written.2.sink) := by
  fun_induction Sink.writeAll patience o bytes with
  | case1 patience o bytes hempty => exact Sink.writeAll_of_empty hempty
  | case2 o bytes hsome failure next hwrite hinterrupted =>
      exact Sink.writeAll_zero hsome (write_sink hwrite) hinterrupted
  | case3 o bytes hsome failure next hwrite hinterrupted patience ih =>
      rw [Sink.writeAll_succ hsome (write_sink hwrite) hinterrupted]
      exact ih
  | case4 patience o bytes hsome failure next hwrite hfinal =>
      exact Sink.writeAll_of_error hsome (write_sink hwrite) (Bool.eq_false_iff.2 hfinal)
  | case5 patience o bytes hsome next hwrite =>
      exact Sink.writeAll_of_stalled hsome (write_sink hwrite)
  | case6 patience o bytes hsome accepted next hwrite hzero ih =>
      rw [Sink.writeAll_of_ok hsome (write_sink hwrite) hzero]
      exact ih

/-- `TextWriter.writeTexts` does to the sink what it would do without an observer. -/
theorem writeTexts_sink (patience : Nat) (o : Observed ω ε) (texts : List String) :
    (TextWriter.writeTexts (SinkWriter.ofSink patience o.sink) texts).written =
      (TextWriter.writeTexts
        (SinkWriter.ofSink patience o : SinkWriter (Observed ω ε) ε) texts).written.map
          fun written => (written.1, written.2.sink) := by
  induction texts generalizing o with
  | nil => rfl
  | cons text texts ih =>
      have hsink := writeAll_sink patience o text.toUTF8
      cases hwritten : Sink.writeAll patience o text.toUTF8 with
      | none =>
          rw [hwritten, Option.map_none] at hsink
          rw [Sink.writeTexts_of_writeAll hwritten, Sink.writeTexts_of_writeAll hsink,
            Sink.writeTexts_of_none, Sink.writeTexts_of_none, Option.map_none]
      | some written =>
          obtain ⟨answer, next⟩ := written
          rw [hwritten, Option.map_some] at hsink
          rw [Sink.writeTexts_of_writeAll hwritten, Sink.writeTexts_of_writeAll hsink]
          cases answer with
          | ok => exact ih next
          | error failure =>
              rw [Sink.writeTexts_of_error, Sink.writeTexts_of_error, Option.map_some]

end Observed

/-! ### Limited sinks -/

namespace LimitedSink

theorem fitting_eq (sink : LimitedSink) (size : Nat) :
    sink.fitting size = Sink.fitting sink.room size := by
  unfold fitting Sink.fitting
  cases sink.room <;> rfl

/-- A `LimitedSink` is closed where its room ends. -/
theorem limited : Sink.Limited LimitedSink.room WriteFailure.closed where
  answer sink bytes hsome := by
    rw [← fitting_eq]
    by_cases hzero : sink.fitting bytes.size = 0 <;> simp [Sink.write, hzero, hsome]
  room_write sink bytes hsome := by
    cases hroom : sink.room with
    | none => simp [Sink.write, fitting, hroom, hsome]
    | some room =>
        by_cases hfull : room = 0
        · simp [Sink.write, fitting, hroom, hsome, hfull]
        · have hleft : room - min room bytes.size = room - bytes.size := by omega
          simp [Sink.write, fitting, hroom, hsome, hfull, hleft]

theorem room_write_of_none {sink : LimitedSink} (hroom : sink.room = none) (bytes : ByteArray) :
    (Sink.write sink bytes).2.room = none := by
  simp only [Sink.write]
  split <;> simp [hroom]

theorem accepts {sink : LimitedSink} (hroom : sink.room = none) : Sink.Accepts sink := by
  intro calls next bytes hrun hsome
  have hnext : next.room = none := by
    induction hrun with
    | done => exact hroom
    | @write sink bytes _ _ _ _ hwrite _ ih =>
        have hmid := room_write_of_none hroom bytes
        rw [hwrite] at hmid
        exact ih hmid
    | flush hflush _ ih =>
        cases hflush
        exact ih hroom
  exact ⟨bytes.size, hsome, by simp [Sink.write, fitting, hnext, hsome]⟩

end LimitedSink

end SyntaxExplorer
