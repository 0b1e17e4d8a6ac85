import SyntaxExplorer.Output.TextWriter

/-!
# SyntaxExplorer.Proofs.Output.TextWriter

**Whatever texts are written into, it is the same texts.** `TextWriter.writeTexts` is the only
way of writing that is looked at: writing on is writing more texts (`writeTexts_append`), and
`TextWriter.writeSpaces` writes some texts of spaces (`writeSpaces_eq`). A `String` is then what
was written into it, one text behind the other (`writeTexts_string`).
-/

namespace SyntaxExplorer

namespace TextWriter

variable {τ : Type} [TextWriter τ] {writer : τ}

theorem write_of_isOpen (h : isOpen writer = true) (text : String) :
    write writer text = put writer text := if_pos h

/-- Where a text could not be written, `writeTexts` leaves the writer alone. -/
theorem writeTexts_of_not_isOpen (h : isOpen writer = false) (texts : List String) :
    writeTexts writer texts = writer := by
  induction texts with
  | nil => rfl
  | cons text texts ih =>
      have hwrite : write writer text = writer := if_neg (by simp [h])
      rw [writeTexts, List.foldl_cons, hwrite]
      exact ih

theorem writeTexts_append (writer : τ) (texts more : List String) :
    writeTexts writer (texts ++ more) = writeTexts (writeTexts writer texts) more :=
  List.foldl_append

/-- The texts in which so many spaces are written, at most `width` of them at a time. -/
def spacePieces (width n : Nat) : List String :=
  if n = 0 then []
  else
    let chunk := max 1 (min n width)
    spaces chunk :: spacePieces width (n - chunk)
termination_by n

theorem toList_spaces (n : Nat) : (spaces n).toList = List.replicate n ' ' := by
  unfold spaces String.pushn
  induction n with
  | zero => rfl
  | succ n ih => rw [Nat.repeat, String.toList_push, ih, List.replicate_succ']

theorem join_spacePieces (width n : Nat) : String.join (spacePieces width n) = spaces n := by
  rw [← String.toList_inj, toList_spaces]
  fun_induction spacePieces width n with
  | case1 => rfl
  | case2 n hn chunk ih =>
      rw [String.join_cons, String.toList_append, toList_spaces, ih,
        List.replicate_append_replicate]
      congr 1
      omega

theorem writeSpaces_eq (writer : τ) (width n : Nat) :
    writeSpaces writer width n = writeTexts writer (spacePieces width n) := by
  fun_induction writeSpaces writer width n with
  | case1 writer =>
      rw [spacePieces, if_pos rfl]
      rfl
  | case2 writer n hn hopen chunk ih =>
      have hpieces : spacePieces width n = spaces chunk :: spacePieces width (n - chunk) := by
        rw [spacePieces, if_neg hn]
      rw [ih, hpieces, writeTexts, writeTexts, List.foldl_cons, write_of_isOpen hopen]
  | case3 writer n hn hopen =>
      exact (writeTexts_of_not_isOpen (by simpa using hopen) _).symm

/-- Texts that are written into a `String` stand behind it. -/
theorem writeTexts_string (written : String) (texts : List String) :
    writeTexts written texts = written ++ String.join texts := by
  induction texts generalizing written with
  | nil => simp [writeTexts]
  | cons text texts ih =>
      rw [String.join_cons, ← String.append_assoc]
      exact ih (written ++ text)

end TextWriter

end SyntaxExplorer
