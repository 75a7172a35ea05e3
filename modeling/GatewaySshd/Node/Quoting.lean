import Mathlib.Data.Bool.AllAny
import GatewaySshd.Node.Legacy

/-! # Users that a command can name

The name of a user is any text: it may have spaces, quotes and line ends. A command
takes it as an argument, which the reader of commands can be given in quotes.
-/
namespace GatewaySshd.Node
set_option autoImplicit false

/-- The text that the reader takes its fields from, unless blank lines come first. -/
def normalized (text : Str) : Str := ((readLines text).map normalizeLine).flatten

/-- Quotes are doubled, and a carriage return is put before each newline: the reader
drops it again. -/
def quoteByte (byte : UInt8) : Str :=
  if byte = quote then [quote, quote] else if byte = newline then [13, newline] else [byte]

def quoted (text : Str) : Str := quote :: (text.flatMap quoteByte ++ [quote])

def doubled (text : Str) : Str :=
  text.flatMap fun byte => if byte = quote then [quote, quote] else [byte]

section Lines

theorem normalizeLine_cons {byte : UInt8} (h : byte ≠ 13) (line : Str) :
    normalizeLine (byte :: line) = byte :: normalizeLine line := by
  rw [normalizeLine, if_neg fun hDropped => h hDropped.1]

theorem normalized_cons {byte : UInt8} (hNewline : byte ≠ newline) (hReturn : byte ≠ 13)
    (rest : Str) : normalized (byte :: rest) = byte :: normalized rest := by
  rw [normalized, normalized, readLines_cons hNewline, List.map_cons, normalizeLine_cons hReturn,
    List.flatten_cons]
  cases readLines rest with
  | nil => rfl
  | cons line lines => rfl

theorem normalized_lineEnd (rest : Str) :
    normalized (13 :: newline :: rest) = newline :: normalized rest := by
  have hReturn : (13 : UInt8) ≠ newline := by decide
  rw [normalized, readLines_cons hReturn, readLines, if_pos rfl]
  rfl

/-- A carriage return is kept in front of anything but a newline. -/
theorem normalized_return {next : UInt8} (hNext : next ≠ newline) (rest : Str) :
    normalized (13 :: next :: rest) = 13 :: normalized (next :: rest) := by
  have hReturn : (13 : UInt8) ≠ newline := by decide
  have hLine : ∀ line, ¬ ((13 : UInt8) = 13 ∧ (next :: line = [] ∨ next :: line = [newline])) := by
    rintro line ⟨_, hEmpty | hOnly⟩
    · cases hEmpty
    · cases hOnly
      exact hNext rfl
  rw [normalized, normalized, readLines_cons hReturn, readLines_cons hNext, List.headD_cons,
    List.tail_cons, List.map_cons, List.map_cons, normalizeLine, if_neg (hLine _)]
  rfl

/-- What is written for a byte does not begin with a newline. -/
theorem exists_head_quoted (text : Str) :
    ∃ byte rest, text.flatMap quoteByte ++ [quote] = byte :: rest ∧ byte ≠ newline := by
  cases text with
  | nil => exact ⟨quote, [], rfl, by decide⟩
  | cons first more =>
    rw [List.flatMap_cons, quoteByte]
    split
    · exact ⟨quote, _, rfl, by decide⟩
    · split
      · exact ⟨13, _, rfl, by decide⟩
      · rename_i hNewline
        exact ⟨first, _, rfl, hNewline⟩

theorem normalized_quoted (text : Str) :
    normalized (text.flatMap quoteByte ++ [quote]) = doubled text ++ [quote] := by
  have hQuote : quote ≠ newline ∧ quote ≠ 13 := by decide
  induction text with
  | nil => rfl
  | cons byte rest ih =>
    rw [List.flatMap_cons, quoteByte, doubled, List.flatMap_cons, ← doubled]
    split
    · simp only [List.cons_append, List.nil_append]
      rw [normalized_cons hQuote.1 hQuote.2, normalized_cons hQuote.1 hQuote.2, ih]
    · split
      · rename_i hNewline
        rw [hNewline]
        simp only [List.cons_append, List.nil_append]
        rw [normalized_lineEnd, ih]
      · rename_i hNewline
        simp only [List.cons_append, List.nil_append]
        by_cases hReturn : byte = 13
        · obtain ⟨next, more, hMore, hNext⟩ := exists_head_quoted rest
          rw [hReturn, hMore, normalized_return hNext, ← hMore, ih]
        · rw [normalized_cons hNewline hReturn, ih]

theorem readRecord_eq {byte : UInt8} (hNewline : byte ≠ newline) (hReturn : byte ≠ 13)
    (comma : UInt8) (rest : Str) :
    readRecord comma (byte :: rest) = readFields comma .start [] (normalized (byte :: rest)) := by
  obtain ⟨line, lines, hLines⟩ := recordLines_kept byte hNewline hReturn rest
  have hKept : (readLines (byte :: rest)).map normalizeLine = recordLines (byte :: rest) := by
    rw [recordLines, readLines_cons hNewline, List.map_cons, normalizeLine_cons hReturn,
      List.dropWhile_cons_of_neg]
    simp [hNewline]
  rw [readRecord_of_recordLines comma hLines, normalized, hKept, hLines, List.flatten_cons]

end Lines

section Fields

theorem readFields_doubled (comma : UInt8) (field text : Str) :
    readFields comma .quoted field (doubled text ++ [quote]) = some [field ++ text] := by
  induction text generalizing field with
  | nil =>
    rw [List.append_nil]
    rfl
  | cons byte rest ih =>
    rw [doubled, List.flatMap_cons, ← doubled]
    split
    · rename_i hQuote
      rw [hQuote]
      simp only [List.cons_append, List.nil_append]
      rw [readFields, if_pos rfl, readFields, if_pos rfl, ih, List.append_assoc]
      rfl
    · rename_i hQuote
      simp only [List.cons_append, List.nil_append]
      rw [readFields, if_neg hQuote, ih, List.append_assoc]
      rfl

/-- A byte of a word that needs no quotes. -/
def IsBare (byte : UInt8) : Prop := byte ≠ quote ∧ byte ≠ 32 ∧ byte ≠ newline ∧ byte ≠ 13

instance (byte : UInt8) : Decidable (IsBare byte) := inferInstanceAs (Decidable (_ ∧ _))

theorem readFields_word {word rest : Str} (h : ∀ byte ∈ word, IsBare byte) (field : Str) :
    readFields 32 .bare field (word ++ 32 :: rest) =
      (readFields 32 .start [] rest).map ((field ++ word) :: ·) := by
  induction word generalizing field with
  | nil =>
    rw [List.nil_append, readFields, if_neg (by decide), if_pos rfl, List.append_nil]
  | cons byte more ih =>
    obtain ⟨⟨hQuote, hComma, hNewline, _⟩, hMore⟩ := List.forall_mem_cons.mp h
    rw [List.cons_append, readFields, if_neg hQuote, if_neg hComma, if_neg hNewline, ih hMore,
      List.append_assoc]
    rfl

theorem normalized_word {word : Str} (h : ∀ byte ∈ word, IsBare byte) (rest : Str) :
    normalized (word ++ rest) = word ++ normalized rest := by
  induction word with
  | nil => rfl
  | cons byte more ih =>
    obtain ⟨⟨_, _, hNewline, hReturn⟩, hMore⟩ := List.forall_mem_cons.mp h
    rw [List.cons_append, normalized_cons hNewline hReturn, ih hMore, List.cons_append]

/-- A word and a quoted text are read as the word and the text. -/
theorem splitCommand_quoted {word : Str} (hSome : word ≠ []) (h : ∀ byte ∈ word, IsBare byte)
    (text : Str) : splitCommand (word ++ 32 :: quoted text) = [word, text] := by
  cases word with
  | nil => exact absurd rfl hSome
  | cons byte more =>
    obtain ⟨⟨hQuote, hComma, hNewline, hReturn⟩, hMore⟩ := List.forall_mem_cons.mp h
    have hText : normalized (byte :: more ++ 32 :: quoted text) =
        byte :: (more ++ 32 :: quote :: (doubled text ++ [quote])) := by
      rw [normalized_word h, normalized_cons (by decide) (by decide), quoted,
        normalized_cons (by decide) (by decide), normalized_quoted, List.cons_append]
    rw [List.cons_append] at hText ⊢
    rw [splitCommand, readRecord_eq hNewline hReturn, hText, readFields, if_neg hQuote,
      if_neg hComma, if_neg hNewline, readFields_word hMore, readFields, if_pos rfl,
      readFields_doubled]
    rfl

end Fields

/-- No text is out of reach of the commands that take a user: written in quotes it is
the user that the command is about, if the connection may run the command at all. -/
theorem every_user_can_be_named (connection : Connection) (user : Str) (lines : List Str)
    (hPermitted : connection.permitPortForwarding = true) :
    runService connection (ascii "status" ++ 32 :: quoted user) lines =
      [.command (.status user)] ∧
    runService connection (ascii "getUser" ++ 32 :: quoted user) lines =
      [.command (.getUser user)] ∧
    (connection.administrator = true →
      runService connection (ascii "kickUser" ++ 32 :: quoted user) lines =
        [.command (.kickUser user)]) := by
  have hRun : ∀ (name : Str) (command : Command), name ≠ [] →
      (name.all fun byte => decide (IsBare byte)) = true →
      handleCommand connection [name, user] = some command →
      runService connection (name ++ 32 :: quoted user) lines = [.command command] := by
    intro name command hSome hBare hCommand
    rw [runService, if_neg (List.append_ne_nil_of_left_ne_nil hSome _),
      splitCommand_quoted hSome (List.all_iff_forall_prop.mp hBare), hCommand]
  refine ⟨hRun _ _ (by decide) (by decide) ?_, hRun _ _ (by decide) (by decide) ?_, ?_⟩
  · rw [handleCommand, hPermitted]
    rfl
  · rw [handleCommand, hPermitted]
    rfl
  · intro hAdministrator
    refine hRun _ _ (by decide) (by decide) ?_
    rw [handleCommand, hPermitted, hAdministrator]
    rfl

def operator : Connection := ⟨ascii "root", [], true, true, fun _ => none⟩

theorem every_user_can_be_named_with_line_end :
    runService operator (ascii "kickUser \"a \"\"b\r\n\"") [] =
      [.command (.kickUser (ascii "a \"b\n"))] :=
  (every_user_can_be_named operator (ascii "a \"b\n") [] rfl).2.2 rfl

end GatewaySshd.Node
