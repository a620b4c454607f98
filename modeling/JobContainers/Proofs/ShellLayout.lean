import JobContainers.Proofs.ShellReading
import Mathlib.Data.List.Forall2

/-!
What is laid out from a script is read as that script. The pieces of a line are followed by a
separator or by the end of the line, so their signs can be read one by one.
-/

set_option autoImplicit false

namespace JobContainers.Shell

/-! What can be read again -/

def Word.wellFormed (w : Word) : Bool :=
  if w.quoted then w.text.toList.all isQuotable
  else !w.text.isEmpty && w.text.toList.all isWordChar && (Key.ofSpelling? w.text).isNone

def Test.wellFormed : Test → Bool
  | always => true
  | notExecutable file => file.wellFormed
  | compares _ left right => left.wellFormed && right.wellFormed
  | fewerEntries directory bound => directory.wellFormed && bound.wellFormed

def Command.wellFormed : Command → Bool
  | assign name value => isName name.toList && value.wellFormed
  | capture name program => isName name.toList && program.wellFormed
  | call name args => (Word.bare name).wellFormed && args.all Word.wellFormed

def Line.wellFormed : Line → Bool
  | command c => c.wellFormed
  | function name => isName name.toList && (Word.bare name).wellFormed
  | choice test | loop test => test.wellFormed
  | shortLoop test body => test.wellFormed && body.wellFormed
  | _ => true

def Script.wellFormed (s : Script) : Bool := (s.lines 0).all fun line => line.2.wellFormed

/-! Characters -/

variable {m next : Mode} {c : Char} {cs rest read : List Char} {ts : List Token} {w : Word}

theorem separator?_cases (ends : (separator? c).isSome = true) :
    c = ' ' ∨ c = ';' ∨ c = '|' ∨ c = ')' := by
  unfold separator? at ends
  split at ends <;> simp_all

theorem separator?_of_isWordChar (inside : isWordChar c = true) : separator? c = none := by
  cases ends : separator? c with
  | none => rfl
  | some sign =>
      rcases separator?_cases (Option.isSome_of_eq_some ends) with rfl | rfl | rfl | rfl <;>
        exact absurd inside (by decide)

theorem begin?_of_isWordChar (inside : isWordChar c = true) : begin? c = some (.bare [c]) := by
  have unquoted : c ≠ '"' := by
    rintro rfl
    exact absurd inside (by decide)
  rw [begin?, if_neg unquoted, if_pos inside]

theorem isWordChar_of_isName (name : isName cs = true) : ∀ c ∈ cs, isWordChar c = true := by
  intro c member
  rw [isName, Bool.and_eq_true, List.all_eq_true] at name
  have letter := name.2 c member
  rcases Bool.or_eq_true_iff.mp letter with plain | underscore
  · rw [isWordChar, isInert, plain]
    rfl
  · rw [of_decide_eq_true underscore]
    decide

theorem tokens?_step (step : m.step? c = some (ts, next)) :
    tokens? m (c :: cs) = (tokens? next cs).map (ts ++ ·) := by
  rw [tokens?, step]
  exact Option.map_eq_bind.symm

theorem tokens?_silent (step : m.step? c = some ([], next)) :
    tokens? m (c :: cs) = tokens? next cs := by
  rw [tokens?_step step]
  exact Option.map_id'

/-- No text with a line break is read as one line. -/
theorem newline_not_mem (read : tokens? m cs = some ts) : '\n' ∉ cs := by
  induction cs generalizing m ts with
  | nil => exact List.not_mem_nil
  | cons c cs ih =>
      cases step : m.step? c with
      | none =>
          rw [tokens?, step] at read
          cases read
      | some found =>
          obtain ⟨signs, next⟩ := found
          rw [tokens?_step step] at read
          obtain ⟨more, behind, -⟩ := Option.map_eq_some_iff.mp read
          have here : c ≠ '\n' := by
            rintro rfl
            cases m <;> exact absurd step
              (by simp [Mode.step?, separator?, begin?, isWordChar, isInert, isQuotable])
          rw [List.mem_cons, not_or]
          exact ⟨here.symm, ih behind⟩

/-! Words -/

def Ended (cs : List Char) : Prop := ∀ c ∈ cs.head?, (separator? c).isSome = true

/-- The tokens of a piece of text, whatever follows behind the end of its last word. -/
def Reads (text : String) (ts : List Token) : Prop :=
  ∀ rest, Ended rest →
    tokens? .between (text.toList ++ rest) = (tokens? .between rest).map (ts ++ ·)

theorem ended_cons (ends : (separator? c).isSome = true) : Ended (c :: cs) := by
  intro d head
  cases head
  exact ends

theorem tokens?_word (inside : ∀ c ∈ cs, isWordChar c = true) :
    tokens? (.bare read) (cs ++ rest) = tokens? (.bare (read ++ cs)) rest := by
  induction cs generalizing read with
  | nil => rw [List.nil_append, List.append_nil]
  | cons c cs ih =>
      have step : (Mode.bare read).step? c = some ([], .bare (read ++ [c])) :=
        if_pos (inside c List.mem_cons_self)
      rw [List.cons_append, tokens?_silent step,
        ih fun d member => inside d (List.mem_cons_of_mem c member), List.append_assoc,
        List.singleton_append]

/-- A separator means the same at the end of a word as behind it. -/
theorem tokens?_bare_ended (ended : Ended rest) :
    tokens? (.bare read) rest = (tokens? .between rest).map (.ofBare read :: ·) := by
  cases rest with
  | nil => rfl
  | cons c rest =>
      obtain ⟨⟨ts, next⟩, sign⟩ := Option.isSome_iff_exists.mp (ended c rfl)
      have outside : isWordChar c = false ∧ c ≠ '=' ∧ c ≠ '(' := by
        rcases separator?_cases (ended c rfl) with rfl | rfl | rfl | rfl <;> decide
      have within : (Mode.bare read).step? c = some (.ofBare read :: ts, next) := by
        simp [Mode.step?, outside, sign]
      have between : Mode.between.step? c = some (ts, next) := by
        simp [Mode.step?, sign]
      rw [tokens?_step within, tokens?_step between, Option.map_map]
      rfl

theorem tokens?_closed_ended (ended : Ended rest) :
    tokens? .closed rest = tokens? .between rest := by
  cases rest with
  | nil => rfl
  | cons c rest =>
      obtain ⟨⟨ts, next⟩, sign⟩ := Option.isSome_iff_exists.mp (ended c rfl)
      have closed : Mode.closed.step? c = some (ts, next) := sign
      have between : Mode.between.step? c = some (ts, next) := by
        simp [Mode.step?, sign]
      rw [tokens?_step closed, tokens?_step between]

theorem tokens?_begin (full : cs ≠ []) (inside : ∀ c ∈ cs, isWordChar c = true) :
    tokens? .between (cs ++ rest) = tokens? (.bare cs) rest := by
  obtain ⟨c, cs, rfl⟩ := List.exists_cons_of_ne_nil full
  have first : isWordChar c = true := inside c List.mem_cons_self
  have step : Mode.between.step? c = some ([], .bare [c]) := by
    simp [Mode.step?, separator?_of_isWordChar first, begin?_of_isWordChar first]
  rw [List.cons_append, tokens?_silent step,
    tokens?_word fun d member => inside d (List.mem_cons_of_mem c member)]
  rfl

theorem reads_bare {text : String} (full : text.toList ≠ [])
    (inside : ∀ c ∈ text.toList, isWordChar c = true) : Reads text [.ofBare text.toList] := by
  intro rest ended
  rw [tokens?_begin full inside, tokens?_bare_ended ended]
  rfl

theorem reads_key (k : Key) : Reads k.spelling [.key k] := by
  have known : Token.ofBare k.spelling.toList = .key k := by cases k <;> decide
  have inside : k.spelling.toList.all isWordChar = true := by cases k <;> decide
  rw [← known]
  apply reads_bare
  · cases k <;> decide
  · exact List.all_eq_true.mp inside

theorem tokens?_quoted (inside : ∀ c ∈ cs, isQuotable c = true) :
    tokens? (.inQuotes read) (cs ++ '"' :: rest) =
      (tokens? .closed rest).map (.word (.inQuotes (.ofList (read ++ cs))) :: ·) := by
  induction cs generalizing read with
  | nil =>
      have step : (Mode.inQuotes read).step? '"' =
          some ([.word (.inQuotes (.ofList read))], .closed) := rfl
      rw [List.nil_append, tokens?_step step, List.append_nil]
      rfl
  | cons c cs ih =>
      have quotable : isQuotable c = true := inside c List.mem_cons_self
      have plain : c ≠ '"' := by
        rintro rfl
        exact absurd quotable (by decide)
      have step : (Mode.inQuotes read).step? c = some ([], .inQuotes (read ++ [c])) := by
        simp [Mode.step?, quotable, plain]
      rw [List.cons_append, tokens?_silent step,
        ih fun d member => inside d (List.mem_cons_of_mem c member), List.append_assoc,
        List.singleton_append]

theorem bare_wellFormed {text : String} (fine : (Word.bare text).wellFormed = true) :
    text.toList ≠ [] ∧ (∀ c ∈ text.toList, isWordChar c = true) ∧ Key.ofSpelling? text = none := by
  simp only [Word.wellFormed, Word.bare, Bool.false_eq_true, if_false, Bool.and_eq_true,
    Bool.not_eq_true', List.all_eq_true, Option.isNone_iff_eq_none] at fine
  refine ⟨?_, fine.1.2, fine.2⟩
  intro none'
  rw [String.toList_eq_nil_iff.mp none'] at fine
  cases fine.1.1

theorem reads_word (fine : w.wellFormed = true) : Reads w.spelling [.word w] := by
  obtain ⟨quoted, text⟩ := w
  cases quoted with
  | true =>
      intro rest ended
      have inside : ∀ c ∈ text.toList, isQuotable c = true := List.all_eq_true.mp fine
      have step : Mode.between.step? '"' = some ([], .inQuotes []) := rfl
      have quotes : (Word.spelling ⟨true, text⟩).toList = '"' :: (text.toList ++ ['"']) := by
        simp [Word.spelling]
      rw [quotes, List.cons_append, List.append_assoc, tokens?_silent step, List.singleton_append,
        tokens?_quoted inside, tokens?_closed_ended ended, List.nil_append, String.ofList_toList]
      rfl
  | false =>
      obtain ⟨full, inside, free⟩ := bare_wellFormed fine
      have token : Token.ofBare text.toList = .word ⟨false, text⟩ := by
        rw [Token.ofBare, String.ofList_toList, free]
        rfl
      have spelled : Word.spelling ⟨false, text⟩ = text := rfl
      rw [spelled, ← token]
      exact reads_bare full inside

variable {a b : String} {first second : List Token}

theorem Reads.append (front : Reads a first) (back : Reads b second)
    (apart : ∀ rest, Ended (b.toList ++ rest)) : Reads (a ++ b) (first ++ second) := by
  intro rest ended
  rw [String.toList_append, List.append_assoc, front _ (apart rest), back rest ended,
    Option.map_map]
  congr 1
  funext ts
  exact (List.append_assoc first second ts).symm

theorem reads_sign {text : String} {sign : Token} (only : text.toList = [c])
    (read : separator? c = some ([sign], next))
    (on : ∀ rest, Ended rest → tokens? next rest = tokens? .between rest) :
    Reads text [sign] := by
  intro rest ended
  have step : Mode.between.step? c = some ([sign], next) := by
    simp [Mode.step?, read]
  rw [only, List.singleton_append, tokens?_step step, on rest ended]

theorem reads_pipe : Reads "|" [.pipe] := reads_sign (c := '|') (by simp) rfl fun _ _ => rfl

theorem reads_closing : Reads ")" [.closing] :=
  reads_sign (c := ')') (by simp) rfl fun _ ended => tokens?_closed_ended ended

theorem reads_semicolon : Reads ";" [.semicolon] :=
  reads_sign (c := ';') (by simp) rfl fun _ _ => rfl

theorem Reads.closed (front : Reads a first) : Reads (a ++ ")") (first ++ [.closing]) := by
  refine front.append reads_closing ?_
  intro rest
  have starts : ")".toList ++ rest = ')' :: rest := by simp
  rw [starts]
  exact ended_cons rfl

theorem Reads.semicolon (front : Reads a first) : Reads (a ++ ";") (first ++ [.semicolon]) := by
  refine front.append reads_semicolon ?_
  intro rest
  have starts : ";".toList ++ rest = ';' :: rest := by simp
  rw [starts]
  exact ended_cons rfl

theorem Reads.blank (front : Reads a first) (back : Reads b second) :
    Reads (a ++ " " ++ b) (first ++ second) := by
  have starts : ∀ rest, (" " ++ b).toList ++ rest = ' ' :: (b.toList ++ rest) := by simp
  rw [String.append_assoc]
  refine front.append ?_ ?_
  · intro rest ended
    have step : Mode.between.step? ' ' = some ([], .between) := rfl
    rw [starts, tokens?_silent step, back rest ended]
  · intro rest
    rw [starts]
    exact ended_cons rfl

theorem Reads.spaced {words : List String} {tss : List (List Token)}
    (each : List.Forall₂ Reads words tss) (full : words ≠ []) :
    Reads (Shell.spaced words) tss.flatten := by
  induction each with
  | nil => exact absurd rfl full
  | @cons w ts words tss front behind ih =>
      cases behind with
      | nil =>
          rw [Shell.spaced, String.intercalate_singleton, List.flatten_cons, List.flatten_nil,
            List.append_nil]
          exact front
      | cons next behind =>
          rw [Shell.spaced, String.intercalate_cons_cons, List.flatten_cons]
          exact front.blank (ih (List.cons_ne_nil _ _))

theorem tokens?_value (fine : w.wellFormed = true) :
    tokens? .value (w.spelling.toList ++ rest) = tokens? .between (w.spelling.toList ++ rest) := by
  obtain ⟨c, cs, parts, begins, goes⟩ : ∃ c cs, w.spelling.toList = c :: cs ∧
      separator? c = none ∧ (begin? c).isSome = true := by
    obtain ⟨quoted, text⟩ := w
    cases quoted with
    | true => exact ⟨'"', text.toList ++ ['"'], by simp [Word.spelling], rfl, rfl⟩
    | false =>
        obtain ⟨full, inside, -⟩ := bare_wellFormed fine
        obtain ⟨c, cs, parts⟩ := List.exists_cons_of_ne_nil full
        have first : isWordChar c = true := inside c (parts ▸ List.mem_cons_self)
        refine ⟨c, cs, by simp [Word.spelling, parts], separator?_of_isWordChar first, ?_⟩
        rw [begin?_of_isWordChar first]
        rfl
  obtain ⟨next, begun⟩ := Option.isSome_iff_exists.mp goes
  have value : Mode.value.step? c = some ([], next) := by simp [Mode.step?, begun]
  have between : Mode.between.step? c = some ([], next) := by simp [Mode.step?, begun, begins]
  rw [parts, List.cons_append, tokens?_silent value, tokens?_silent between]

theorem tokens?_assign {name : String} (fine : isName name.toList = true) :
    tokens? .between (name.toList ++ '=' :: rest) =
      (tokens? .value rest).map (.assign name :: ·) := by
  have full : name.toList ≠ [] := by
    intro none'
    rw [none'] at fine
    cases fine
  have outside : isWordChar '=' = false := by decide
  have step : (Mode.bare name.toList).step? '=' = some ([.assign name], .value) := by
    simp [Mode.step?, outside, fine]
  rw [tokens?_begin full (isWordChar_of_isName fine), tokens?_step step]
  rfl

theorem reads_assign {name : String} (named : isName name.toList = true)
    (fine : w.wellFormed = true) :
    Reads (name ++ "=" ++ w.spelling) [.assign name, .word w] := by
  intro rest ended
  have parts : (name ++ "=" ++ w.spelling).toList ++ rest =
      name.toList ++ '=' :: (w.spelling.toList ++ rest) := by simp
  rw [parts, tokens?_assign named, tokens?_value fine, reads_word fine rest ended, Option.map_map]
  rfl

theorem Reads.opening (back : Reads b second) : Reads ("$(" ++ b) (.opening :: second) := by
  intro rest ended
  have begins : Mode.between.step? '$' = some ([], .bare ['$']) := by decide
  have opens : (Mode.bare ['$']).step? '(' = some ([.opening], .between) := by decide
  have parts : ("$(" ++ b).toList ++ rest = '$' :: '(' :: (b.toList ++ rest) := by simp
  rw [parts, tokens?_silent begins, tokens?_step opens, back rest ended, Option.map_map]
  rfl

theorem reads_captured {name : String} (named : isName name.toList = true) :
    Reads (name ++ "=$(") [.assign name, .opening] := by
  intro rest ended
  have parts : (name ++ "=$(").toList ++ rest = name.toList ++ '=' :: '$' :: '(' :: rest := by
    simp
  have begins : Mode.value.step? '$' = some ([], .bare ['$']) := by decide
  have opens : (Mode.bare ['$']).step? '(' = some ([.opening], .between) := by decide
  rw [parts, tokens?_assign named, tokens?_silent begins, tokens?_step opens, Option.map_map]
  rfl

/-! Lines -/

def Comparison.key : Comparison → Key
  | differs => .differs
  | less => .less

def Test.tokens : Test → List Token
  | always => [.key .always]
  | notExecutable file =>
    [.key .openTest, .key .not, .key .executable, .word file, .key .endTest]
  | compares how left right =>
    [.key .openTest, .word left, .key how.key, .word right, .key .endTest]
  | fewerEntries directory bound =>
    [.key .openTest, .opening, .word (.bare "ls"), .word (.bare "-1"), .word directory, .pipe,
      .word (.bare "wc"), .word (.bare "-l"), .closing, .key .less, .word bound, .key .endTest]

def Command.tokens : Command → List Token
  | assign name value => [.assign name, .word value]
  | capture name program => [.assign name, .opening, .word program, .closing]
  | call name args => .word (.bare name) :: args.map .word

def Line.tokens : Line → List Token
  | blank => []
  | command c => c.tokens
  | function name => [.word (.bare name), .noArgs, .key .openFunction]
  | endFunction => [.key .endFunction]
  | choice test => .key .choice :: test.tokens ++ [.semicolon, .key .yes]
  | otherwise => [.key .otherwise]
  | endChoice => [.key .endChoice]
  | loop test => .key .loop :: test.tokens ++ [.semicolon, .key .body]
  | endLoop => [.key .endLoop]
  | shortLoop test body => .key .loop :: test.tokens ++ .semicolon :: .key .body ::
      body.tokens ++ [.semicolon, .key .endLoop]

theorem reads_test {test : Test} (fine : test.wellFormed = true) :
    Reads test.text test.tokens := by
  cases test with
  | always => exact reads_key .always
  | notExecutable file =>
      exact Reads.spaced (.cons (reads_key .openTest) (.cons (reads_key .not)
        (.cons (reads_key .executable) (.cons (reads_word fine) (.cons (reads_key .endTest) .nil)))))
        (List.cons_ne_nil _ _)
  | compares how left right =>
      obtain ⟨first, second⟩ := Bool.and_eq_true_iff.mp fine
      have sign : Reads how.spelling [.key how.key] := by
        cases how with
        | differs => exact reads_key .differs
        | less => exact reads_key .less
      exact Reads.spaced (.cons (reads_key .openTest) (.cons (reads_word first) (.cons sign
        (.cons (reads_word second) (.cons (reads_key .endTest) .nil))))) (List.cons_ne_nil _ _)
  | fewerEntries directory bound =>
      obtain ⟨place, number⟩ := Bool.and_eq_true_iff.mp fine
      have known : ∀ text ∈ ["ls", "-1", "wc", "-l"], (Word.bare text).wellFormed = true := by
        decide
      have list : Reads "$(ls" [.opening, .word (.bare "ls")] := by
        have opened : Reads ("$(" ++ "ls") _ := (reads_word (known "ls" (by simp))).opening
        exact opened
      have count : Reads "-l)" [.word (.bare "-l"), .closing] := by
        have closed : Reads ("-l" ++ ")") _ := (reads_word (known "-l" (by simp))).closed
        exact closed
      exact Reads.spaced (.cons (reads_key .openTest) (.cons list
        (.cons (reads_word (known "-1" (by simp))) (.cons (reads_word place) (.cons reads_pipe
        (.cons (reads_word (known "wc" (by simp))) (.cons count (.cons (reads_key .less)
        (.cons (reads_word number) (.cons (reads_key .endTest) .nil))))))))))
        (List.cons_ne_nil _ _)

theorem reads_command {command : Command} (fine : command.wellFormed = true) :
    Reads command.text command.tokens := by
  cases command with
  | assign name value =>
      obtain ⟨named, word⟩ := Bool.and_eq_true_iff.mp fine
      exact reads_assign named word
  | capture name program =>
      obtain ⟨named, word⟩ := Bool.and_eq_true_iff.mp fine
      exact Reads.spaced (.cons (reads_captured named) (.cons (reads_word word)
        (.cons reads_closing .nil))) (List.cons_ne_nil _ _)
  | call name args =>
      obtain ⟨named, words⟩ := Bool.and_eq_true_iff.mp fine
      have each : List.Forall₂ Reads (args.map Word.spelling)
          (args.map fun w => [.word w]) := by
        rw [List.forall₂_map_left_iff, List.forall₂_map_right_iff, List.forall₂_same]
        exact fun w member => reads_word (List.all_eq_true.mp words w member)
      have head : Reads name [.word (.bare name)] := reads_word named
      have all := Reads.spaced (.cons head each) (List.cons_ne_nil _ _)
      rwa [List.flatten_cons, ← List.flatMap_def, ← List.map_eq_flatMap] at all

theorem reads_noArgs {name : String} (letters : isName name.toList = true)
    (named : (Word.bare name).wellFormed = true) :
    Reads (name ++ "()") [.word (.bare name), .noArgs] := by
  intro rest ended
  obtain ⟨full, inside, free⟩ := bare_wellFormed named
  have token : Token.ofBare name.toList = .word (.bare name) := by
    rw [Token.ofBare, String.ofList_toList, free]
  have dollar : name.toList ≠ ['$'] := by
    intro same
    rw [same] at letters
    exact absurd letters (by decide)
  have outside : isWordChar '(' = false := by decide
  have opens : (Mode.bare name.toList).step? '(' = some ([], .args name.toList) := by
    simp [Mode.step?, outside, dollar]
  have closes : (Mode.args name.toList).step? ')' =
      some ([.ofBare name.toList, .noArgs], .closed) := rfl
  have parts : (name ++ "()").toList ++ rest = name.toList ++ '(' :: ')' :: rest := by simp
  rw [parts, tokens?_begin full inside, tokens?_silent opens, tokens?_step closes, token,
    tokens?_closed_ended ended]

theorem reads_line {line : Line} (fine : line.wellFormed = true) (shown : line ≠ .blank) :
    Reads line.text line.tokens := by
  cases line with
  | blank => exact absurd rfl shown
  | command c => exact reads_command fine
  | function name =>
      obtain ⟨letters, named⟩ := Bool.and_eq_true_iff.mp fine
      exact Reads.spaced (.cons (reads_noArgs letters named) (.cons (reads_key .openFunction) .nil))
        (List.cons_ne_nil _ _)
  | endFunction => exact reads_key .endFunction
  | choice test =>
      have parts : Line.tokens (.choice test) =
          [[.key .choice], test.tokens ++ [.semicolon], [.key .yes]].flatten := by
        simp [Line.tokens]
      rw [parts]
      exact Reads.spaced (.cons (reads_key .choice) (.cons (reads_test fine).semicolon
        (.cons (reads_key .yes) .nil))) (List.cons_ne_nil _ _)
  | otherwise => exact reads_key .otherwise
  | endChoice => exact reads_key .endChoice
  | loop test =>
      have parts : Line.tokens (.loop test) =
          [[.key .loop], test.tokens ++ [.semicolon], [.key .body]].flatten := by
        simp [Line.tokens]
      rw [parts]
      exact Reads.spaced (.cons (reads_key .loop) (.cons (reads_test fine).semicolon
        (.cons (reads_key .body) .nil))) (List.cons_ne_nil _ _)
  | endLoop => exact reads_key .endLoop
  | shortLoop test body =>
      obtain ⟨condition, command⟩ := Bool.and_eq_true_iff.mp fine
      have parts : Line.tokens (.shortLoop test body) =
          [[.key .loop], test.tokens ++ [.semicolon], [.key .body], body.tokens ++ [.semicolon],
            [.key .endLoop]].flatten := by
        simp [Line.tokens]
      rw [parts]
      exact Reads.spaced (.cons (reads_key .loop) (.cons (reads_test condition).semicolon
        (.cons (reads_key .body) (.cons (reads_command command).semicolon
        (.cons (reads_key .endLoop) .nil))))) (List.cons_ne_nil _ _)

theorem mapM_map_some {α β γ : Type} {write : α → β} {read : β → Option γ} {view : α → γ}
    {items : List α} (each : ∀ item ∈ items, read (write item) = some (view item)) :
    (items.map write).mapM read = some (items.map view) := by
  induction items with
  | nil => rfl
  | cons item items ih =>
      obtain ⟨here, others⟩ := List.forall_mem_cons.mp each
      rw [List.map_cons, List.mapM_cons, here, ih others]
      rfl

theorem readTest?_tokens (test : Test) (rest : List Token) :
    readTest? (test.tokens ++ rest) = some (test, rest) := by
  cases test with
  | always | notExecutable | fewerEntries => rfl
  | compares how left right => cases how <;> rfl

theorem readCommand?_tokens (command : Command) :
    readCommand? command.tokens = some command := by
  cases command with
  | assign | capture => rfl
  | call name args =>
      have words : (args.map Token.word).mapM Token.word? = some (args.map id) :=
        mapM_map_some fun _ _ => rfl
      rw [List.map_id] at words
      rw [Command.tokens, Word.bare, readCommand?, words]
      rfl

theorem readShort?_tokens (command : Command) :
    readShort? (command.tokens ++ [.semicolon, .key .endLoop]) = some command := by
  rw [readShort?, List.reverse_append]
  change readCommand? command.tokens.reverse.reverse = some command
  rw [List.reverse_reverse, readCommand?_tokens]

theorem readLine?_tokens (line : Line) : readLine? line.tokens = some line := by
  cases line with
  | blank | function | endFunction | otherwise | endChoice | endLoop => rfl
  | command c =>
      have plain : readLine? c.tokens = (readCommand? c.tokens).map .command := by
        cases c with
        | assign | capture => rfl
        | call name args => rcases args with _ | ⟨first, _ | ⟨second, args⟩⟩ <;> rfl
      rw [Line.tokens, plain, readCommand?_tokens]
      rfl
  | choice test =>
      have read : readLine? (Line.choice test).tokens =
          readChoice? (test.tokens ++ [.semicolon, .key .yes]) := by
        cases test with
        | always | notExecutable | compares | fewerEntries => rfl
      rw [read, readChoice?, readTest?_tokens]
  | loop test =>
      have read : readLine? (Line.loop test).tokens =
          readLoop? (test.tokens ++ [.semicolon, .key .body]) := by
        cases test with
        | always | notExecutable | compares | fewerEntries => rfl
      rw [read, readLoop?, readTest?_tokens]
  | shortLoop test body =>
      have read : readLine? (Line.shortLoop test body).tokens =
          readLoop? (test.tokens ++ .semicolon :: .key .body :: (body.tokens
            ++ [.semicolon, .key .endLoop])) := by
        cases test with
        | always | notExecutable | compares | fewerEntries => rfl
      rw [read, readLoop?, readTest?_tokens]
      cases body with
      | assign | capture | call =>
          exact congrArg (Option.map (Line.shortLoop test)) (readShort?_tokens _)

theorem tokens?_line {line : Line} (fine : line.wellFormed = true) :
    tokens? .between line.text.toList = some line.tokens := by
  by_cases shown : line = .blank
  · subst shown
    rfl
  · have read := reads_line fine shown [] nofun
    rw [List.append_nil] at read
    rw [read]
    exact congrArg some (List.append_nil _)

theorem line?_indented {line : Line} (fine : line.wellFormed = true) (depth : Nat) :
    line? (Script.indented (depth, line)).toList = some line := by
  have read := tokens?_line fine
  have dropped : (List.replicate depth '\t' ++ line.text.toList).dropWhile (· = '\t') =
      line.text.toList := by
    rw [List.dropWhile_append_of_pos (by simp)]
    generalize line.text.toList = cs at read ⊢
    cases cs with
    | nil => rfl
    | cons c cs =>
        have other : c ≠ '\t' := by
          rintro rfl
          cases read
        exact List.dropWhile_cons_of_neg (by simpa using other)
  rw [line?, Script.indented, String.toList_append, String.toList_ofList, dropped, read]
  exact readLine?_tokens line

/-! Blocks -/

section Blocks

variable {lines : List Line} {pending : List (Ending × Script)} {rest : Script}

theorem readBlocks?_endFunction (behind : readBlocks? lines = some (rest, pending)) :
    readBlocks? (.endFunction :: lines) = some (.finish, (.function, rest) :: pending) := by
  rw [readBlocks?, behind]
  rfl

theorem readBlocks?_endLoop (behind : readBlocks? lines = some (rest, pending)) :
    readBlocks? (.endLoop :: lines) = some (.finish, (.loop, rest) :: pending) := by
  rw [readBlocks?, behind]
  rfl

theorem readBlocks?_endChoice (behind : readBlocks? lines = some (rest, pending)) :
    readBlocks? (.endChoice :: lines) = some (.finish, (.choice, rest) :: pending) := by
  rw [readBlocks?, behind]
  rfl

theorem readBlocks?_otherwise {no : Script}
    (behind : readBlocks? lines = some (no, (.choice, rest) :: pending)) :
    readBlocks? (.otherwise :: lines) = some (.finish, (.otherwise no, rest) :: pending) := by
  rw [readBlocks?, behind]
  rfl

/-- The lines of a script are read as the script in front of the end of a block. -/
theorem readBlocks?_lines (s : Script) (depth : Nat)
    (behind : readBlocks? lines = some (.finish, pending)) :
    readBlocks? ((s.lines depth).map (·.2) ++ lines) = some (s, pending) := by
  -- lines are read from behind, so the end of a block is met in front of the block itself
  induction s generalizing depth lines pending with
  | finish => exact behind
  | blank rest ih | command _ rest ih | shortLoop _ _ rest ih =>
      rw [Script.lines, List.map_cons, List.cons_append, readBlocks?, ih depth behind]
      rfl
  | function name body rest bodyRead restRead =>
      have ended := bodyRead (depth + 1) (readBlocks?_endFunction (restRead depth behind))
      have parts : ((Script.function name body rest).lines depth).map (·.2) ++ lines =
          .function name :: ((body.lines (depth + 1)).map (·.2)
            ++ .endFunction :: ((rest.lines depth).map (·.2) ++ lines)) := by
        simp [Script.lines]
      rw [parts, readBlocks?, ended]
      rfl
  | loop test body rest bodyRead restRead =>
      have ended := bodyRead (depth + 1) (readBlocks?_endLoop (restRead depth behind))
      have parts : ((Script.loop test body rest).lines depth).map (·.2) ++ lines =
          .loop test :: ((body.lines (depth + 1)).map (·.2)
            ++ .endLoop :: ((rest.lines depth).map (·.2) ++ lines)) := by
        simp [Script.lines]
      rw [parts, readBlocks?, ended]
      rfl
  | choice test yes no rest yesRead noRead restRead =>
      have closed := readBlocks?_endChoice (restRead depth behind)
      by_cases single : no = .finish
      · have parts : ((Script.choice test yes no rest).lines depth).map (·.2) ++ lines =
            .choice test :: ((yes.lines (depth + 1)).map (·.2)
              ++ .endChoice :: ((rest.lines depth).map (·.2) ++ lines)) := by
          simp [Script.lines, single]
        rw [parts, readBlocks?, yesRead (depth + 1) closed, single]
        rfl
      · have parts : ((Script.choice test yes no rest).lines depth).map (·.2) ++ lines =
            .choice test :: ((yes.lines (depth + 1)).map (·.2)
              ++ .otherwise :: ((no.lines (depth + 1)).map (·.2)
                ++ .endChoice :: ((rest.lines depth).map (·.2) ++ lines))) := by
          simp [Script.lines, single]
        have ended := yesRead (depth + 1) (readBlocks?_otherwise (noRead (depth + 1) closed))
        rw [parts, readBlocks?, ended]
        rfl

end Blocks

/-- What has been laid out is read as it was. -/
theorem Script.read?_text {s : Script} (fine : s.wellFormed = true) (full : s.lines 0 ≠ []) :
    Script.read? s.text.toList = some s := by
  have each : ∀ line ∈ s.lines 0, line.2.wellFormed = true := List.all_eq_true.mp fine
  have split : s.text.toList.splitOn '\n' = (s.lines 0).map fun line => (indented line).toList := by
    have joined : s.text.toList =
        ['\n'].intercalate ((s.lines 0).map fun line => (indented line).toList) := by
      simp [Script.text, String.toList_intercalate, Function.comp_def]
    rw [joined]
    refine List.splitOn_intercalate '\n' ?_ (by simpa using full)
    intro text member
    obtain ⟨⟨depth, line⟩, placed, rfl⟩ := List.mem_map.mp member
    have inside := newline_not_mem (tokens?_line (each _ placed))
    simp [indented, inside]
  have lines : (s.text.toList.splitOn '\n').mapM line? = some ((s.lines 0).map (·.2)) := by
    rw [split]
    exact mapM_map_some fun line placed => line?_indented (each line placed) line.1
  have blocks : readBlocks? ((s.lines 0).map (·.2) ++ []) = some (s, []) :=
    readBlocks?_lines s 0 rfl
  rw [List.append_nil] at blocks
  rw [read?, lines]
  simp [blocks]

end JobContainers.Shell
