import CheckedSql.Proofs.Writing.Lexeme
import Mathlib.Data.List.Infix
import Mathlib.Data.List.DropRight

/-!
# Runs of operator characters

PostgreSQL takes operator characters that stand side by side for one operator.  It lets go of
plus and minus signs at the end, so that `*-` is two operators, but not if the run holds a
character that standard SQL has no operator with: `~-` is one.  `operatorsIn` reads the
operators in scanned pieces by this rule.  The sign of an exponent is part of its number.

Pieces may be put behind others that end quietly (`runsIn_append`), and operator characters in
front of what starts with none are a run of their own (`runsIn_chars`).  The characters of a run
stand side by side, and two operator characters that do are in one run
(`adjacent_of_mem_runsIn`, `exists_run_of_adjacent`).
-/

namespace CheckedSql

/-- The characters that operators are made of. -/
def isOperatorChar (c : Char) : Bool :=
  ['+', '-', '*', '/', '<', '>', '=', '~', '!', '@', '#', '%', '^', '&', '|', '\x60'].contains c

/-- The operator characters that no operator of standard SQL is made of. -/
def isExtraChar (c : Char) : Bool :=
  ['~', '!', '@', '#', '%', '^', '&', '|'].contains c

/-- Whether a character is a sign. -/
def isSign (c : Char) : Bool := c == '+' || c == '-'

namespace Lexeme

/-- Whether a piece is an operator character. -/
def isOperator : Lexeme → Bool
  | symbol c => isOperatorChar c
  | _ => false

/-- Whether a piece starts a number. -/
def startsNumber : Lexeme → Bool
  | word text => text.toList.head?.any Char.isDigit
  | _ => false

/-- Whether a piece is a number up to its exponent, as `5e` in `5e-7`. -/
def isMantissa : Lexeme → Bool
  | word text => text.toList.head?.any Char.isDigit && text.toList.getLast? == some 'e'
  | _ => false

/-- The operator character that a piece is, unless it is the sign of an exponent: `marked` says
whether a mantissa is in front of it, and `rest` is behind it. -/
def operator? (marked : Bool) (rest : List Lexeme) : Lexeme → Option Char
  | symbol c =>
      if isOperatorChar c && !(marked && isSign c && rest.head?.any startsNumber) then some c
      else none
  | _ => none

end Lexeme

/-! ## Reading -/

/-- A run that is complete, unless nothing has been read of it. -/
def closedRun (run : List Char) : List String := if run.isEmpty then [] else [.ofList run]

/-- The runs of operator characters in pieces, if `run` has been read of the first one. -/
def runsFrom (run : List Char) (marked : Bool) : List Lexeme → List String
  | [] => closedRun run
  | lexeme :: rest =>
      match lexeme.operator? marked rest with
      | some c => runsFrom (run ++ [c]) false rest
      | none => closedRun run ++ runsFrom [] lexeme.isMantissa rest

/-- The runs of operator characters in pieces. -/
def runsIn (found : List Lexeme) : List String := runsFrom [] false found

/-- The operators that a run is read as. -/
def splitRun (run : String) : List String :=
  match run.toList with
  | [] => []
  | c :: rest =>
      if (c :: rest).any isExtraChar then [run]
      else .ofList (c :: rest.rdropWhile isSign) :: (rest.rtakeWhile isSign).map String.singleton

/-- The operators in scanned pieces. -/
def operatorsIn (found : List Lexeme) : List String := (runsIn found).flatMap splitRun

example : operatorsIn [.word "a", .symbol '*', .symbol '-', .word "5e", .symbol '-', .word "7"]
    = ["*", "-"] := by
  decide

example : operatorsIn [.symbol '~', .symbol '-', .word "5"] = ["~-"] := by decide

/-! ## Quiet ends -/

/-- Whether a piece has no part in how the pieces behind it are read. -/
def Lexeme.isQuiet (lexeme : Lexeme) : Bool := !lexeme.isOperator && !lexeme.isMantissa

/-- The last piece has no part in how others behind it are read. -/
def EndsQuiet (found : List Lexeme) : Prop := ∀ lexeme ∈ found.getLast?, lexeme.isQuiet = true

section Runs

variable {lexeme : Lexeme} {first second found : List Lexeme} {run : List Char} {marked : Bool}

instance (found : List Lexeme) : Decidable (EndsQuiet found) :=
  inferInstanceAs (Decidable (∀ lexeme ∈ found.getLast?, lexeme.isQuiet = true))

theorem EndsQuiet.append (firstEnds : EndsQuiet first) (secondEnds : EndsQuiet second) :
    EndsQuiet (first ++ second) := by
  intro lexeme mem
  rw [List.getLast?_append, Option.mem_def, Option.or_eq_some_iff] at mem
  rcases mem with inSecond | ⟨-, inFirst⟩
  · exact secondEnds lexeme inSecond
  · exact firstEnds lexeme inFirst

theorem EndsQuiet.append_left (ends : EndsQuiet second) (nonempty : second ≠ [])
    (first : List Lexeme) : EndsQuiet (first ++ second) := by
  rwa [EndsQuiet, List.getLast?_append_of_ne_nil first nonempty]

theorem Lexeme.operator?_eq_none (notOperator : lexeme.isOperator = false) (marked : Bool)
    (rest : List Lexeme) : lexeme.operator? marked rest = none := by
  cases lexeme with
  | symbol c =>
      have other : isOperatorChar c = false := notOperator
      simp [operator?, other]
  | word | quoted | placeholder => rfl

theorem Lexeme.operator?_of_head {rest others : List Lexeme} (same : rest.head? = others.head?) :
    lexeme.operator? marked rest = lexeme.operator? marked others := by
  cases lexeme with
  | symbol c => rw [operator?, operator?, same]
  | word | quoted | placeholder => rfl

/-- A run is complete in front of what starts with no operator character. -/
theorem runsFrom_of_head (notOperator : ∀ lexeme ∈ found.head?, lexeme.isOperator = false) :
    runsFrom run marked found = closedRun run ++ runsIn found := by
  cases found with
  | nil => simp [runsIn, runsFrom, closedRun]
  | cons lexeme rest =>
      have none := Lexeme.operator?_eq_none (notOperator lexeme rfl)
      simp [runsIn, runsFrom, none, closedRun]

/-- What is behind a quiet piece is read alone. -/
theorem runsFrom_append (quiet : lexeme.isQuiet = true) (first second : List Lexeme) :
    runsFrom run marked (first ++ lexeme :: second)
      = runsFrom run marked (first ++ [lexeme]) ++ runsIn second := by
  rw [Lexeme.isQuiet, Bool.and_eq_true, Bool.not_eq_true', Bool.not_eq_true'] at quiet
  obtain ⟨notOperator, notMantissa⟩ := quiet
  have none := Lexeme.operator?_eq_none notOperator
  induction first generalizing run marked with
  | nil => simp [runsFrom, none, notMantissa, closedRun, runsIn]
  | cons other first ih =>
      -- only the next piece matters, and it is the same one
      have same : other.operator? marked (first ++ lexeme :: second)
          = other.operator? marked (first ++ [lexeme]) := by
        refine Lexeme.operator?_of_head ?_
        cases first <;> rfl
      simp only [List.cons_append, runsFrom, same]
      cases other.operator? marked (first ++ [lexeme]) with
      | some c => exact ih
      | none => rw [ih, List.append_assoc]

/-- Pieces behind others that end quietly are read alone. -/
theorem runsIn_append (ends : EndsQuiet first) (second : List Lexeme) :
    runsIn (first ++ second) = runsIn first ++ runsIn second := by
  rcases List.eq_nil_or_concat first with rfl | ⟨before, last, rfl⟩
  · rfl
  · rw [List.concat_eq_append] at ends ⊢
    rw [List.append_assoc, List.singleton_append]
    exact runsFrom_append (ends last (by simp)) before second

/-- Operator characters in front of what starts with none are a run of their own. -/
theorem runsIn_chars {chars : List Char} (nonempty : chars ≠ [])
    (operators : ∀ c ∈ chars, isOperatorChar c = true)
    (notOperator : ∀ lexeme ∈ found.head?, lexeme.isOperator = false) :
    runsIn (chars.map .symbol ++ found) = .ofList chars :: runsIn found := by
  have started (run : List Char) :
      runsFrom run false (chars.map .symbol ++ found)
        = closedRun (run ++ chars) ++ runsIn found := by
    induction chars generalizing run with
    | nil =>
        rw [List.append_nil]
        exact runsFrom_of_head notOperator
    | cons c chars ih =>
        obtain ⟨isOperator, others⟩ := List.forall_mem_cons.1 operators
        have read (rest : List Lexeme) : (Lexeme.symbol c).operator? false rest = some c := by
          simp [Lexeme.operator?, isOperator]
        rw [List.map_cons, List.cons_append, runsFrom, read]
        cases chars with
        | nil => exact runsFrom_of_head notOperator
        | cons next chars =>
            have rest := ih (List.cons_ne_nil next chars) others (run ++ [c])
            rwa [List.append_assoc, List.singleton_append] at rest
  rw [runsIn, started, List.nil_append]
  simp [closedRun, nonempty]

/-! ## Started runs -/

/-- A run that has been started is read to its end. -/
theorem exists_run_of_started (started : run ≠ []) (marked : Bool) (found : List Lexeme) :
    ∃ text ∈ runsFrom run marked found, run <+: text.toList := by
  have closed : .ofList run ∈ closedRun run := by simp [closedRun, started]
  induction found generalizing run marked with
  | nil => exact ⟨_, closed, by simp⟩
  | cons lexeme rest ih =>
      rw [runsFrom]
      cases lexeme.operator? marked rest with
      | none => exact ⟨_, List.mem_append_left _ closed, by simp⟩
      | some c =>
          have longer : run ++ [c] ≠ [] := by simp
          obtain ⟨text, mem, starts⟩ := ih longer false (by simp [closedRun])
          exact ⟨text, mem, (List.prefix_append run [c]).trans starts⟩

/-- What starts with an operator character has a run. -/
theorem head_of_runsIn_eq_nil (noRuns : runsIn found = []) :
    ∀ lexeme ∈ found.head?, lexeme.isOperator = false := by
  cases found with
  | nil => exact nofun
  | cons lexeme rest =>
      rintro _ ⟨⟩
      refine Bool.eq_false_iff.2 fun isOperator => ?_
      cases lexeme with
      | symbol c =>
          have isChar : isOperatorChar c = true := isOperator
          have read : (Lexeme.symbol c).operator? false rest = some c := by
            simp [Lexeme.operator?, isChar]
          obtain ⟨text, mem, -⟩ := exists_run_of_started (List.cons_ne_nil c []) false rest
          have noneStarted : runsFrom [c] false rest = [] := by
            simpa [runsIn, runsFrom, read] using noRuns
          rw [noneStarted] at mem
          cases mem
      | word | quoted | placeholder => cases isOperator

/-- The characters of a run stand side by side, behind what had been read of it. -/
theorem isInfix_of_mem_runsFrom {text : String} (mem : text ∈ runsFrom run marked found) :
    text.toList.map Lexeme.symbol <:+: run.map Lexeme.symbol ++ found := by
  have closed {run : List Char} (mem : text ∈ closedRun run) (rest : List Lexeme) :
      text.toList.map Lexeme.symbol <:+: run.map Lexeme.symbol ++ rest := by
    rw [closedRun] at mem
    split at mem
    · cases mem
    · rw [List.mem_singleton.1 mem, String.toList_ofList]
      exact (List.prefix_append _ _).isInfix
  induction found generalizing run marked with
  | nil => exact closed mem []
  | cons lexeme rest ih =>
      rw [runsFrom] at mem
      split at mem
      · next c read =>
          have isSymbol : lexeme = .symbol c := by
            cases lexeme with
            | symbol other =>
                rw [Lexeme.operator?, Option.ite_none_right_eq_some] at read
                rw [Option.some.inj read.2]
            | word | quoted | placeholder => cases read
          have later := ih mem
          rwa [List.map_append, List.append_assoc, List.map_singleton, List.singleton_append,
            ← isSymbol] at later
      · rcases List.mem_append.1 mem with here | later
        · exact closed here _
        · have inRest : text.toList.map Lexeme.symbol <:+: rest := ih later
          exact (List.infix_cons inRest).trans (List.suffix_append _ _).isInfix

/-- Operator characters side by side are read as one run. -/
theorem exists_run_of_adjacent {a b : Char} (isFirst : isOperatorChar a = true)
    (isSecond : isOperatorChar b = true) (adjacent : [.symbol a, .symbol b] <:+: found) :
    ∃ text ∈ runsIn found, [a, b] <:+: text.toList := by
  obtain ⟨before, behind, rfl⟩ := adjacent
  suffices inside : ∀ (run : List Char) (marked : Bool),
      ∃ text ∈ runsFrom run marked (before ++ [.symbol a, .symbol b] ++ behind),
        [a, b] <:+: text.toList from inside [] false
  induction before with
  | nil =>
      intro run marked
      have first : (Lexeme.symbol a).operator? marked (.symbol b :: behind) = some a := by
        simp [Lexeme.operator?, isFirst, Lexeme.startsNumber]
      have second : (Lexeme.symbol b).operator? false behind = some b := by
        simp [Lexeme.operator?, isSecond]
      have started : run ++ [a] ++ [b] ≠ [] := by simp
      obtain ⟨text, mem, starts⟩ := exists_run_of_started started false behind
      refine ⟨text, by simpa [runsFrom, first, second] using mem, ?_⟩
      rw [List.append_assoc] at starts
      exact (List.suffix_append run ([a] ++ [b])).isInfix.trans starts.isInfix
  | cons lexeme before ih =>
      intro run marked
      rw [List.cons_append, List.cons_append, runsFrom]
      split
      · exact ih _ _
      · obtain ⟨text, mem, inText⟩ := ih [] lexeme.isMantissa
        exact ⟨text, List.mem_append_right _ mem, inText⟩

/-- The characters of a run stand side by side. -/
theorem adjacent_of_mem_runsIn {text : String} (mem : text ∈ runsIn found) :
    text.toList.map Lexeme.symbol <:+: found :=
  isInfix_of_mem_runsFrom mem

/-! ## Operators -/

/-- Runs that are operators are read as these. -/
theorem operatorsIn_of_runsIn {operators : List String} (read : runsIn found = operators)
    (each : ∀ operator ∈ operators, splitRun operator = [operator]) :
    operatorsIn found = operators := by
  rw [operatorsIn, read]
  calc operators.flatMap splitRun = operators.flatMap fun operator => [operator] :=
        List.flatMap_congr each
    _ = operators := by simp

end Runs

end CheckedSql
