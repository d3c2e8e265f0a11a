import Mathlib.Data.List.TakeWhile
import Criteria.Pattern.Reader

/-!
# Repeat counts

A character with a count in braces is read as a repetition with so many rounds.  A
count is refused if it is written in too many digits or is too large, and then the
pattern is, and for the same reason.
-/

namespace Criteria.Pattern

/-- The token of a character without a backslash. -/
def Token.plain (char : Char) : Token := ⟨false, char⟩

theorem tokenize_of_plain {chars : List Char} (plain : ∀ char ∈ chars, char ≠ '\\') :
    tokenize chars = (chars.map Token.plain, false) := by
  induction chars with
  | nil => rfl
  | cons char rest induction =>
      obtain ⟨notBackslash, later⟩ := List.forall_mem_cons.mp plain
      rw [tokenize, induction later]
      · rfl
      · exact fun backslash => absurd backslash notBackslash
      · exact fun _ _ backslash => absurd backslash notBackslash

theorem foldl_length_plain (chars : List Char) (position : Nat) :
    (chars.map Token.plain).foldl (fun position token => position + token.length) position =
      position + chars.length := by
  induction chars generalizing position with
  | nil => rfl
  | cons char chars induction =>
      have single : (Token.plain char).length = 1 := rfl
      rw [List.map_cons, List.foldl_cons, induction, List.length_cons]
      omega

namespace ReaderState

/-- Exactly these characters are ahead, and none of them is escaped. -/
structure Ahead (state : ReaderState) (chars : List Char) : Prop where
  tokens_eq : state.tokens = chars.map Token.plain
  dangling_eq : state.dangling = false

/-- The state so many characters later, when others are left. -/
def after (state : ReaderState) (count : Nat) (rest : List Char) : ReaderState :=
  { state with tokens := rest.map Token.plain, position := state.position + count }

variable {state : ReaderState} {chars rest : List Char}

theorem after_after (count more : Nat) (left : List Char) :
    (state.after count rest).after more left = state.after (count + more) left := by
  simp only [after, Nat.add_assoc]

theorem Ahead.after (ahead : state.Ahead chars) (count : Nat) (rest : List Char) :
    (state.after count rest).Ahead rest :=
  ⟨rfl, ahead.dangling_eq⟩

theorem Ahead.head?_eq {char : Char} (ahead : state.Ahead (char :: rest)) :
    state.tokens.head? = some (Token.plain char) := by
  rw [ahead.tokens_eq]
  rfl

theorem Ahead.head?_eq_none (ahead : state.Ahead []) : state.tokens.head? = none := by
  rw [ahead.tokens_eq]
  rfl

end ReaderState

theorem ok_bind (result : α) (next : α → Except Rejection β) :
    Except.ok result >>= next = next result :=
  rfl

namespace Reader

variable {state : ReaderState} {char : Char} {chars rest : List Char}

theorem run_noticeDangling (complete : state.dangling = false) :
    noticeDangling.run state = .ok ((), state) := by
  simp only [noticeDangling, StateT.run_bind, StateT.run_get, pure_bind, complete,
    Bool.and_false, Bool.false_eq_true, if_false]
  rfl

theorem run_skip (ahead : state.Ahead (chars ++ rest)) :
    (skip chars.length).run state = .ok ((), state.after chars.length rest) := by
  have tokens : state.tokens = chars.map Token.plain ++ rest.map Token.plain := by
    rw [ahead.tokens_eq, List.map_append]
  have dropped : state.tokens.drop chars.length = rest.map Token.plain := by
    rw [tokens]
    exact List.drop_left' (List.length_map _)
  have taken : state.tokens.take chars.length = chars.map Token.plain := by
    rw [tokens]
    exact List.take_left' (List.length_map _)
  simp only [skip, StateT.run_bind, StateT.run_modify, dropped, taken, foldl_length_plain]
  split
  · exact run_noticeDangling (ahead.after chars.length rest).dangling_eq
  · rfl

theorem run_skip_one (ahead : state.Ahead (char :: rest)) :
    (skip 1).run state = .ok ((), state.after 1 rest) :=
  @run_skip state [char] rest ahead

theorem run_accept (ahead : state.Ahead (char :: rest)) :
    (accept char).run state = .ok (true, state.after 1 rest) := by
  have same : (Token.plain char).isPlain char = true := by simp [Token.plain, Token.isPlain]
  simp [accept, peek, ahead.head?_eq, same, run_skip_one ahead]

theorem run_accept_other {other : Char} (ahead : state.Ahead (other :: rest))
    (different : other ≠ char) : (accept char).run state = .ok (false, state) := by
  have notSame : (Token.plain other).isPlain char = false := by
    simp [Token.plain, Token.isPlain, different]
  simp only [accept, peek, StateT.run_bind, StateT.run_get, pure_bind, StateT.run_pure,
    ahead.head?_eq, notSame]
  rfl

theorem run_accept_end (char : Char) (ahead : state.Ahead []) :
    (accept char).run state = .ok (false, state) := by
  simp only [accept, peek, StateT.run_bind, StateT.run_get, pure_bind, StateT.run_pure,
    ahead.head?_eq_none]
  rfl

theorem run_takeAllChars {test : Char → Bool} {stop : Char}
    (ahead : state.Ahead (chars ++ stop :: rest)) (passed : ∀ char ∈ chars, test char = true)
    (stopped : test stop = false) :
    (takeAllChars test).run state = .ok (chars, state.after chars.length (stop :: rest)) := by
  have taken : state.tokens.takeWhile (fun token => !token.escaped && test token.char) =
      chars.map Token.plain := by
    rw [ahead.tokens_eq, List.map_append, List.takeWhile_append_of_pos]
    · simp [Token.plain, stopped]
    · intro token member
      obtain ⟨char, charMember, rfl⟩ := List.mem_map.mp member
      simp [Token.plain, passed char charMember]
  have written : (chars.map Token.plain).map Token.char = chars := by
    simp [Token.plain, Function.comp_def]
  simp only [takeAllChars, takeChars, StateT.run_bind, StateT.run_get, pure_bind,
    List.take_length, taken, List.length_map, run_skip ahead, StateT.run_pure, written]
  rfl

end Reader

open Reader

section Quantifiers

variable {state : ReaderState} {digits rest : List Char}

theorem repeatCount_of_many_digits (many : digitLimit < digits.length) :
    repeatCount digits = .error .repeatCountTooLong :=
  if_pos many

theorem run_readBounds (ahead : state.Ahead (digits ++ '\x7d' :: rest)) (written : digits ≠ [])
    (decimal : ∀ digit ∈ digits, digit.isDigit = true) :
    (readBounds '\x7b').run state = (repeatCount digits).map fun count =>
      (some (count, some count), state.after (digits.length + 1) rest) := by
  have behind := ahead.after digits.length ('\x7d' :: rest)
  have taken := run_takeAllChars ahead decimal (by decide)
  have noComma : (accept ',').run _ = _ := run_accept_other behind (by decide)
  have closed := run_accept behind
  have notEmpty : digits.isEmpty = false := by simp [written]
  have notClosed : (state.tokens.head?.map (·.isPlain '\x7d')).getD false = false := by
    obtain ⟨digit, digits, rfl⟩ := List.exists_cons_of_ne_nil written
    have notBrace : digit ≠ '\x7d' := by
      rintro rfl
      exact absurd (decimal _ List.mem_cons_self) (by decide)
    simp [ahead.head?_eq, Token.isPlain, Token.plain, notBrace]
  unfold readBounds
  split
  -- A brace is none of the quantifiers of one character.
  iterate 3 exact absurd ‹_› (by decide)
  simp only [StateT.run_bind, StateT.run_get, pure_bind, notClosed, taken, noComma, closed,
    Bool.false_eq_true, if_false, Bool.not_true, ok_bind, notEmpty, StateT.run_monadLift]
  cases repeatCount digits with
  | error rejection => rfl
  | ok count =>
      have ordered : ¬count < count := Nat.lt_irrefl count
      simp only [monadLift_self, ok_bind, pure, Except.pure, if_neg ordered]
      rfl

theorem run_readEagerness_end (ahead : state.Ahead []) :
    readEagerness.run state = .ok (.greedy, state) := by
  simp only [readEagerness, StateT.run_bind, run_accept_end _ ahead, ok_bind,
    Bool.false_eq_true, if_false]
  rfl

theorem run_readQuantifier {modes : Modes} {node : Node} {earlier : List Piece}
    (ahead : state.Ahead (digits ++ ['\x7d'])) (written : digits ≠ [])
    (decimal : ∀ digit ∈ digits, digit.isDigit = true) :
    (readQuantifier modes '\x7b' (.plain node :: earlier)).run state =
      (repeatCount digits).map fun count =>
        (.repeated (.repetition node count (some count) .greedy) :: earlier,
          state.after (digits.length + 1) []) := by
  have bounds := run_readBounds ahead written decimal
  have eagerness := run_readEagerness_end (ahead.after (digits.length + 1) [])
  simp only [readQuantifier, StateT.run_bind, StateT.run_get, pure_bind, bounds]
  cases repeatCount digits with
  | error rejection => rfl
  | ok count =>
      simp only [Except.map, ok_bind, StateT.run_bind, eagerness]
      rfl

end Quantifiers

/-- The characters that do not stand for themselves. -/
def specialChars : List Char :=
  ['\\', '|', ')', '[', '.', '^', '$', '(', '*', '+', '?', '\x7b']

section Sequences

variable {state : ReaderState} {context : Context} {pieces : List Piece} {char : Char}
  {rest : List Char}

theorem run_readSequence_ordinary (budget : Nat) (ordinary : char ∉ specialChars)
    (ahead : state.Ahead (char :: rest)) (compact : context.modes.verbose = false) :
    (readSequence (budget + 1) context pieces).run state =
      (readSequence budget context (literalPiece context.modes char.toNat :: pieces)).run
        (state.after 1 rest) := by
  simp only [specialChars, List.mem_cons, List.not_mem_nil, or_false, not_or] at ordinary
  have inside : (Token.plain char).isOneOf ['|', ')'] = false := by
    simp [Token.isOneOf, Token.plain, ordinary]
  have noQuantifier : ['*', '+', '?', '\x7b'].contains char = false := by simp [ordinary]
  obtain ⟨-, -, -, notSet, notAny, notStart, notEnd, notGroup, -⟩ := ordinary
  rw [readSequence]
  simp only [StateT.run_bind, peek, StateT.run_get, pure_bind, ahead.head?_eq,
    run_skip_one ahead, ok_bind, compact, StateT.run_pure, inside, Bool.false_eq_true, if_false,
    Bool.false_and]
  simp only [Token.plain, noQuantifier, Bool.false_eq_true, if_false]

theorem run_readSequence_count (budget : Nat) (ahead : state.Ahead ('\x7b' :: rest))
    (compact : context.modes.verbose = false) :
    (readSequence (budget + 1) context pieces).run state =
      (readQuantifier context.modes '\x7b' pieces >>= readSequence budget context).run
        (state.after 1 rest) := by
  have inside : (Token.plain '\x7b').isOneOf ['|', ')'] = false := by decide
  rw [readSequence]
  simp only [StateT.run_bind, peek, StateT.run_get, pure_bind, ahead.head?_eq,
    run_skip_one ahead, ok_bind, compact, StateT.run_pure, inside, Bool.false_eq_true, if_false,
    Bool.false_and]
  rfl

theorem run_readSequence_end (budget : Nat) (ahead : state.Ahead []) :
    (readSequence (budget + 1) context pieces).run state = .ok (pieces, state) := by
  rw [readSequence]
  simp only [StateT.run_bind, peek, StateT.run_get, pure_bind, ahead.head?_eq_none,
    StateT.run_pure]
  rfl

end Sequences

/-- The tree of a character that is repeated a number of times. -/
def counted (modes : Modes) (char : Char) (count : Nat) : Node :=
  .repetition (.character ⟨false, [.literal char.toNat], modes⟩) count (some count) .greedy

section Counted

variable {state : ReaderState} {context : Context} {char : Char} {digits : List Char}

theorem run_readSequence_counted (budget : Nat) (ordinary : char ∉ specialChars)
    (ahead : state.Ahead (char :: '\x7b' :: (digits ++ ['\x7d']))) (written : digits ≠ [])
    (decimal : ∀ digit ∈ digits, digit.isDigit = true)
    (compact : context.modes.verbose = false) :
    (readSequence (budget + 3) context []).run state =
      (repeatCount digits).map fun count =>
        ([.repeated (counted context.modes char count)], state.after (digits.length + 3) []) := by
  have afterChar := ahead.after 1 ('\x7b' :: (digits ++ ['\x7d']))
  have afterBrace := afterChar.after 1 (digits ++ ['\x7d'])
  rw [run_readSequence_ordinary _ ordinary ahead compact,
    run_readSequence_count _ afterChar compact, StateT.run_bind, literalPiece,
    run_readQuantifier afterBrace written decimal]
  cases repeatCount digits with
  | error rejection => rfl
  | ok count =>
      have total : 1 + (1 + (digits.length + 1)) = digits.length + 3 := by omega
      simp only [Except.map, ok_bind]
      rw [run_readSequence_end _ (afterBrace.after (digits.length + 1) []),
        ReaderState.after_after, ReaderState.after_after, total]
      rfl

theorem run_readAlternatives_counted (budget : Nat) (ordinary : char ∉ specialChars)
    (ahead : state.Ahead (char :: '\x7b' :: (digits ++ ['\x7d']))) (written : digits ≠ [])
    (decimal : ∀ digit ∈ digits, digit.isDigit = true)
    (compact : context.modes.verbose = false) :
    (readAlternatives (budget + 4) context).run state =
      (repeatCount digits).map fun count =>
        (counted context.modes char count, state.after (digits.length + 3) []) := by
  have sequence := run_readSequence_counted budget ordinary ahead written decimal compact
  rw [readAlternatives]
  simp only [StateT.run_bind, sequence]
  cases repeatCount digits with
  | error rejection => rfl
  | ok count =>
      simp only [Except.map, ok_bind, run_accept_end '|' (ahead.after (digits.length + 3) [])]
      rfl

/-- A pattern of a character and a count in braces fails as its count does. -/
theorem compile_counted (names : CharacterNames) (ordinary : char ∉ specialChars)
    (written : digits ≠ []) (decimal : ∀ digit ∈ digits, digit.isDigit = true) :
    compile names (String.ofList (char :: '\x7b' :: (digits ++ ['\x7d']))) =
      (repeatCount digits).map fun count => ⟨counted .none char count, 0⟩ := by
  have plain : ∀ other ∈ char :: '\x7b' :: (digits ++ ['\x7d']), other ≠ '\\' := by
    rintro other member rfl
    simp only [List.mem_cons, List.mem_append, List.not_mem_nil, or_false] at member
    rcases member with rfl | opening | digit | closing
    · exact ordinary (by decide)
    · exact absurd opening (by decide)
    · exact absurd (decimal _ digit) (by decide)
    · exact absurd closing (by decide)
  have budget : 3 * (char :: '\x7b' :: (digits ++ ['\x7d'])).length + 3 =
      3 * digits.length + 8 + 4 := by
    simp only [List.length_cons, List.length_append, List.length_nil]
    omega
  unfold compile readPattern
  rw [String.toList_ofList, tokenize_of_plain plain]
  simp only [StateT.run_bind, StateT.run_get, pure_bind, run_noticeDangling, ok_bind,
    List.length_map, budget]
  rw [run_readAlternatives_counted _ ordinary ⟨rfl, rfl⟩ written decimal rfl]
  cases repeatCount digits <;> rfl

end Counted

end Criteria.Pattern
