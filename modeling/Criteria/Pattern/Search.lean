import Criteria.Pattern.Reader

/-!
# Searching

Backtracking search for a pattern in a text.  A matcher is handed what must
match after it, and tries its own possibilities in order of preference until the
rest matches too.
-/

namespace Criteria.Pattern

/-- A place in a text, with the characters before it in reverse, and the texts
that groups have captured, the latest first. -/
structure Cursor where
  before : List Char
  after : List Char
  position : Nat
  captures : List (Nat × List Char)

namespace Cursor

def start (text : List Char) : Cursor := ⟨[], text, 0, []⟩

def step (cursor : Cursor) : Option (Char × Cursor) :=
  match cursor.after with
  | [] => none
  | char :: rest =>
      some (char,
        { cursor with before := char :: cursor.before, after := rest
                      position := cursor.position + 1 })

/-- Goes forward over so many characters that are known to be there. -/
def forward (cursor : Cursor) (count : Nat) : Cursor :=
  { cursor with
    before := (cursor.after.take count).reverse ++ cursor.before
    after := cursor.after.drop count
    position := cursor.position + count }

/-- Goes back over so many characters, if they are there. -/
def back? (cursor : Cursor) (count : Nat) : Option Cursor :=
  if count ≤ cursor.position then
    some { cursor with
      before := cursor.before.drop count
      after := (cursor.before.take count).reverse ++ cursor.after
      position := cursor.position - count }
  else none

def captured? (cursor : Cursor) (group : Nat) : Option (List Char) :=
  (cursor.captures.find? (·.1 = group)).map Prod.snd

/-- Records what a group has matched since it began. -/
def capture (group : Nat) (opened closed : Cursor) : Cursor :=
  { closed with
    captures :=
      (group, opened.after.take (closed.position - opened.position)) :: closed.captures }

end Cursor

namespace Anchor

def isWordAt (ascii : Bool) (char : Option Char) : Bool :=
  match char with
  | some char => Category.word.contains ascii char
  | none => false

/-- A boundary lies between a word character and anything else; an empty text has
neither boundaries nor places without one. -/
def holds (anchor : Anchor) (cursor : Cursor) : Bool :=
  match anchor with
  | .textStart => cursor.before.isEmpty
  | .lineStart => cursor.before.head?.getD '\n' = '\n'
  | .textEnd => cursor.after.isEmpty
  | .lastLineEnd => cursor.after.isEmpty || cursor.after = ['\n']
  | .lineEnd => cursor.after.head?.getD '\n' = '\n'
  | .wordBoundary negated ascii =>
      !(cursor.before.isEmpty && cursor.after.isEmpty) &&
        ((isWordAt ascii cursor.before.head? != isWordAt ascii cursor.after.head?) != negated)

end Anchor

/-- Finds a way to match from a place on such that the rest matches too. -/
abbrev Matcher := Cursor → (Cursor → Option Cursor) → Option Cursor

namespace Matcher

/-- So many rounds one after the other. -/
def times (body : Matcher) : Nat → Matcher
  | 0, cursor, rest => rest cursor
  | count + 1, cursor, rest => body cursor fun after => times body count after rest

/-- No further round is tried once the allowed number is used up, or after a
round that has matched nothing. -/
def isDone (allowed : Option Nat) (begun : Option Nat) (cursor : Cursor) : Bool :=
  allowed = some 0 || begun = some cursor.position

/-- As many further rounds as the rest permits; `begun` is where the round before
began. -/
def greedy (body : Matcher) (rest : Cursor → Option Cursor) :
    Nat → Option Nat → Option Nat → Cursor → Option Cursor
  | 0, _, _, cursor => rest cursor
  | budget + 1, allowed, begun, cursor =>
      if isDone allowed begun cursor then rest cursor
      else
        match body cursor fun after =>
            greedy body rest budget (allowed.map (· - 1)) (some cursor.position) after with
        | some final => some final
        | none => rest cursor

/-- As few further rounds as the rest permits. -/
def lazy (body : Matcher) (rest : Cursor → Option Cursor) :
    Nat → Option Nat → Option Nat → Cursor → Option Cursor
  | 0, _, _, cursor => rest cursor
  | budget + 1, allowed, begun, cursor =>
      match rest cursor with
      | some final => some final
      | none =>
          if isDone allowed begun cursor then none
          else
            body cursor fun after =>
              lazy body rest budget (allowed.map (· - 1)) (some cursor.position) after

/-- So many rounds, each kept as it matches first. -/
def timesKept (body : Matcher) : Nat → Cursor → Option Cursor
  | 0, cursor => some cursor
  | count + 1, cursor =>
      match body cursor some with
      | some after => timesKept body count after
      | none => none

/-- As many further rounds as there are, each kept as it matches first. -/
def possessive (body : Matcher) : Nat → Option Nat → Option Nat → Cursor → Cursor
  | 0, _, _, cursor => cursor
  | budget + 1, allowed, begun, cursor =>
      if isDone allowed begun cursor then cursor
      else
        match body cursor some with
        | some after =>
            possessive body budget (allowed.map (· - 1)) (some cursor.position) after
        | none => cursor

/-- Every further round but the last moves on in the text. -/
def roundBudget (cursor : Cursor) : Nat :=
  cursor.after.length + 2

def repetition (body : Matcher) (least : Nat) (most : Option Nat) (eagerness : Eagerness) :
    Matcher := fun cursor rest =>
  let allowed := most.map (· - least)
  match eagerness with
  | .greedy =>
      times body least cursor fun after => greedy body rest (roundBudget after) allowed none after
  | .lazy =>
      times body least cursor fun after => lazy body rest (roundBudget after) allowed none after
  | .possessive =>
      match timesKept body least cursor with
      | some after => rest (possessive body (roundBudget after) allowed none after)
      | none => none

/-- The text of a reference stands at the cursor, letter by letter. -/
def sameText (modes : Modes) (captured ahead : List Char) : Bool :=
  captured.length = ahead.length &&
    (captured.zip ahead).all fun (left, right) =>
      if modes.ignoreCase then
        lowerUnder modes.ascii left.toNat = lowerUnder modes.ascii right.toNat
      else left = right

end Matcher

open Matcher in
/-- The matcher of a tree. -/
def Node.matcher : Node → Matcher
  | .empty => fun cursor rest => rest cursor
  | .character set => fun cursor rest =>
      match cursor.step with
      | some (char, after) => if set.contains char then rest after else none
      | none => none
  | .sequence first second => fun cursor rest =>
      first.matcher cursor fun after => second.matcher after rest
  | .choice first second => fun cursor rest =>
      match first.matcher cursor rest with
      | some final => some final
      | none => second.matcher cursor rest
  | .repetition body least most eagerness =>
      Matcher.repetition body.matcher least most eagerness
  | .group number body => fun cursor rest =>
      body.matcher cursor fun after => rest (Cursor.capture number cursor after)
  | .atomic body => fun cursor rest =>
      match body.matcher cursor some with
      | some after => rest after
      | none => none
  | .lookAhead negated body => fun cursor rest =>
      match body.matcher cursor some, negated with
      | some after, false => rest { cursor with captures := after.captures }
      | none, true => rest cursor
      | _, _ => none
  | .lookBehind negated body => fun cursor rest =>
      let found :=
        match cursor.back? body.width.least with
        | some earlier => body.matcher earlier some
        | none => none
      match found, negated with
      | some after, false => rest { cursor with captures := after.captures }
      | none, true => rest cursor
      | _, _ => none
  | .anchor place => fun cursor rest =>
      if place.holds cursor then rest cursor else none
  | .reference number _ modes => fun cursor rest =>
      match cursor.captured? number with
      | some captured =>
          if sameText modes captured (cursor.after.take captured.length) then
            rest (cursor.forward captured.length)
          else none
      | none => none
  | .conditional number matched unmatched => fun cursor rest =>
      if (cursor.captured? number).isSome then matched.matcher cursor rest
      else unmatched.matcher cursor rest

namespace Compiled

/-- Tries to match at a place and, failing that, at the places after it. -/
def searchFrom (compiled : Compiled) (before : List Char) (position : Nat) :
    List Char → Option Cursor
  | [] => compiled.node.matcher ⟨before, [], position, []⟩ some
  | char :: rest =>
      match compiled.node.matcher ⟨before, char :: rest, position, []⟩ some with
      | some final => some final
      | none => searchFrom compiled (char :: before) (position + 1) rest

/-- The pattern matches some stretch of the text. -/
def occursIn (compiled : Compiled) (text : String) : Bool :=
  (compiled.searchFrom [] 0 text.toList).isSome

end Compiled

end Criteria.Pattern
