import Criteria.Pattern.CharacterSet

/-!
# Patterns as trees

The tree of a regular expression, and the least and the greatest length of the
texts that it can match.
-/

namespace Criteria.Pattern

/-- In which order a repetition tries its numbers of rounds; a possessive one
keeps the rounds it has made. -/
inductive Eagerness where
  | greedy
  | lazy
  | possessive
  deriving DecidableEq

/-- The name of a repetition in the reports on templates. -/
def Eagerness.operatorName : Eagerness → String
  | .greedy => "MAX_REPEAT"
  | .lazy => "MIN_REPEAT"
  | .possessive => "POSSESSIVE_REPEAT"

inductive Anchor where
  | textStart
  | lineStart
  | textEnd
  | lastLineEnd
  | lineEnd
  | wordBoundary (negated : Bool) (ascii : Bool)
  deriving DecidableEq

/-- Bounds on the length of a match; lengths from the limit on are not told
apart. -/
structure Width where
  least : Nat
  most : Nat
  deriving DecidableEq, Inhabited

namespace Width

def limit : Nat := Nat.pow 2 64

def exactly (length : Nat) : Width := ⟨length, length⟩

def capped (width : Width) : Width := ⟨min width.least limit, min width.most limit⟩

def append (first second : Width) : Width :=
  capped ⟨first.least + second.least, first.most + second.most⟩

def either (first second : Width) : Width :=
  ⟨min first.least second.least, max first.most second.most⟩

/-- The width of a number of rounds between two bounds, the upper one open if it
is absent. -/
def rounds (body : Width) (least : Nat) (most : Option Nat) : Width :=
  capped {
    least := body.least * least
    most :=
      match most with
      | some count => body.most * count
      | none => if body.most = 0 then 0 else limit }

end Width

inductive Node where
  | empty
  | character (set : CharacterSet)
  | sequence (first second : Node)
  | choice (first second : Node)
  | repetition (body : Node) (least : Nat) (most : Option Nat) (eagerness : Eagerness)
  | group (number : Nat) (body : Node)
  | atomic (body : Node)
  | lookAhead (negated : Bool) (body : Node)
  | lookBehind (negated : Bool) (body : Node)
  | anchor (anchor : Anchor)
  | reference (group : Nat) (width : Width) (modes : Modes)
  | conditional (group : Nat) (matched unmatched : Node)
  deriving Inhabited

/-- What a part of a tree depends on to be searched for: a look-behind on the width of its
inside, a repetition on being allowed. -/
inductive Demand where
  | fixedWidth (width : Width)
  | repeatable (eagerness : Eagerness)

namespace Node

def width : Node → Width
  | .empty => .exactly 0
  | .character _ => .exactly 1
  | .sequence first second => first.width.append second.width
  | .choice first second => first.width.either second.width
  | .repetition body least most _ => body.width.rounds least most
  | .group _ body => body.width
  | .atomic body => body.width
  | .lookAhead _ _ => .exactly 0
  | .lookBehind _ _ => .exactly 0
  | .anchor _ => .exactly 0
  | .reference _ width _ => width
  | .conditional _ matched unmatched => matched.width.either unmatched.width

/-- What the parts of a tree depend on, outer ones before those inside. -/
def demands : Node → List Demand
  | .sequence first second => first.demands ++ second.demands
  | .choice first second => first.demands ++ second.demands
  | .repetition body _ _ eagerness => .repeatable eagerness :: body.demands
  | .group _ body => body.demands
  | .atomic body => body.demands
  | .lookAhead _ body => body.demands
  | .lookBehind _ body => .fixedWidth body.width :: body.demands
  | .conditional _ matched unmatched => matched.demands ++ unmatched.demands
  | _ => []

end Node

end Criteria.Pattern
