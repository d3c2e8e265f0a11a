/-!
# Characters of YAML texts

Classes of characters, and the folding of line ends inside of scalars.
-/

namespace Criteria.Yaml

/-- Control characters other than tabs and line ends must not occur in a text,
nor the last two code points of the basic plane. -/
def isPermitted (char : Char) : Bool :=
  let code := char.toNat
  code = 0x09 || code = 0x0A || code = 0x0D || (0x20 ≤ code && code ≤ 0x7E) || code = 0x85
    || (0xA0 ≤ code && code ≤ 0xFFFD) || 0x10000 ≤ code

/-- The mark of byte order, which takes no room on a line. -/
def byteOrderMark : Char := '\uFEFF'

def isBreak (char : Char) : Bool :=
  char = '\n' || char = '\x85' || char = '\u2028' || char = '\u2029'

/-- A line end as it is found in data. -/
def plainBreak (char : Char) : Char :=
  if char = '\x85' then '\n' else char

/-- The text ends here, or goes on with a blank or a line end. -/
def endsWord : List Char → Bool
  | [] => true
  | char :: _ => char = ' ' || char = '\t' || isBreak char

/-- Three dashes or three points stand here, a border of documents if they begin
a line. -/
def startsMarker : List Char → Bool
  | '-' :: '-' :: '-' :: rest => endsWord rest
  | '.' :: '.' :: '.' :: rest => endsWord rest
  | _ => false

/-- The brackets of collections and the comma between their items. -/
def isFlowMark (char : Char) : Bool :=
  char = ',' || char = '[' || char = ']' || char = '\x7b' || char = '\x7d'

/-- What line ends inside of a scalar mean: a single one is a space, of several
the first is left out.  The separators of lines and paragraphs stay. -/
def folded (first : Char) (others : List Char) : List Char :=
  if first ≠ '\n' then first :: others
  else if others.isEmpty then [' ']
  else others

end Criteria.Yaml
