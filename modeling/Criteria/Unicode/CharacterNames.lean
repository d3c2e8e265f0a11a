/-!
# Names of characters

Every character of Unicode has a name of its own, and some have aliases.  The whole table
is large, and what is done with names does not depend on what is in it: whoever reads
names is given a table.
-/

namespace Criteria

/-- The characters that are known by name, by their code points.  A name that stands for no
character, or for several, has none. -/
structure CharacterNames where
  code? : String → Option Nat

namespace CharacterNames

def capitalLetters : List Char :=
  ['A', 'B', 'C', 'D', 'E', 'F', 'G', 'H', 'I', 'J', 'K', 'L', 'M', 'N', 'O', 'P', 'Q', 'R',
    'S', 'T', 'U', 'V', 'W', 'X', 'Y', 'Z']

/-- The names of the printable ASCII characters, in the order of their code points. -/
def asciiNames : List String :=
  [ "SPACE", "EXCLAMATION MARK", "QUOTATION MARK", "NUMBER SIGN", "DOLLAR SIGN",
    "PERCENT SIGN", "AMPERSAND", "APOSTROPHE", "LEFT PARENTHESIS", "RIGHT PARENTHESIS",
    "ASTERISK", "PLUS SIGN", "COMMA", "HYPHEN-MINUS", "FULL STOP", "SOLIDUS",
    "DIGIT ZERO", "DIGIT ONE", "DIGIT TWO", "DIGIT THREE", "DIGIT FOUR",
    "DIGIT FIVE", "DIGIT SIX", "DIGIT SEVEN", "DIGIT EIGHT", "DIGIT NINE",
    "COLON", "SEMICOLON", "LESS-THAN SIGN", "EQUALS SIGN", "GREATER-THAN SIGN",
    "QUESTION MARK", "COMMERCIAL AT" ]
  ++ capitalLetters.map ("LATIN CAPITAL LETTER ".push ·)
  ++ [ "LEFT SQUARE BRACKET", "REVERSE SOLIDUS", "RIGHT SQUARE BRACKET", "CIRCUMFLEX ACCENT",
    "LOW LINE", "GRAVE ACCENT" ]
  ++ capitalLetters.map ("LATIN SMALL LETTER ".push ·)
  ++ ["LEFT CURLY BRACKET", "VERTICAL LINE", "RIGHT CURLY BRACKET", "TILDE"]

/-- The part of the table that is built in: the printable ASCII characters, named in letters
of either case. -/
def standard : CharacterNames where
  code? name :=
    (asciiNames.idxOf? (String.ofList (name.toList.map Char.toUpper))).map (32 + ·)

instance : Inhabited CharacterNames := ⟨standard⟩

end CharacterNames

end Criteria
