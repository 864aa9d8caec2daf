/-!
# Words

Texts as words between blanks. A blank is a character with the Unicode
property `White_Space`. Collapsing a text keeps its words and puts one space
between them, so that two texts collapse alike exactly if they have the same
words.
-/

namespace ComponentLikeness.Text

/-- The ranges of code points with the property `White_Space`. -/
def blankRanges : List (Nat × Nat) :=
  [(0x09, 0x0D), (0x20, 0x20), (0x85, 0x85), (0xA0, 0xA0), (0x1680, 0x1680), (0x2000, 0x200A),
    (0x2028, 0x2029), (0x202F, 0x202F), (0x205F, 0x205F), (0x3000, 0x3000)]

/-- Whether the character is a blank. -/
def isBlank (c : Char) : Bool :=
  blankRanges.any fun range => range.1 ≤ c.toNat && c.toNat ≤ range.2

/-- Put a character in front of the first word. -/
def extendFirst (c : Char) : List (List Char) → List (List Char)
  | [] => [[c]]
  | w :: ws => (c :: w) :: ws

/-- The words of a text: its longest runs without blanks, in order. -/
def words : List Char → List (List Char)
  | [] => []
  | c :: rest =>
    if isBlank c then words rest
    else
      match rest with
      | [] => [[c]]
      | d :: _ => if isBlank d then [c] :: words rest else extendFirst c (words rest)

/-- The words with one space between two of them. -/
def unwords : List (List Char) → List Char
  | [] => []
  | [w] => w
  | w :: ws => w ++ ' ' :: unwords ws

/-- The text with its words kept and every run of blanks made one space. -/
def collapseBlanks (text : String) : String :=
  String.ofList (unwords (words text.toList))

/-- The text without the blanks at both ends. -/
def trim (text : String) : String :=
  String.ofList (((text.toList.dropWhile isBlank).reverse.dropWhile isBlank).reverse)

/-- The text without any blanks. -/
def removeBlanks (text : String) : String :=
  String.ofList (text.toList.filter fun c => !isBlank c)

/-- The text between the two marks, if it begins with the one and ends with the
other. -/
def stripMarks (opening closing : Char) (text : String) : Option String :=
  match text.toList with
  | [] => none
  | c :: rest =>
    if c = opening && rest.getLast? = some closing then some (String.ofList rest.dropLast)
    else none

/-- Lower case for the letters of ASCII. -/
def asciiLower (text : String) : String := String.ofList (text.toList.map Char.toLower)

/-- Whether one list of characters occurs in the other without gaps. -/
def occursIn (part : List Char) : List Char → Bool
  | [] => part.isEmpty
  | c :: rest => part.isPrefixOf (c :: rest) || occursIn part rest

end ComponentLikeness.Text
