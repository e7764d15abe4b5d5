import InodeGateway.Text.Blank

/-!
# Types of content

The type of some content is written as two words with a slash between them, and after that
parameters.  What the parameters say does not matter, but they have to be well formed.

## Main definitions

* `Media.nameOf?` — the two words of a written type
-/

namespace InodeGateway.Http.Media

/-- The characters of the words of a type. -/
def isNameChar (c : Char) : Bool :=
  c.isAlphanum || c ∈ ['!', '#', '$', '%', '&', '\'', '*', '+', '.', '^', '_', '|', '~', '-']

def isWordChar (c : Char) : Bool := isNameChar c || c = '`'

/-- Whether characters are two words with a slash between them. -/
def isName (cs : List Char) : Bool :=
  match cs.splitOn '/' with
  | [kind, detail] =>
    !kind.isEmpty && kind.all isNameChar && !detail.isEmpty && detail.all isNameChar
  | _ => false

/-- The characters that may stand after a backslash between quotation marks. -/
def isEscapable (c : Char) : Bool := c = '\x0b' || (0x20 ≤ c.toNat && c.toNat ≤ 0xFF)

/-- The characters that stand for themselves between quotation marks. -/
def isQuotable (c : Char) : Bool := isEscapable c && c ∉ ['"', '\\', '\x7f']

/-- The rest after the closing quotation mark. -/
def skipQuoted? : List Char → Option (List Char)
  | [] => none
  | '"' :: rest => some rest
  | '\\' :: c :: rest => if isEscapable c then skipQuoted? rest else none
  | c :: rest => if isQuotable c then skipQuoted? rest else none

/-- The rest after a word of at least one character. -/
def skipWord? (cs : List Char) : Option (List Char) :=
  match cs with
  | c :: rest => if isWordChar c then some (rest.dropWhile isWordChar) else none
  | [] => none

/-- The rest after the value of a parameter: a quoted text or a word. -/
def skipValue? (cs : List Char) : Option (List Char) :=
  match cs with
  | '"' :: rest => skipQuoted? rest
  | cs => skipWord? cs

/-- The rest without the spaces at its front. -/
def skipSpaces (cs : List Char) : List Char := cs.dropWhile (· = ' ')

/-- The rest after a parameter: a semicolon, a word, an equals sign and a value.  Spaces may stand
after the semicolon and after the value only. -/
def skipParameter? (cs : List Char) : Option (List Char) :=
  match cs with
  | ';' :: rest =>
    match skipWord? (skipSpaces rest) with
    | some ('=' :: value) => (skipValue? value).map skipSpaces
    | _ => none
  | _ => none

/-- Whether characters are parameters.  Each takes at least one, so their number is enough fuel. -/
def areParameters : (fuel : Nat) → List Char → Bool
  | _, [] => true
  | 0, _ => false
  | fuel + 1, cs =>
    match skipParameter? cs with
    | some rest => areParameters fuel rest
    | none => false

/-- The two words of a written type, in small letters.  Blanks around them do not count. -/
def nameOf? (written : String) : Option (List Char) :=
  let cs := written.toList
  let name := Text.trimList (cs.takeWhile (· ≠ ';'))
  let parameters := cs.dropWhile (· ≠ ';')
  if isName name && areParameters parameters.length parameters then some (name.map Char.toLower)
  else none

end InodeGateway.Http.Media
