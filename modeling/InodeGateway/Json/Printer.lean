import InodeGateway.Json
import InodeGateway.Num.Text
import InodeGateway.Text.Half

/-!
# Writing documents

The compact form of a document: no blanks between the parts, and in texts only the quotation mark,
the backslash, the control characters and halves of pairs are escaped.

## Main definitions

* `Json.quote` — a text as the format writes it
* `Json.render` — the compact form of a document
* `Json.plain` — a document as part of a text
-/

namespace InodeGateway.Json

/-- The hexadecimal digit of a number below sixteen. -/
def hexDigit (n : Nat) : Char := Nat.digitChar n

/-- The escape of a unit of sixteen bits. -/
def escapeUnit (unit : Nat) : List Char :=
  ['\\', 'u', hexDigit (unit / 4096), hexDigit (unit / 256 % 16), hexDigit (unit / 16 % 16),
    hexDigit (unit % 16)]

/-- A character as it stands inside quotation marks. -/
def escape (c : Char) : List Char :=
  if c = '"' then ['\\', '"']
  else if c = '\\' then ['\\', '\\']
  else if c = '\n' then ['\\', 'n']
  else if c = '\r' then ['\\', 'r']
  else if c = '\t' then ['\\', 't']
  else if c = '\x08' then ['\\', 'b']
  else if c = '\x0c' then ['\\', 'f']
  else if c.toNat < 0x20 then escapeUnit c.toNat
  else Text.Piece.chars (.char c)

/-- A piece of a text as it stands inside quotation marks. -/
def escapePiece : Text.Piece → List Char
  | .char c => escape c
  | .half unit => escapeUnit unit

/-- A text in quotation marks. -/
def quote (s : String) : String :=
  String.ofList ('"' :: ((Text.pieces s.toList).flatMap escapePiece ++ ['"']))

mutual

/-- The compact form of a document.  A number that is not finite is written as `null`. -/
def render : Json → String
  | .null => "null"
  | .bool b => if b then "true" else "false"
  | .num x => if x.isFinite then x.toText else "null"
  | .str s => quote s
  | .arr items => "[" ++ ",".intercalate (renderItems items) ++ "]"
  | .obj members => "\x7b" ++ ",".intercalate (renderMembers members) ++ "\x7d"

/-- The compact forms of the items of an array. -/
def renderItems : List Json → List String
  | [] => []
  | item :: rest => render item :: renderItems rest

/-- The compact forms of the members of an object. -/
def renderMembers : List (String × Json) → List String
  | [] => []
  | (name, value) :: rest => (quote name ++ ":" ++ render value) :: renderMembers rest

end

mutual

/-- A document as part of a text: texts stand without marks, the items of an array are joined by
commas, and an object only says that it is one. -/
def plain : Json → String
  | .null => "null"
  | .bool b => if b then "true" else "false"
  | .num x => x.toText
  | .str s => s
  | .arr items => ",".intercalate (plainItems items)
  | .obj _ => "[object Object]"

/-- The items of an array as parts of a text; nothing stands for `null`. -/
def plainItems : List Json → List String
  | [] => []
  | .null :: rest => "" :: plainItems rest
  | item :: rest => plain item :: plainItems rest

end

end InodeGateway.Json
