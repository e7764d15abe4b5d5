import InodeGateway.Http.Host
import InodeGateway.Text.Half

/-!
# Request targets

What a client is given is a reference to a resource.  It is brought into one form first: the host is
left out, references to directories are resolved, and characters that an address cannot hold are
encoded.  The path of this target is then cut into segments, which are decoded one by one.

## Main definitions

* `Target.Scheme` — the kinds of references
* `Target.ofReference?` — the target of a reference, if it leads anywhere
* `Target.segments?` — the decoded segments of the path
* `Target.isSound` — whether a target can be decoded at all
-/

namespace InodeGateway.Http.Target

/-! ### Characters -/

/-- Controls and the blank do not count at the ends of a reference. -/
def isMargin (c : Char) : Bool := c.toNat ≤ 0x20

/-- Tabs and line ends do not count anywhere. -/
def isBreak (c : Char) : Bool := c = '\t' || c = '\n' || c = '\r'

/-- The characters of a reference that count. -/
def clean (cs : List Char) : List Char :=
  ((cs.dropWhile isMargin).reverse.dropWhile isMargin).reverse.filter fun c => !isBreak c

/-- Characters outside of printable ASCII; the space is printable. -/
def isUnprintable (c : Char) : Bool := c.toNat < 0x20 || 0x7E < c.toNat

def reservedInQuery (c : Char) : Bool := isUnprintable c || c ∈ [' ', '"', '#', '<', '>']

/-- The characters that are encoded in a query to a site of the web. -/
def reservedInWebQuery (c : Char) : Bool := reservedInQuery c || c = '\''

def reservedInPath (c : Char) : Bool := reservedInQuery c || c ∈ ['?', '`', '\x7b', '\x7d']

/-! ### Schemes -/

/-- The kinds of references. -/
inductive Scheme where
  /-- References to sites of the web. -/
  | web
  | file
  | other
  deriving DecidableEq, Repr

namespace Scheme

/-- The names that stand for sites of the web. -/
def webNames : List String := ["http", "https", "ws", "wss", "ftp"]

/-- The kind of references that a name stands for. -/
def ofName (name : String) : Scheme :=
  if name ∈ webNames then .web else if name = "file" then .file else .other

/-- Whether a character separates the parts of a path.  Backslashes do where references are written
by people. -/
def separates (s : Scheme) (c : Char) : Bool := c = '/' || (c = '\\' && s ≠ .other)

/-- Whether a character may stand in a name. -/
def isNameChar (c : Char) : Bool := c.isAlphanum || c = '+' || c = '-' || c = '.'

/-- The name before the first colon, in small letters, and what follows. -/
def cut? (cs : List Char) : Option (String × List Char) :=
  match cs with
  | c :: _ =>
    if c.isAlpha then
      match cs.dropWhile isNameChar with
      | ':' :: rest => some (String.ofList ((cs.takeWhile isNameChar).map Char.toLower), rest)
      | _ => none
    else none
  | [] => none

end Scheme

/-! ### Paths -/

/-- A segment with its encoded dots written plainly. -/
def plainDots : List Char → List Char
  | '%' :: '2' :: e :: rest =>
    if e = 'e' ∨ e = 'E' then '.' :: plainDots rest else '%' :: '2' :: e :: plainDots rest
  | c :: rest => c :: plainDots rest
  | [] => []

/-- Whether a segment stands for the directory itself. -/
def isSingleDot (segment : List Char) : Bool := plainDots segment = ['.']

/-- Whether a segment stands for the directory above. -/
def isDoubleDot (segment : List Char) : Bool := plainDots segment = ['.', '.']

/-- The segment that names a drive, as it is written in the end. -/
def drive? (segment : List Char) : Option (List Char) :=
  match segment with
  | [letter, mark] =>
    if letter.isAlpha && (mark = ':' || mark = '|') then some [letter, ':'] else none
  | _ => none

/-- The directory above; above the root and above a drive there is nothing. -/
def above (s : Scheme) (done : List (List Char)) : List (List Char) :=
  match done with
  | [segment] => if s = .file ∧ drive? segment = some segment then done else []
  | _ => done.dropLast

def placed (s : Scheme) (done : List (List Char)) (segment : List Char) : List Char :=
  if s = .file ∧ done = [] then (drive? segment).getD segment else segment

/-- The segments of a path with the references to directories resolved.  A reference at the end
leaves an empty segment; outside of the web and of files, one that leads above the root leaves
nothing. -/
def resolve (s : Scheme) (done : List (List Char)) : List (List Char) → List (List Char)
  | [] => done
  | segment :: rest =>
    let last := if rest = [] then [[]] else []
    if isDoubleDot segment then
      if s = .other ∧ done = [] then resolve s [] rest
      else resolve s (above s done ++ last) rest
    else if isSingleDot segment then resolve s (done ++ last) rest
    else resolve s (done ++ [placed s done segment]) rest

/-- The one form of a path, from what follows its first separator. -/
def path (s : Scheme) (cs : List Char) : List Char :=
  let segments := (cs.map fun c => if s.separates c then '/' else c).splitOn '/'
  (resolve s [] (segments.map (Percent.encode reservedInPath))).flatMap ('/' :: ·)

/-- The path after a host; without a separator there is only the root, if there has to be one. -/
def pathAfterHost (s : Scheme) (cs : List Char) : List Char :=
  if cs.isEmpty ∧ s = .other then [] else path s (cs.drop 1)

/-- The path of a reference that begins with a host. -/
def hostedPath? (s : Scheme) (cs : List Char) : Option (List Char) :=
  let isHost := if s = .web then Host.isDomain else Host.isOpaque
  if Host.isAuthority (s = .web) isHost (cs.takeWhile fun c => !s.separates c) then
    some (pathAfterHost s (cs.dropWhile fun c => !s.separates c))
  else none

/-- The path of a reference to a site of the web; the number of separators before it does not
matter. -/
def sitePath? (cs : List Char) : Option (List Char) :=
  hostedPath? .web (cs.dropWhile Scheme.web.separates)

/-- The path of a reference to the site that is asked.  Two separators begin another host. -/
def relativePath? (cs : List Char) : Option (List Char) :=
  match cs with
  | a :: b :: rest =>
    if Scheme.web.separates a then
      if Scheme.web.separates b then sitePath? rest else some (path .web (b :: rest))
    else some (path .web cs)
  | cs => some (path .web (cs.dropWhile Scheme.web.separates))

/-- The path of a reference to a file.  Two separators begin a host, unless a drive stands in its
place. -/
def filePath? (cs : List Char) : Option (List Char) :=
  match cs with
  | a :: b :: rest =>
    if Scheme.file.separates a then
      if Scheme.file.separates b then
        let host := rest.takeWhile fun c => !Scheme.file.separates c
        if (drive? host).isSome then some (path .file rest)
        else if host.isEmpty || Host.isDomain host then
          some (pathAfterHost .file (rest.dropWhile fun c => !Scheme.file.separates c))
        else none
      else some (path .file (b :: rest))
    else some (path .file cs)
  | cs => some (path .file (cs.dropWhile Scheme.file.separates))

/-- The path of any other reference: after two slashes a host, after one slash a path, and anything
else as it stands. -/
def otherPath? (cs : List Char) : Option (List Char) :=
  match cs with
  | '/' :: '/' :: rest => hostedPath? .other rest
  | '/' :: rest => some (path .other rest)
  | cs => some (Percent.encode isUnprintable cs)

/-- The kind of a reference without query, and its path. -/
def locate (cs : List Char) : Scheme × Option (List Char) :=
  match Scheme.cut? cs with
  | none => (.web, relativePath? cs)
  | some (name, rest) =>
    match Scheme.ofName name with
    | .web =>
      let isOwn := name = "http" ∧ ¬ ['/', '/'].isPrefixOf rest
      (.web, if isOwn then relativePath? rest else sitePath? rest)
    | .file => (.file, filePath? rest)
    | .other => (.other, otherPath? rest)

/-- The one form of a query; an empty one is left out. -/
def query (s : Scheme) (cs : List Char) : List Char :=
  match cs with
  | '?' :: rest =>
    if rest = [] then []
    else '?' :: Percent.encode (if s = .other then reservedInQuery else reservedInWebQuery) rest
  | _ => []

/-- The site that is asked when a reference names none. -/
def ownSite : String := "http://localhost"

/-- The target of a reference: path and query.  A reference that begins with two slashes as it is
written is a path of the own site. -/
def ofReference? (reference : String) : Option String :=
  let written := (Text.toPlain reference).toList
  let cs := clean (if ['/', '/'].isPrefixOf written then ownSite.toList ++ written else written)
  let cs := cs.takeWhile (· ≠ '#')
  let (s, found) := locate (cs.takeWhile (· ≠ '?'))
  found.map fun path => String.ofList (path ++ query s (cs.dropWhile (· ≠ '?')))

/-! ### Segments -/

/-- The names of the sites of which a target may say that it is on them. -/
def siteMarks : List (List Char) := ["http://".toList, "https://".toList]

def withoutSite (target : String) : String :=
  match siteMarks.find? fun mark => mark.isPrefixOf target.toList with
  | none => target
  | some mark =>
    match (target.toList.drop mark.length).dropWhile (· ≠ '/') with
    | [] => target
    | rest => String.ofList rest

def endsPath (c : Char) : Bool := c = '?' || c = '#'

/-- Whether a character ends the part of a path that leads to a route. -/
def endsRoute (c : Char) : Bool := endsPath c || c = ';'

/-- Whether characters hold an escape that is decoded before a path is cut into segments: any but
those of the characters that mean something in a target, though that of the percent sign counts. -/
def needsDecoding : List Char → Bool
  | [] => false
  | '%' :: rest => (Percent.reserved? rest).all (· = '%') || needsDecoding rest
  | _ :: rest => needsDecoding rest

/-- The first character of a path that begins with an escape, and what follows; nothing if it cannot
be decoded.  The escape of a character that means something in a target is left as it stands. -/
def cutEscape? (cs : List Char) : Option (Char × List Char) :=
  match Percent.reserved? (cs.drop 1) with
  | some '%' => some ('%', cs.drop 3)
  | some _ => some ('%', cs.drop 1)
  | none => Percent.takeCharacter? cs

/-- The first character of a path, which is the slash before the first segment or stands in its
place, and what follows up to an end; nothing if it cannot be decoded.  An escape at the front is
only seen when another one has to be decoded, and no end is looked for there. -/
def cutFirst? (ends : Char → Bool) (cs : List Char) : Option (Char × List Char) :=
  match cs with
  | '%' :: rest =>
    let rest := rest.takeWhile fun c => !ends c
    if needsDecoding rest then cutEscape? ('%' :: rest) else some ('%', rest)
  | c :: rest => some (c, rest.takeWhile fun c => !ends c)
  | [] => some ('/', [])

/-- The decoded segments of a target up to an end; nothing if one cannot be decoded.  Of a first
character that is a pair of units, the second one belongs to the first segment. -/
def segmentsUpTo? (ends : Char → Bool) (target : String) : Option (List String) := do
  let (first, rest) ← cutFirst? ends (withoutSite target).toList
  let segments ← (rest.splitOn '/').mapM Percent.decode?
  let segments := segments.map Text.ofPlain
  match (Text.Piece.char first).secondHalf?, segments with
  | some half, segment :: rest => return (String.ofList half.chars ++ segment) :: rest
  | _, _ => return segments

/-- The decoded segments that lead to a route; nothing if one cannot be decoded. -/
def segments? (target : String) : Option (List String) := segmentsUpTo? endsRoute target

/-- Whether the path of a target can be decoded. -/
def isSound (target : String) : Bool := (segmentsUpTo? endsPath target).isSome

end InodeGateway.Http.Target
