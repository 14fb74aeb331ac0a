import AppServer.Json.Reader
import AppServer.Template.Tree

/-!
# Tags of templates

A template source is cut into pieces: runs of text and tags. A tag is known by
the characters after its braces; its name and arguments are read here. Every
tag keeps the text around it, on which the treatment of blank lines depends.
-/

namespace AppServer.Template

def skip (cs : List Char) : List Char := cs.dropWhile isTagSpace

/-! ### Literals -/

def afterEscape? (quote : Char) : List Char → Option (List Char)
  | 'u' :: rest =>
    if (rest.take 4).length = 4 ∧ (rest.take 4).all fun c => (Json.hexValue c).isSome then
      some (rest.drop 4)
    else none
  | c :: rest =>
    if c = quote ∨ c ∈ ['\\', '/', 'b', 'f', 'n', 'r', 't'] then some rest else none
  | [] => none

def afterString? (quote : Char) : Nat → List Char → Option (List Char)
  | 0, _ => none
  | _, [] => none
  | fuel + 1, c :: rest =>
    if c = quote then some rest
    else if c = '\\' then (afterEscape? quote rest).bind (afterString? quote fuel)
    else afterString? quote fuel rest

def afterQuoted? : List Char → Option (List Char)
  | '"' :: rest => afterString? '"' (rest.length + 1) rest
  | '\'' :: rest => afterString? '\'' (rest.length + 1) rest
  | _ => none

/-- The text after a word that is not followed by a character of a name. -/
def afterKeyword? (word : String) (cs : List Char) : Option (List Char) := do
  let rest ← Text.dropStart? word.toList cs
  if startsWithSymbol rest then none else some rest

def afterNumber? (cs : List Char) : Option (List Char) :=
  let cs := (Text.dropStart? ['-'] cs).getD cs
  if !(cs.head?.any Char.isDigit) then none
  else
    let rest := cs.dropWhile Char.isDigit
    let rest := ((Text.dropStart? ['.'] rest).getD rest).dropWhile Char.isDigit
    let rest := match Text.dropStart? ['E'] rest with
      | some after =>
        let after := (Text.dropStart? ['-'] after).getD after
        if after.head?.any Char.isDigit then after.dropWhile Char.isDigit else rest
      | none => rest
    if startsWithSymbol rest then none else some rest

mutual

def afterLiteral? : Nat → List Char → Option (List Char)
  | 0, _ => none
  | fuel + 1, cs =>
    match cs with
    | '"' :: _ => afterQuoted? cs
    | '\'' :: _ => afterQuoted? cs
    | '[' :: rest =>
      let rest := skip rest
      afterItems? fuel (((afterLiteral? fuel rest).map skip).getD rest)
    | '{' :: rest =>
      let rest := skip rest
      afterFields? fuel (((afterField? fuel rest).map skip).getD rest)
    | _ =>
      match afterNumber? cs with
      | some rest => some rest
      | none => match afterKeyword? "null" cs with
        | some rest => some rest
        | none => match afterKeyword? "true" cs with
          | some rest => some rest
          | none => afterKeyword? "false" cs

def afterItems? : Nat → List Char → Option (List Char)
  | 0, _ => none
  | _, ']' :: rest => some rest
  | fuel + 1, ',' :: rest => (afterLiteral? fuel (skip rest)).bind fun rest => afterItems? fuel (skip rest)
  | _, _ => none

def afterField? : Nat → List Char → Option (List Char)
  | 0, _ => none
  | fuel + 1, cs => do
    let rest ← afterQuoted? cs
    let rest ← Text.dropStart? [':'] (skip rest)
    afterLiteral? fuel (skip rest)

def afterFields? : Nat → List Char → Option (List Char)
  | 0, _ => none
  | _, '}' :: rest => some rest
  | fuel + 1, ',' :: rest => (afterField? fuel (skip rest)).bind fun rest => afterFields? fuel (skip rest)
  | _, _ => none

end

def doubleQuoted : List Char → List Char
  | '\\' :: '\'' :: rest => '\'' :: doubleQuoted rest
  | '"' :: rest => '\\' :: '"' :: doubleQuoted rest
  | c :: rest => c :: doubleQuoted rest
  | [] => []

def literalArgument (cs : List Char) : Argument :=
  let text := match cs with
    | '\'' :: rest => '"' :: doubleQuoted rest.dropLast ++ ['"']
    | _ => cs
  match Json.read? (String.ofList text) with
  | some value => .literal value
  | none => .malformed (String.ofList cs)

/-! ### Arguments -/

/-- Whether a text goes on with a word that is no argument. With a name behind it, even after blanks, it
is one. -/
def startsWithKeyword (cs : List Char) : Bool :=
  ["as", "else"].any fun word => (Text.dropStart? word.toList cs).any fun rest => !startsWithSymbol (skip rest)

abbrev Arguments := List Argument × List (String × Argument)

mutual

def readArgument : Nat → List Char → Option (Argument × List Char)
  | 0, _ => none
  | fuel + 1, cs =>
    if startsWithKeyword cs then none
    else match afterLiteral? cs.length cs with
      | some rest => some (literalArgument (cs.take (cs.length - rest.length)), rest)
      | none => match readPath cs with
        | some (path, rest) => some (.path path, rest)
        | none => readCall fuel cs

def readCall : Nat → List Char → Option (Argument × List Char)
  | fuel + 1, '(' :: rest => do
    let (argument, rest) ← readNamed fuel (skip rest)
    let rest ← Text.dropStart? [')'] (skip rest)
    match argument with
    | .path p => some (.call (.path p) [] [], rest)
    | argument => some (argument, rest)
  | _, _ => none

/-- A name with at least one argument, or a path. -/
def readNamed : Nat → List Char → Option (Argument × List Char)
  | 0, _ => none
  | fuel + 1, cs =>
    match readIdentifier cs with
    | some (name, rest) =>
      match readArguments fuel rest with
      | (([], []), _) => (readPath cs).map fun (path, rest) => (.path path, rest)
      | ((params, hash), rest) => some (.call (.path (Path.ofName name)) params hash, rest)
    | none => (readPath cs).map fun (path, rest) => (.path path, rest)

def readArguments : Nat → List Char → Arguments × List Char
  | 0, cs => (([], []), cs)
  | fuel + 1, cs =>
    match readPair fuel (skip cs) with
    | some (name, value, rest) =>
      let ((params, hash), rest) := readArguments fuel rest
      ((params, (name, value) :: hash), rest)
    | none =>
      match readArgument fuel (skip cs) with
      | some (value, rest) =>
        let ((params, hash), rest) := readArguments fuel rest
        ((value :: params, hash), rest)
      | none => (([], []), cs)

def readPair : Nat → List Char → Option (String × Argument × List Char)
  | 0, _ => none
  | fuel + 1, cs => do
    let (name, rest) ← readIdentifier cs
    let rest ← Text.dropStart? ['='] (skip rest)
    let (value, rest) ← readArgument fuel (skip rest)
    some (name, value, rest)

end

def enough (cs : List Char) : Nat := 4 * cs.length + 8

def readName (cs : List Char) : Option (Argument × List Char) :=
  match readCall (enough cs) cs with
  | some found => some found
  | none => (readPath cs).map fun (path, rest) => (.path path, rest)

/-- The names given to what a block provides: one or two between bars. -/
def readBlockParams (cs : List Char) : Option (List String × List Char) := do
  let rest ← Text.dropStart? "as".toList (skip cs)
  let rest ← Text.dropStart? ['|'] (skip rest)
  let (first, rest) ← readIdentifier (skip rest)
  match readIdentifier (skip rest) with
  | some (second, rest) => (Text.dropStart? ['|'] (skip rest)).map fun rest => ([first, second], rest)
  | none => (Text.dropStart? ['|'] (skip rest)).map fun rest => ([first], rest)

/-- The head of a value tag: a name with arguments, a path, or a call. -/
def readOutputHead (cs : List Char) : Option (Head × List Char) :=
  match readIdentifier cs with
  | some (name, rest) =>
    match readArguments (enough cs) rest with
    | (([], []), _) => (readName cs).map fun (name, rest) => ({ name }, rest)
    | ((params, hash), rest) => some ({ name := .path (Path.ofName name), params, hash }, rest)
  | none => (readName cs).map fun (name, rest) => ({ name }, rest)

def readBlockHead (cs : List Char) : Option (Head × List Char) := do
  let (name, rest) ← readIdentifier cs
  let ((params, hash), rest) := readArguments (enough cs) rest
  let (blockParams, rest) := (readBlockParams rest).getD ([], rest)
  some ({ name := .path (Path.ofName name), params, hash, blockParams }, rest)

def isTemplateSymbol (c : Char) : Bool :=
  c.isAlphanum || c ∈ ['-', '_', '@', '/', '.'] || 0x80 ≤ c.toNat

/-- A text up to its closing single quote, which a backslash hides, and the text behind the quote. -/
def readSingleQuoted : List Char → Option (List Char × List Char)
  | [] => none
  | '\'' :: rest => some ([], rest)
  | '\\' :: '\'' :: rest => (readSingleQuoted rest).map fun (text, rest) => ('\\' :: '\'' :: text, rest)
  | c :: rest => (readSingleQuoted rest).map fun (text, rest) => (c :: text, rest)

/-- The name of a template; one in single quotes is held with them. -/
def readTemplateName (cs : List Char) : Option (String × List Char) :=
  match cs.takeWhile isTemplateSymbol, cs with
  | [], '\'' :: quoted => match readSingleQuoted quoted with
    | some (c :: text, rest) => some (String.ofList ('\'' :: c :: text ++ ['\'']), rest)
    | _ => none
  | [], _ => none
  | name, _ => some (String.ofList name, cs.dropWhile isTemplateSymbol)

def readInclusionHead (cs : List Char) : Option (Head × List Char) := do
  let (name, rest) ← match readTemplateName cs with
    | some (name, rest) => some (Argument.path (Path.ofName name), rest)
    | none => readName cs
  let ((params, hash), rest) := readArguments (enough cs) rest
  some ({ name, params, hash }, rest)

/-! ### Tags -/

inductive TagKind where
  | output (escaped : Bool)
  | openBlock
  | elseIf
  | otherwise
  | openRaw
  | decorator
  | openDecorator
  | inclusion
  | openInclusion
  | close
  | comment
deriving DecidableEq, Repr

structure Tag where
  kind : TagKind
  head : Head
  trimBefore : Bool := false
  /-- It removes the blanks behind it. -/
  trimAfter : Bool := false

def readTilde (cs : List Char) : Bool × List Char :=
  match skip cs with
  | '~' :: rest => (true, skip rest)
  | rest => (false, rest)

def readEnd (braces : String) (tag : Tag) (cs : List Char) : Option (Tag × List Char) :=
  let (trimAfter, rest) := readTilde cs
  (Text.dropStart? braces.toList rest).map fun rest => ({ tag with trimAfter }, rest)

def noHead : Head := { name := .literal .null }

/-- The tag after two braces that has the given kind if its head can be read. -/
def readTagOf (kind : TagKind) (trimBefore : Bool) (read : List Char → Option (Head × List Char))
    (cs : List Char) : Option (Tag × List Char) := do
  let (head, rest) ← read (skip cs)
  readEnd "\x7d\x7d" { kind, head, trimBefore } rest

def Head.ofName (name : String) : Head := { name := .path (Path.ofName name) }

def isCloseSymbol (c : Char) : Bool := isSymbol c || isTemplateSymbol c

def readCloseHead (cs : List Char) : Option (Head × List Char) :=
  match cs.takeWhile isCloseSymbol with
  | [] => some ((readTemplateName cs).elim (.ofName "", cs) fun (name, rest) => (.ofName name, rest))
  | name => some (.ofName (String.ofList name), cs.dropWhile isCloseSymbol)

/-- The tags that separate the parts of a block, from behind their two braces. -/
def readElse (cs : List Char) : Option (Tag × List Char) := do
  let (trimBefore, rest) := readTilde cs
  let rest ← match rest with
    | '^' :: rest => some rest
    | rest => Text.dropStart? "else".toList rest
  match readEnd "\x7d\x7d" { kind := .otherwise, head := noHead, trimBefore } rest with
  | some found => some found
  | none => readTagOf .elseIf trimBefore readBlockHead rest

def afterLongComment? : List Char → Option (List Char)
  | [] => none
  | c :: rest =>
    match Text.dropStart? "--\x7d\x7d".toList (c :: rest) with
    | some after => some after
    | none => afterLongComment? rest

def afterShortComment? : List Char → Option (List Char)
  | [] => none
  | '}' :: '}' :: rest => some rest
  | _ :: rest => afterShortComment? rest

def readComment (cs : List Char) : Option (Tag × List Char) :=
  let long := (Text.dropStart? ['-', '-'] (skip cs)).bind afterLongComment?
  (long.orElse fun _ => afterShortComment? cs).map fun rest =>
    ({ kind := .comment, head := noHead }, rest)

/-- A value tag with three braces and its tildes between them, from behind the third. -/
def readUnescaped (trimBefore : Bool) (cs : List Char) : Option (Tag × List Char) := do
  let (head, rest) ← readOutputHead (skip cs)
  let rest ← Text.dropStart? ['}'] (skip rest)
  readEnd "\x7d\x7d" { kind := .output false, head, trimBefore } rest

/-- A value tag with three braces and its tildes inside them, from behind the third. -/
def readInnerUnescaped (cs : List Char) : Option (Tag × List Char) := do
  let (trimBefore, rest) := readTilde cs
  let (head, rest) ← readOutputHead rest
  readEnd "\x7d\x7d\x7d" { kind := .output false, head, trimBefore } rest

def readFirstTag (cs : List Char) : Option (Tag × List Char) :=
  match readElse cs, cs with
  | some found, _ => some found
  | none, '!' :: rest => readComment rest
  | none, '{' :: rest => readInnerUnescaped rest
  | none, _ => none

def readTag (cs : List Char) : Option (Tag × List Char) :=
  match readFirstTag cs with
  | some found => some found
  | none =>
    let (trimBefore, rest) := readTilde cs
    match rest with
    | '{' :: rest => readUnescaped trimBefore rest
    | '&' :: rest => readTagOf (.output false) trimBefore
        (fun cs => (readName cs).map fun (name, rest) => ({ name }, rest)) rest
    | '#' :: rest =>
      match skip rest with
      | '*' :: rest => readTagOf .openDecorator trimBefore readBlockHead rest
      | '>' :: rest => readTagOf .openInclusion trimBefore readInclusionHead rest
      | rest => readTagOf .openBlock trimBefore readBlockHead rest
    | '*' :: rest => readTagOf .decorator trimBefore readBlockHead rest
    | '>' :: rest => readTagOf .inclusion trimBefore readInclusionHead rest
    | '/' :: rest => readTagOf .close trimBefore readCloseHead rest
    | rest => readTagOf (.output true) trimBefore readOutputHead rest

/-! ### Pieces -/

inductive Piece where
  /-- Text; `plain` tells that nothing but blanks between two tags is not all there is. -/
  | text (value : List Char) (plain : Bool)
  /-- A tag, with the text before it, last character first, and the text behind it. -/
  | tag (tag : Tag) (before after : List Char)

/-- What an escape in a text stands for, and the text behind it: a backslash keeps two or four braces
from being a tag, and several backslashes in front of a tag stand for one less. -/
def readTextEscape (cs : List Char) : Option (List Char × List Char) :=
  match cs with
  | '\\' :: '{' :: '{' :: '{' :: '{' :: rest => some (['{', '{', '{', '{'], rest)
  | '\\' :: '{' :: '{' :: rest => some (['{', '{'], rest)
  | '\\' :: '\\' :: _ =>
    let slashes := cs.takeWhile (· = '\\')
    let rest := cs.dropWhile (· = '\\')
    if ['{', '{'].isPrefixOf rest then some (slashes.drop 1, rest) else none
  | _ => none

/-- The text up to two braces (or `braces`), and what is left; `fuel` bounds its length. -/
def readTextRun (braces : List Char) : Nat → List Char → List Char × List Char
  | 0, cs => ([], cs)
  | _, [] => ([], [])
  | fuel + 1, c :: rest =>
    match readTextEscape (c :: rest) with
    | some (meaning, rest) =>
      let (run, rest) := readTextRun braces fuel rest
      (meaning ++ run, rest)
    | none =>
      if braces.isPrefixOf (c :: rest) then ([], c :: rest)
      else
        let (run, rest) := readTextRun braces fuel rest
        (c :: run, rest)

/-- The characters of a text that precede a rest of it, last character first, put onto others. -/
def passed (before cs rest : List Char) : List Char :=
  (cs.take (cs.length - rest.length)).reverse ++ before

def readRawOpen (cs : List Char) : Option (Tag × List Char) := do
  let (trimBefore, rest) := readTilde cs
  let (head, rest) ← readBlockHead rest
  readEnd "\x7d\x7d\x7d\x7d" { kind := .openRaw, head, trimBefore } rest

def readRawClose (cs : List Char) : Option (Tag × List Char) := do
  let rest ← Text.dropStart? "\x7b\x7b\x7b\x7b".toList cs
  let (trimBefore, rest) := readTilde rest
  let rest ← Text.dropStart? ['/'] rest
  let (name, rest) := (readIdentifier (skip rest)).getD ("", rest)
  readEnd "\x7d\x7d\x7d\x7d" { kind := .close, head := .ofName name, trimBefore } rest

def readTagPieces (before cs : List Char) : Option (List Piece × List Char) :=
  match (Text.dropStart? "\x7b\x7b\x7b\x7b".toList cs).bind readRawOpen with
  | some (first, afterFirst) => do
    let body := skip afterFirst
    let (run, rest) := readTextRun "\x7b\x7b\x7b\x7b".toList (body.length + 1) body
    let (last, afterLast) ← readRawClose rest
    some ([.tag first before afterFirst, .text run true, .tag last (passed before cs rest) afterLast],
      afterLast)
  | none => do
    let (tag, after) ← readTag (cs.drop 2)
    some ([.tag tag before after], after)

/-- The pieces of a source after the text `before` it; `fuel` bounds their number. -/
def readPieces : Nat → List Char → List Char → Option (List Piece)
  | 0, _, _ => none
  | _, _, [] => some []
  | fuel + 1, before, cs => do
    if ['{', '{'].isPrefixOf cs then
      let (pieces, rest) ← readTagPieces before cs
      some (pieces ++ (← readPieces fuel (passed before cs rest) rest))
    else
      let (run, rest) := readTextRun ['{', '{'] (cs.length + 1) cs
      let piece := Piece.text run (before.isEmpty || !run.all isTagSpace)
      some (piece :: (← readPieces fuel (passed before cs rest) rest))

end AppServer.Template
