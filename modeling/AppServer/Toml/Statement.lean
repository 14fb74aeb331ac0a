import AppServer.Toml.Scalar

/-!
# Statements of a configuration document

A document is a sequence of statements: the header of a table, the header of a
further table in a list of tables, or an entry. This module reads the
statements; what they amount to is the matter of `Toml.Document`.
-/

namespace AppServer.Toml

/-- The names of a dotted key, from the outermost. -/
abbrev Key := List String

inductive Expr where
  | scalar (value : Value)
  | array (items : List Expr)
  /-- A table written in place, its keys possibly dotted. -/
  | inline (entries : List (Key × Expr))

inductive Statement where
  | table (key : Key)
  | tableItem (key : Key)
  /-- An entry of the table whose header came last. -/
  | entry (key : Key) (value : Expr)

def maxNesting : Nat := 80

def maxKeyNames : Nat := 80

/-! ### Keys -/

def isNameChar (c : Char) : Bool := c.isAlphanum || c = '_' || c = '-'

/-- One name of a key: bare or a string on one line. -/
def readName (cs : List Char) : Option (String × List Char) :=
  match cs.takeWhile isNameChar with
  | [] => readQuotedLine cs
  | name => some (String.ofList name, cs.dropWhile isNameChar)

def readKeyNames : Nat → List Char → Option (Key × List Char)
  | 0, _ => none
  | fuel + 1, cs => do
    let (name, rest) ← readName (cs.dropWhile isLineSpace)
    match rest.dropWhile isLineSpace with
    | '.' :: rest =>
      let (names, rest) ← readKeyNames fuel rest
      some (name :: names, rest)
    | rest => some ([name], rest)

def readKey (cs : List Char) : Option (Key × List Char) := readKeyNames maxKeyNames cs

/-! ### Comments -/

def skipComment : List Char → Option (List Char)
  | '#' :: rest =>
    match rest.dropWhile isPrintable with
    | [] => some []
    | rest => (afterNewline? rest).map fun _ => rest
  | cs => some cs

def skipLines : Nat → List Char → Option (List Char)
  | 0, cs => some cs
  | fuel + 1, cs => do
    let cs ← skipComment (cs.dropWhile isLineSpace)
    match afterNewline? cs with
    | some rest => skipLines fuel rest
    | none => some cs

def skipBlankAndComments (cs : List Char) : Option (List Char) := skipLines (cs.length + 1) cs

/-! ### Expressions -/

mutual

/-- An expression nested at most `depth` deep; `fuel` bounds the steps. -/
def readExpr : Nat → Nat → List Char → Option (Expr × List Char)
  | 0, _, _ => none
  | fuel + 1, depth, cs =>
    match cs, depth with
    | '[' :: _, 0 => none
    | '{' :: _, 0 => none
    | '[' :: rest, depth + 1 => readItems fuel depth [] rest
    | '{' :: rest, depth + 1 => readInline fuel depth [] rest
    | '"' :: _, _ => (readString cs).map fun (s, rest) => (.scalar (.text s), rest)
    | '\'' :: _, _ => (readString cs).map fun (s, rest) => (.scalar (.text s), rest)
    | _, _ => (readBare cs).map fun (value, rest) => (.scalar value, rest)

def readItems : Nat → Nat → List Expr → List Char → Option (Expr × List Char)
  | 0, _, _, _ => none
  | fuel + 1, depth, done, cs => do
    match ← skipBlankAndComments cs with
    | ']' :: rest => some (.array done.reverse, rest)
    | cs =>
      let (item, rest) ← readExpr fuel depth cs
      match ← skipBlankAndComments rest with
      | ',' :: rest => readItems fuel depth (item :: done) rest
      | ']' :: rest => some (.array (item :: done).reverse, rest)
      | _ => none

/-- The entries of a table written in place after those in `done`; line breaks and comments may stand
everywhere but inside a key. -/
def readInline : Nat → Nat → List (Key × Expr) → List Char → Option (Expr × List Char)
  | 0, _, _, _ => none
  | fuel + 1, depth, done, cs => do
    match ← skipBlankAndComments cs with
    | '}' :: rest => some (.inline done.reverse, rest)
    | cs =>
      let (key, rest) ← readKey cs
      let rest ← expect '=' (← skipBlankAndComments rest)
      let (value, rest) ← readExpr fuel depth (← skipBlankAndComments rest)
      match ← skipBlankAndComments rest with
      | ',' :: rest => readInline fuel depth ((key, value) :: done) rest
      | '}' :: rest => some (.inline ((key, value) :: done).reverse, rest)
      | _ => none

end

/-! ### Statements -/

def readStatement (cs : List Char) : Option (Statement × List Char) :=
  match cs with
  | '[' :: '[' :: rest => do
    let (key, rest) ← readKey rest
    let rest ← expect ']' rest
    let rest ← expect ']' rest
    some (.tableItem key, rest)
  | '[' :: rest => do
    let (key, rest) ← readKey rest
    let rest ← expect ']' rest
    some (.table key, rest)
  | _ => do
    let (key, rest) ← readKey cs
    let rest ← expect '=' rest
    let rest := rest.dropWhile isLineSpace
    let (value, rest) ← readExpr (2 * rest.length + 2) maxNesting rest
    some (.entry key value, rest)

/-- The statements of a text after those in `done`; each ends its line. `fuel` bounds their number. -/
def readStatements : Nat → List Statement → List Char → Option (List Statement)
  | 0, _, _ => none
  | fuel + 1, done, cs => do
    match ← skipBlankAndComments cs with
    | [] => some done.reverse
    | cs =>
      let (statement, rest) ← readStatement cs
      match ← skipComment (rest.dropWhile isLineSpace) with
      | [] => some (statement :: done).reverse
      | rest => readStatements fuel (statement :: done) (← afterNewline? rest)

/-- The statements of a document; a byte order mark in front does not count. -/
def Statement.readAll? (s : String) : Option (List Statement) :=
  let cs := match s.toList with
    | '\uFEFF' :: rest => rest
    | cs => cs
  readStatements (cs.length + 1) [] cs

end AppServer.Toml
