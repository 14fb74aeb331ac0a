import AppServer.Json.Reader
import AppServer.Toml.Value

/-!
# Scalars of a configuration document

The reading of strings, numbers, truth values and dates. Strings are of four
kinds: basic or literal, on one line or on several; only basic ones have
escapes. Numbers and the other bare scalars are read from a whole token.
-/

namespace AppServer.Toml

def isLineSpace (c : Char) : Bool := c = ' ' || c = '\t'

/-- The characters that may stand in a comment or, apart from quotes, in a string. -/
def isPrintable (c : Char) : Bool := c = '\t' || (0x20 ≤ c.toNat && c.toNat ≠ 0x7F)

def afterNewline? : List Char → Option (List Char)
  | '\n' :: rest => some rest
  | '\r' :: '\n' :: rest => some rest
  | _ => none

/-! ### Strings -/

def readCode (count : Nat) (cs : List Char) : Option (Char × List Char) := do
  let digits := cs.take count
  if digits.length ≠ count then none
  else
    let code ← digits.foldlM (fun n c => (Json.hexValue c).map (16 * n + ·)) 0
    if code < 0xD800 ∨ (0xDFFF < code ∧ code < 0x110000) then
      some (Char.ofNat code, cs.drop count)
    else none

def readEscape : List Char → Option (Char × List Char)
  | 'b' :: rest => some ('\x08', rest)
  | 't' :: rest => some ('\t', rest)
  | 'n' :: rest => some ('\n', rest)
  | 'f' :: rest => some ('\x0c', rest)
  | 'r' :: rest => some ('\r', rest)
  | 'e' :: rest => some ('\x1b', rest)
  | '"' :: rest => some ('"', rest)
  | '\\' :: rest => some ('\\', rest)
  | 'x' :: rest => readCode 2 rest
  | 'u' :: rest => readCode 4 rest
  | 'U' :: rest => readCode 8 rest
  | _ => none

/-- A string on one line up to its closing quote; `escapes` tells whether it has escapes. -/
def readLine (quote : Char) (escapes : Bool) : Nat → List Char → List Char → Option (String × List Char)
  | 0, _, _ => none
  | _, _, [] => none
  | fuel + 1, done, c :: rest =>
    if c = quote then some (String.ofList done.reverse, rest)
    else if c = '\\' ∧ escapes then do
      let (c, rest) ← readEscape rest
      readLine quote escapes fuel (c :: done) rest
    else if isPrintable c then readLine quote escapes fuel (c :: done) rest
    else none

def skipBlankLines : Nat → List Char → List Char
  | 0, cs => cs
  | fuel + 1, cs =>
    match afterNewline? (cs.dropWhile isLineSpace) with
    | some rest => skipBlankLines fuel rest
    | none => cs.dropWhile isLineSpace

/-- The text after a backslash that ends a line: all blanks and line breaks are skipped. -/
def afterLineEnd? (cs : List Char) : Option (List Char) :=
  (afterNewline? (cs.dropWhile isLineSpace)).map fun rest => skipBlankLines rest.length rest

/-- A string on several lines up to its three closing quotes, before which one or two may stand. -/
def readLines (quote : Char) (escapes : Bool) : Nat → List Char → List Char → Option (String × List Char)
  | 0, _, _ => none
  | _, _, [] => none
  | fuel + 1, done, c :: rest =>
    if c = quote then
      let run := (c :: rest).takeWhile (· = quote)
      let after := (c :: rest).dropWhile (· = quote)
      if run.length < 3 then readLines quote escapes fuel (run ++ done) after
      else if run.length ≤ 5 then
        some (String.ofList (List.replicate (run.length - 3) quote ++ done).reverse, after)
      else none
    else if c = '\\' ∧ escapes then
      match afterLineEnd? rest with
      | some rest => readLines quote escapes fuel done rest
      | none => do
        let (c, rest) ← readEscape rest
        readLines quote escapes fuel (c :: done) rest
    else if c = '\n' then readLines quote escapes fuel (c :: done) rest
    else if c = '\r' then
      match rest with
      | '\n' :: rest => readLines quote escapes fuel ('\n' :: '\r' :: done) rest
      | _ => none
    else if isPrintable c then readLines quote escapes fuel (c :: done) rest
    else none

def readQuotedLine : List Char → Option (String × List Char)
  | '"' :: rest => readLine '"' true (rest.length + 1) [] rest
  | '\'' :: rest => readLine '\'' false (rest.length + 1) [] rest
  | _ => none

/-- A string of any kind, from its opening quotes. A line break after three of them is skipped. -/
def readString (cs : List Char) : Option (String × List Char) :=
  match cs with
  | '"' :: '"' :: '"' :: rest =>
    let rest := (afterNewline? rest).getD rest
    readLines '"' true (rest.length + 1) [] rest
  | '\'' :: '\'' :: '\'' :: rest =>
    let rest := (afterNewline? rest).getD rest
    readLines '\'' false (rest.length + 1) [] rest
  | _ => readQuotedLine cs

/-! ### Numbers -/

/-- Digits without the single underscores between them; none when an underscore has no digit beside it. -/
def withoutUnderscores (isDigit : Char → Bool) : List Char → Option (List Char)
  | [] => none
  | [c] => if isDigit c then some [c] else none
  | c :: '_' :: rest =>
    if isDigit c then (withoutUnderscores isDigit rest).map (c :: ·) else none
  | c :: rest => if isDigit c then (withoutUnderscores isDigit rest).map (c :: ·) else none

def integerLimit : Nat := 0x8000000000000000

def readBase (base : Nat) (cs : List Char) : Option Int := do
  let inBase (c : Char) : Bool := match Json.hexValue c with
    | some n => n < base
    | none => false
  let digits ← withoutUnderscores inBase cs
  let value := digits.foldl (fun n c => base * n + (Json.hexValue c).getD 0) 0
  if value < integerLimit then some value else none

def splitSign : List Char → Bool × List Char
  | '-' :: rest => (true, rest)
  | '+' :: rest => (false, rest)
  | cs => (false, cs)

/-- The digits before the point or of a decimal integer: a leading zero must stand alone. -/
def wholeDigits (cs : List Char) : Option (List Char) := do
  let digits ← withoutUnderscores Char.isDigit cs
  if digits.head? = some '0' ∧ 1 < digits.length then none else some digits

def readDecimal (cs : List Char) : Option Int := do
  let (negative, cs) := splitSign cs
  let digits ← wholeDigits cs
  let value := Text.digitsValue digits
  if negative then (if value ≤ integerLimit then some (-(value : Int)) else none)
  else if value < integerLimit then some value else none

def readInteger : List Char → Option Int
  | '0' :: 'x' :: rest => readBase 16 rest
  | '0' :: 'o' :: rest => readBase 8 rest
  | '0' :: 'b' :: rest => readBase 2 rest
  | cs => readDecimal cs

def nearest? (digits : List Char) (exponent : Int) : Option Float :=
  let value := Text.digitsValue digits
  let top := ((Nat.toDigits 10 value).length : Int) + exponent
  if value = 0 ∨ top < -400 then some 0
  else if 400 < top then none
  else
    let f := Float.ofScientific value (exponent < 0) exponent.natAbs
    if f.isInf then none else some f

def readExponent (cs : List Char) : Option Int := do
  let (negative, cs) := splitSign cs
  let value := Text.digitsValue (← withoutUnderscores Char.isDigit cs)
  some (if negative then -(value : Int) else value)

def readFloat (cs : List Char) : Option Float := do
  let (negative, cs) := splitSign cs
  let magnitude ←
    if cs = "inf".toList then some (1.0 / 0.0)
    else if cs = "nan".toList then some (0.0 / 0.0)
    else
      let isMark (c : Char) : Bool := c = 'e' || c = 'E'
      let mantissa := cs.takeWhile fun c => !isMark c
      let mark := cs.dropWhile fun c => !isMark c
      let exponent ← match mark with
        | [] => some 0
        | _ :: rest => readExponent rest
      match Text.cutFirst '.' mantissa with
      | some (whole, fraction) =>
        let whole ← wholeDigits whole
        let fraction ← withoutUnderscores Char.isDigit fraction
        nearest? (whole ++ fraction) (exponent - fraction.length)
      | none =>
        if mark = [] then none
        else nearest? (← wholeDigits mantissa) exponent
  some (if negative then -magnitude else magnitude)

/-! ### Bare scalars -/

def isTokenChar (c : Char) : Bool :=
  c.isAlphanum || c = '+' || c = '-' || c = '.' || c = '_' || c = ':'

/-- A token, with the time after a date and one space. -/
def readToken (cs : List Char) : List Char × List Char :=
  let token := cs.takeWhile isTokenChar
  let rest := cs.dropWhile isTokenChar
  match readDate token, rest with
  | some (_, []), ' ' :: c :: after =>
    if c.isDigit then
      (token ++ ' ' :: (c :: after).takeWhile isTokenChar, (c :: after).dropWhile isTokenChar)
    else (token, rest)
  | _, _ => (token, rest)

def readBare (cs : List Char) : Option (Value × List Char) := do
  let (token, rest) := readToken cs
  let value ←
    if token = "true".toList then some (.boolean true)
    else if token = "false".toList then some (.boolean false)
    else match readInteger token with
      | some i => some (.integer i)
      | none => match readFloat token with
        | some f => some (.float f)
        | none => (Datetime.read? token).map .datetime
  some (value, rest)

end AppServer.Toml
