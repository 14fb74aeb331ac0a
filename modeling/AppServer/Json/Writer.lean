import AppServer.Decimal.Style
import AppServer.Json.Basic

/-!
# Writing JSON

The compact JSON text of a value. In a string the quote, the backslash and the
control characters below U+0020 are escaped, everything else stands as it is;
so a written value holds no line break.
-/

namespace AppServer.Json

/-! ### Strings -/

def hexDigit (n : Nat) : Char :=
  if n < 10 then Char.ofNat (48 + n) else Char.ofNat (87 + n)

def escapeChar (c : Char) : List Char :=
  if c = '"' then ['\\', '"']
  else if c = '\\' then ['\\', '\\']
  else if c = '\x08' then ['\\', 'b']
  else if c = '\t' then ['\\', 't']
  else if c = '\n' then ['\\', 'n']
  else if c = '\x0c' then ['\\', 'f']
  else if c = '\r' then ['\\', 'r']
  else if c.toNat < 0x20 then
    ['\\', 'u', '0', '0', hexDigit (c.toNat / 16), hexDigit (c.toNat % 16)]
  else [c]

theorem newline_not_mem_escapeChar (c : Char) : '\n' ∉ escapeChar c := by
  simp only [escapeChar]
  split <;> try decide
  split <;> try decide
  split <;> try decide
  split <;> try decide
  split <;> try decide
  split <;> try decide
  split <;> try decide
  split
  · rename_i h
    have hall : ∀ n < 32, '\n' ∉ ['\\', 'u', '0', '0', hexDigit (n / 16), hexDigit (n % 16)] := by
      decide
    exact hall c.toNat h
  · rename_i h _ _ _
    simpa using Ne.symm h

def quoteChars (cs : List Char) : List Char := '"' :: cs.flatMap escapeChar ++ ['"']

def quote (s : String) : String := String.ofList (quoteChars s.toList)

/-! ### Values -/

def numberText : JsonNumber → String
  | .integer i => Text.decimalInt i
  | .real f => Decimal.Style.scientific.write f

mutual

def pieces : Json → List String
  | .null => ["null"]
  | .bool b => [if b then "true" else "false"]
  | .number n => [numberText n]
  | .string s => [quote s]
  | .array items => "[" :: itemPieces items ++ ["]"]
  | .object fields => "\x7b" :: fieldPieces fields ++ ["\x7d"]

def itemPieces : List Json → List String
  | [] => []
  | [item] => pieces item
  | item :: rest => pieces item ++ "," :: itemPieces rest

def fieldPieces : List (String × Json) → List String
  | [] => []
  | [(name, value)] => quote name :: ":" :: pieces value
  | (name, value) :: rest => quote name :: ":" :: pieces value ++ "," :: fieldPieces rest

end

def write (value : Json) : String := String.join (pieces value)

end AppServer.Json
