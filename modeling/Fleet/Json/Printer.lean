import Fleet.Json.Basic
import Fleet.Text.Digits

/-!
# `Fleet.Json.Printer`: JSON text

Values are written without spaces. In texts the quote, the backslash and control characters
are escaped, everything else stands as it is.
-/

set_option autoImplicit false

namespace Fleet.Json

open Fleet.Text

/-- The form of a character inside a JSON text. -/
def escapeChar (c : Char) : List Char :=
  if c = '"' then ['\\', '"']
  else if c = '\\' then ['\\', '\\']
  else if c = '\n' then ['\\', 'n']
  else if c = '\r' then ['\\', 'r']
  else if c = '\t' then ['\\', 't']
  else if c.toNat = 8 then ['\\', 'b']
  else if c.toNat = 12 then ['\\', 'f']
  else if c.toNat < 32 then
    ['\\', 'u', '0', '0', hexLower (c.toNat / 16), hexLower (c.toNat % 16)]
  else [c]

def printText (s : String) : List Char := '"' :: s.toList.flatMap escapeChar ++ ['"']

mutual

def print : Json → List Char
  | .null => "null".toList
  | .bool true => "true".toList
  | .bool false => "false".toList
  | .int i => (intText i).toList
  | .real t => t.toList
  | .str s => printText s
  | .arr [] => ['[', ']']
  | .arr (v :: rest) => '[' :: print v ++ printItems rest
  | .obj [] => ['\x7b', '\x7d']
  | .obj ((n, v) :: rest) => '\x7b' :: printText n ++ ':' :: print v ++ printMembers rest

/-- The further values of a list and its end. -/
def printItems : List Json → List Char
  | [] => [']']
  | v :: rest => ',' :: print v ++ printItems rest

/-- The further members of an object and its end. -/
def printMembers : List (String × Json) → List Char
  | [] => ['\x7d']
  | (n, v) :: rest => ',' :: printText n ++ ':' :: print v ++ printMembers rest

end

def render (v : Json) : String := String.ofList (print v)

end Fleet.Json
