import Launchplane.Text

/-!
# Launchplane.Dokploy.Json

**JSON texts of strings**, as far as the first generation of Compose literals
uses them: `json.dumps` of one character, and `json.loads` of a text that holds
one string.
-/

namespace Launchplane.Dokploy

/-- A lower-case hexadecimal digit. -/
def hexDigit (n : Nat) : Char := "0123456789abcdef".toList.getD n '0'

/-- `\uXXXX`. -/
def unicodeEscape (n : Nat) : List Char :=
  '\\' :: 'u' :: [n / 4096 % 16, n / 256 % 16, n / 16 % 16, n % 16].map hexDigit

/-- The escapes of JSON that have a letter or the character itself after the backslash. -/
def jsonShortEscape (c : Char) : Option (List Char) :=
  if c = '"' then some ['\\', '"']
  else if c = '\\' then some ['\\', '\\']
  else if c = '\n' then some ['\\', 'n']
  else if c = '\r' then some ['\\', 'r']
  else if c = '\t' then some ['\\', 't']
  else if c.toNat = 8 then some ['\\', 'b']
  else if c.toNat = 12 then some ['\\', 'f']
  else none

/-- `json.dumps(char, ensure_ascii=False)[1:-1]`. -/
def jsonChar (c : Char) : List Char :=
  (jsonShortEscape c).getD (if c.toNat < 0x20 then unicodeEscape c.toNat else [c])

/-- `json.dumps(char)[1:-1]`, of a character in the Basic Multilingual Plane. -/
def jsonAsciiChar (c : Char) : List Char :=
  (jsonShortEscape c).getD
    (if 0x20 ≤ c.toNat ∧ c.toNat ≤ 0x7E then [c] else unicodeEscape c.toNat)

/-- The value of a hexadecimal digit. -/
def hexValue (c : Char) : Option Nat :=
  if '0' ≤ c ∧ c ≤ '9' then some (c.toNat - '0'.toNat)
  else if 'a' ≤ c ∧ c ≤ 'f' then some (c.toNat - 'a'.toNat + 10)
  else if 'A' ≤ c ∧ c ≤ 'F' then some (c.toNat - 'A'.toNat + 10)
  else none

/-- Four hexadecimal digits. -/
def hexValue4 (a b c d : Char) : Option Nat := do
  let a ← hexValue a
  let b ← hexValue b
  let c ← hexValue c
  let d ← hexValue d
  return a * 4096 + b * 256 + c * 16 + d

/-- The character after a backslash, `u` apart. -/
def jsonUnescape (c : Char) : Option Char :=
  if c = '"' ∨ c = '\\' ∨ c = '/' then some c
  else if c = 'n' then some '\n'
  else if c = 'r' then some '\r'
  else if c = 't' then some '\t'
  else if c = 'b' then some (Char.ofNat 8)
  else if c = 'f' then some (Char.ofNat 12)
  else none

/-- The body of a JSON string up to its closing quote, and what comes after it. A lone surrogate is
not a character: such a text has no value here, and no value of a container either. -/
def jsonBody : List Char → Option (List Char × List Char)
  | [] => none
  | '"' :: rest => some ([], rest)
  | '\\' :: 'u' :: a :: b :: c :: d :: rest => do
    let n ← hexValue4 a b c d
    if 0xD800 ≤ n ∧ n ≤ 0xDBFF then
      match rest with
      | '\\' :: 'u' :: a' :: b' :: c' :: d' :: rest => do
        let n' ← hexValue4 a' b' c' d'
        if 0xDC00 ≤ n' ∧ n' ≤ 0xDFFF then
          let (body, last) ← jsonBody rest
          return (Char.ofNat (0x10000 + (n - 0xD800) * 0x400 + (n' - 0xDC00)) :: body, last)
        else none
      | _ => none
    else if 0xDC00 ≤ n ∧ n ≤ 0xDFFF then none
    else
      let (body, last) ← jsonBody rest
      return (Char.ofNat n :: body, last)
  | '\\' :: c :: rest => do
    let c ← jsonUnescape c
    let (body, last) ← jsonBody rest
    return (c :: body, last)
  | c :: rest =>
    if c.toNat < 0x20 then none
    else do
      let (body, last) ← jsonBody rest
      return (c :: body, last)

/-- The white space of JSON. -/
def isJsonSpace (c : Char) : Bool := c == ' ' || c == '\t' || c == '\n' || c == '\r'

/-- `json.loads`, when its result is a string. -/
def jsonLoadsString (text : List Char) : Option (List Char) :=
  match text.dropWhile isJsonSpace with
  | '"' :: rest => do
    let (body, last) ← jsonBody rest
    if last.all isJsonSpace then some body else none
  | _ => none

end Launchplane.Dokploy
