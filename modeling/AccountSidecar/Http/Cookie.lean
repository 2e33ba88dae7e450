import AccountSidecar.Http.Message
import AccountSidecar.Text.Lossy

/-!
# Cookies

Reading the cookies of a request. A cookie is a name and, after an equals sign, a value, which may
stand in double quotes; semicolons separate cookies. Inside quotes a backslash escapes a character
or, with three octal digits, a byte.
-/

namespace AccountSidecar.Http

open Text

/-- Whether the character is ASCII space. -/
def isCookieSpace (c : Char) : Bool := c == ' ' || (0x09 ≤ c.toNat && c.toNat ≤ 0x0D)

/-- Splits a quoted value off after its opening quote: its raw content and what follows. -/
def quotedPart? : List Char → Option (List Char × List Char)
  | [] => none
  | '"' :: rest => some ([], rest)
  | '\\' :: c :: rest =>
    if c = '\n' then none else (quotedPart? rest).map fun r => ('\\' :: c :: r.1, r.2)
  | c :: rest =>
    if c = '\\' then none else (quotedPart? rest).map fun r => (c :: r.1, r.2)

/-- Splits off a raw value that ends at a semicolon or at the end. -/
def rawValue (s : List Char) : List Char × List Char :=
  let plain := s.span (· != ';')
  match s with
  | '"' :: rest =>
    match quotedPart? rest with
    | some (content, after) =>
      match after.dropWhile isCookieSpace with
      | [] => ('"' :: content ++ ['"'], [])
      | ';' :: more => ('"' :: content ++ ['"'], ';' :: more)
      | _ => plain
    | none => plain
  | _ => plain

/-- Splits a cookie header into names and raw values. The fuel bounds the cookies. -/
def rawCookies : Nat → List Char → List (List Char × List Char)
  | 0, _ => []
  | fuel + 1, s =>
    if s.isEmpty then []
    else
      let (name, rest) := s.span fun c => c != '=' && c != ';'
      let (value, rest) :=
        match rest with
        | '=' :: rest => rawValue (rest.dropWhile isCookieSpace)
        | rest => ([], rest)
      (name, value) :: rawCookies fuel ((rest.drop 1).dropWhile isCookieSpace)

/-- Whether the byte is an octal digit up to a bound. -/
def isOctal (top b : UInt8) : Bool := 0x30 ≤ b && b ≤ top

/-- Resolves the escapes of a quoted value. -/
def unescapeBytes : List UInt8 → List UInt8
  | 0x5C :: a :: b :: c :: rest =>
    if isOctal 0x33 a && isOctal 0x37 b && isOctal 0x37 c then
      UInt8.ofNat ((a.toNat - 0x30) * 64 + (b.toNat - 0x30) * 8 + (c.toNat - 0x30)) ::
        unescapeBytes rest
    else if a = 0x0A then 0x5C :: unescapeBytes (a :: b :: c :: rest)
    else a :: unescapeBytes (b :: c :: rest)
  | [0x5C, a, b] => if a = 0x0A then [0x5C, a, b] else a :: unescapeBytes [b]
  | [0x5C, a] => if a = 0x0A then [0x5C, a] else [a]
  | b :: rest => b :: unescapeBytes rest
  | [] => []

/-- The value of a cookie from its raw form. -/
def cookieValue (raw : List Char) : String :=
  let trimmed := trimBoth isBlank raw
  if 2 ≤ trimmed.length && trimmed.head? = some '"' && trimmed.getLast? = some '"' then
    let inner := String.ofList ((trimmed.drop 1).dropLast)
    decodeLossy (unescapeBytes inner.toUTF8.toList)
  else String.ofList trimmed

/-- The cookies of a header, in its order; cookies without a name are left out. -/
def parseCookies (header : String) : List (String × String) :=
  (rawCookies (header.length + 1) header.toList).filterMap fun (name, value) =>
    let name := String.ofList (trimBoth isBlank name)
    if name = "" then none else some (name, cookieValue value)

/-- The value of a cookie; the first of several with one name counts. -/
def Request.cookie? (r : Request) (name : String) : Option String :=
  Keyed.find? name (parseCookies ((r.header? "Cookie").getD ""))

end AccountSidecar.Http
