import FormLetter.Xml.Scan

/-!
# Characters from bytes

The encoding of a document is told by a byte order mark, else by its declaration, and is UTF-8
otherwise. A byte that has no meaning in the encoding becomes a code point that no document may
hold, so a reader notices it where it stands and nothing after it matters.
-/

namespace FormLetter.Xml

/-- Stands for bytes that are no character. No document may hold it. -/
def malformed : Char := '\uFFFF'

/-- The encodings that a document can declare. -/
inductive Charset where
  | utf8
  | utf16 (bigEndian : Bool)
  /-- One byte for each character: its own code point, unless the list has another one. -/
  | bytes (limit : Nat) (others : List (Nat × Nat))
  deriving DecidableEq, Repr

namespace Charset

/-- Where Latin 9 differs from Latin 1. -/
def latin9 : List (Nat × Nat) := [
  (0xA4, 0x20AC), (0xA6, 0x160), (0xA8, 0x161), (0xB4, 0x17D), (0xB8, 0x17E), (0xBC, 0x152),
  (0xBD, 0x153), (0xBE, 0x178)]

/-- Where code page 1252 differs from Latin 1; five bytes have no character. -/
def western : List (Nat × Nat) := [
  (0x80, 0x20AC), (0x81, 0xFFFF), (0x82, 0x201A), (0x83, 0x192), (0x84, 0x201E), (0x85, 0x2026),
  (0x86, 0x2020), (0x87, 0x2021), (0x88, 0x2C6), (0x89, 0x2030), (0x8A, 0x160), (0x8B, 0x2039),
  (0x8C, 0x152), (0x8D, 0xFFFF), (0x8E, 0x17D), (0x8F, 0xFFFF), (0x90, 0xFFFF), (0x91, 0x2018),
  (0x92, 0x2019), (0x93, 0x201C), (0x94, 0x201D), (0x95, 0x2022), (0x96, 0x2013), (0x97, 0x2014),
  (0x98, 0x2DC), (0x99, 0x2122), (0x9A, 0x161), (0x9B, 0x203A), (0x9C, 0x153), (0x9D, 0xFFFF),
  (0x9E, 0x17E), (0x9F, 0x178)]

/-- The names of the encodings, in capitals. -/
def names : List (String × Charset) := [
  ("UTF-8", .utf8), ("UTF8", .utf8),
  ("UTF-16", .utf16 false), ("UTF16", .utf16 false), ("UTF-16LE", .utf16 false),
  ("UTF-16BE", .utf16 true),
  ("ISO-8859-1", .bytes 256 []), ("ISO-LATIN-1", .bytes 256 []), ("ISO_8859-1", .bytes 256 []),
  ("ISO8859-1", .bytes 256 []), ("LATIN1", .bytes 256 []), ("L1", .bytes 256 []),
  ("CP819", .bytes 256 []), ("IBM819", .bytes 256 []),
  ("US-ASCII", .bytes 128 []), ("ASCII", .bytes 128 []), ("ISO646-US", .bytes 128 []),
  ("ISO-8859-15", .bytes 256 latin9), ("ISO8859-15", .bytes 256 latin9),
  ("LATIN-9", .bytes 256 latin9),
  ("WINDOWS-1252", .bytes 256 western), ("CP1252", .bytes 256 western)]

/-- The encoding with the given name, in whatever case. -/
def ofName? (name : String) : Option Charset :=
  names.lookup name.toUpper

/-- The character of a code point. -/
def charOf (code : Nat) : Char :=
  let c := Char.ofNat code
  if c.toNat == code then c else malformed

/-- True for a byte that goes on with a character of several bytes. -/
def isTrail (byte : Nat) : Bool :=
  0x80 ≤ byte && byte < 0xC0

/-- The characters of UTF-8. Overlong forms and surrogates are malformed. -/
def decodeUtf8 : List Nat → List Char
  | [] => []
  | a :: rest =>
    if a < 0x80 then charOf a :: decodeUtf8 rest
    else
      match rest with
      | b :: rest =>
        if 0xC2 ≤ a && a < 0xE0 && isTrail b then
          charOf ((a - 0xC0) * 64 + (b - 0x80)) :: decodeUtf8 rest
        else
          match rest with
          | c :: rest =>
            let code := ((a - 0xE0) * 64 + (b - 0x80)) * 64 + (c - 0x80)
            if 0xE0 ≤ a && a < 0xF0 && isTrail b && isTrail c && 0x800 ≤ code then
              charOf code :: decodeUtf8 rest
            else
              match rest with
              | d :: rest =>
                let code :=
                  (((a - 0xF0) * 64 + (b - 0x80)) * 64 + (c - 0x80)) * 64 + (d - 0x80)
                if 0xF0 ≤ a && isTrail b && isTrail c && isTrail d && 0x10000 ≤ code
                    && code < 0x110000 then
                  charOf code :: decodeUtf8 rest
                else [malformed]
              | [] => [malformed]
          | [] => [malformed]
      | [] => [malformed]

/-- The characters of UTF-16 in units; two surrogates in order are one character. -/
def decodeUnits : List Nat → List Char
  | [] => []
  | unit :: rest =>
    if 0xD800 ≤ unit && unit < 0xDC00 then
      match rest with
      | low :: rest =>
        if 0xDC00 ≤ low && low < 0xE000 then
          charOf (0x10000 + (unit - 0xD800) * 1024 + (low - 0xDC00)) :: decodeUnits rest
        else [malformed]
      | [] => [malformed]
    else if 0xDC00 ≤ unit && unit < 0xE000 then [malformed]
    else charOf unit :: decodeUnits rest

/-- The units of a sequence of bytes. A byte that is left over becomes a lone surrogate. -/
def unitsOf (bigEndian : Bool) : List Nat → List Nat
  | [] => []
  | [_] => [0xDC00]
  | a :: b :: rest => (if bigEndian then a * 256 + b else b * 256 + a) :: unitsOf bigEndian rest

/-- The characters that bytes stand for in an encoding. -/
def decode (charset : Charset) (content : ByteArray) : List Char :=
  let codes := content.toList.map UInt8.toNat
  match charset with
  | utf8 =>
    match String.fromUTF8? content with
    | some text => text.toList
    | none => decodeUtf8 codes
  | utf16 bigEndian => decodeUnits (unitsOf bigEndian codes)
  | bytes limit others => codes.map fun byte =>
    if byte < limit then charOf ((others.lookup byte).getD byte) else malformed

end Charset

/-- What the first line of a document declares. -/
structure Heading where
  version : String
  encoding : Option String
  deriving DecidableEq, Repr

namespace Heading

/-- A setting of the heading: its name, an equals sign, and a quoted value. -/
def takeSetting (name : String) (text : List Char) : Except Unread (List Char × Unread) := do
  let (_, rest) ← expect name text
  let (_, rest) ← expect "=" (skipSpace rest)
  takeQuoted (skipSpace rest)

/-- A setting that may be missing. White space comes before it. -/
def takeOptional (name : String) (text : List Char) :
    Except Unread (Option (List Char) × Unread) :=
  if (after? name (skipSpace text)).isSome then do
    let (_, rest) ← expectSpace text
    let (value, rest) ← takeSetting name rest
    return (some value, rest)
  else .ok (none, text)

/-- True for a version that can be read: the first one, with any revision. -/
def isVersion : List Char → Bool
  | '1' :: '.' :: revision => revision.all Char.isDigit
  | _ => false

/-- True for a text that can name an encoding. -/
def isEncodingName : List Char → Bool
  | c :: rest => c.isAlpha && rest.all fun c => c.isAlphanum || c == '.' || c == '_' || c == '-'
  | [] => false

/-- The heading at the beginning of a document. Without one the version is the first. -/
def take (text : List Char) : Except Unread (Heading × Unread) :=
  match after? "<?xml" text with
  | none => .ok (⟨"1.0", none⟩, text)
  | some rest =>
    if startsBlank rest then do
      let (version, rest) ← takeSetting "version" (skipSpace rest)
      let (encoding, rest) ← takeOptional "encoding" rest
      let (standalone, rest) ← takeOptional "standalone" rest
      let (_, after) ← expect "?>" (skipSpace rest)
      let named := (encoding.map isEncodingName).getD true
      let answered := (standalone.map fun word => word == "yes".toList || word == "no".toList).getD
        true
      if isVersion version && named && answered then
        return (⟨String.ofList version, encoding.map String.ofList⟩, after)
      else .error after
    else .ok (⟨"1.0", none⟩, text)

end Heading

/-- Every line break as a single character. -/
def normalizeLines : List Char → List Char
  | '\r' :: '\n' :: rest => '\n' :: normalizeLines rest
  | '\r' :: rest => '\n' :: normalizeLines rest
  | c :: rest => c :: normalizeLines rest
  | [] => []

/-- The encoding that the first bytes tell: by a byte order mark, given with its length, or by a
heading in units of two bytes. -/
def mark? (bytes : ByteArray) : Option (Charset × Nat) :=
  match (bytes.extract 0 4).toList.map UInt8.toNat with
  | 0xEF :: 0xBB :: 0xBF :: _ => some (.utf8, 3)
  | 0xFF :: 0xFE :: _ => some (.utf16 false, 2)
  | 0xFE :: 0xFF :: _ => some (.utf16 true, 2)
  | [0x3C, 0, 0x3F, 0] => some (.utf16 false, 0)
  | [0, 0x3C, 0, 0x3F] => some (.utf16 true, 0)
  | _ => none

/-- The encoding that the heading of a document declares, as far as it can be read; `none` for a
name that is not known. -/
def declared? (bytes : ByteArray) : Option Charset :=
  match Heading.take ((Charset.bytes 256 []).decode bytes) with
  | .ok (⟨_, some name⟩, _) => Charset.ofName? name
  | _ => some .utf8

/-- The text of a document; `none` when its encoding is not known. -/
def decodeDocument? (bytes : ByteArray) : Option (List Char) :=
  match mark? bytes with
  | some (charset, length) =>
    some (normalizeLines (charset.decode (bytes.extract length bytes.size)))
  | none => (declared? bytes).map fun charset => normalizeLines (charset.decode bytes)

end FormLetter.Xml
