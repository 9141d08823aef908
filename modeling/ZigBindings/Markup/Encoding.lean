import ZigBindings.Markup.Scan
import ZigBindings.Text.Bytes

/-!
# Encodings of documents

A document is a sequence of bytes. Its first bytes tell how wide its units are and in which order;
the declaration on its first line may then name the encoding. The declaration counts only if it
agrees with the units, and only where the encoding is not known beforehand.
-/

namespace ZigBindings.Markup

open ZigBindings.Text

/-- The encodings that are read. In Latin-1 it depends on the name under which it was asked for
whether the ordinal indicators and the micro sign start names. -/
inductive Encoding where
  | utf8
  | utf16 (bigEndian : Bool)
  | latin1 (alphabet : Alphabet)
  | ascii
  deriving DecidableEq

namespace Encoding

def alphabet : Encoding → Alphabet
  | .utf8 => .tables
  | .ascii => .tables
  | .utf16 _ => .withOrdinals
  | .latin1 alphabet => alphabet

def units (bigEndian : Bool) : List UInt8 → Option (List Nat)
  | [] => some []
  | [_] => none
  | first :: second :: rest =>
    let unit :=
      if bigEndian then 256 * first.toNat + second.toNat else 256 * second.toNat + first.toNat
    (units bigEndian rest).map (unit :: ·)

/-- The characters of 16-bit units. A high surrogate takes the low ten bits of whatever unit
follows it; a low surrogate cannot come first. -/
def ofUnits : List Nat → Option (List Char)
  | [] => some []
  | unit :: rest =>
    if 0xD800 ≤ unit && unit ≤ 0xDBFF then
      match rest with
      | [] => none
      | low :: rest =>
        let code := 0x10000 + (unit - 0xD800) * 0x400 + low % 0x400
        (ofUnits rest).map (Char.ofNat code :: ·)
    else if 0xDC00 ≤ unit && unit ≤ 0xDFFF then none
    else (ofUnits rest).map (Char.ofNat unit :: ·)

/-- The characters that bytes stand for, all of which a document may hold. -/
def decode? (encoding : Encoding) (bytes : List UInt8) : Option (List Char) := do
  let text ←
    match encoding with
    | .utf8 => (ofUtf8? bytes).map String.toList
    | .utf16 bigEndian => (units bigEndian bytes).bind ofUnits
    | .latin1 _ => some (bytes.map fun byte => Char.ofNat byte.toNat)
    | .ascii =>
      if bytes.all (· < 0x80) then some (bytes.map fun byte => Char.ofNat byte.toNat) else none
  if text.all isLegal then some text else none

/-- The encoding that the first bytes show, and the bytes after a byte order mark. -/
def detect (bytes : List UInt8) : Encoding × List UInt8 :=
  match bytes with
  | 0xFE :: 0xFF :: rest => (.utf16 true, rest)
  | 0xFF :: 0xFE :: rest => (.utf16 false, rest)
  | 0xEF :: 0xBB :: 0xBF :: rest => (.utf8, rest)
  | 0x00 :: _ :: _ => (.utf16 true, bytes)
  | _ :: 0x00 :: _ => (.utf16 false, bytes)
  | _ => (.utf8, bytes)

/-- The units of the bytes as characters, as far as they are of use to a declaration, which is
written in ASCII. -/
def preview (encoding : Encoding) (bytes : List UInt8) : List Char :=
  match encoding with
  | .utf16 bigEndian => ((units bigEndian (bytes.take (bytes.length / 2 * 2))).getD []).map Char.ofNat
  | _ => bytes.map fun byte => Char.ofNat byte.toNat

/-- The encoding that a declaration means by `name` in a document that shows `shown`. -/
inductive Declared where
  | agreed (encoding : Encoding)
  | conflict
  | unknown

/-- A name in lower case, with one underscore for each run of separators inside it. -/
def spelling (name : String) : String :=
  let rec go (separated : Bool) : List Char → List Char
    | [] => []
    | c :: rest =>
      if c.isAlphanum || c = '.' then
        if separated then '_' :: c.toLower :: go false rest else c.toLower :: go false rest
      else go true rest
  let isSeparator := fun c : Char => !(c.isAlphanum || c = '.')
  String.ofList (go false (name.toList.dropWhile isSeparator))

def latin1Spellings : List String :=
  [
    "cp819", "csisolatin1", "ibm819", "iso8859", "iso8859_1", "iso_8859_1", "iso_8859_1_1987",
    "iso_ir_100", "l1", "latin", "latin1", "latin_1"
  ]

/-- Further spellings of the names of ASCII and of the encoding that extends it byte by byte. Asked
for under one of these, only the part that they have in common is read. -/
def asciiSpellings : List String :=
  [
    "ansi_x3.4_1968", "ansi_x3_4_1968", "ansi_x3.4_1986", "ascii", "cp367", "cp65001", "csascii",
    "ibm367", "iso646_us", "iso_646.irv_1991", "iso_ir_6", "u8", "us", "us_ascii", "utf", "utf8",
    "utf8_ucs2", "utf8_ucs4", "utf_8"
  ]

/-- What a declared name means. The name is read without regard to case. -/
def declared (shown : Encoding) (name : String) : Declared :=
  let wide :=
    match shown with
    | .utf16 _ => true
    | _ => false
  let narrow (encoding : Encoding) : Declared := if wide then .conflict else .agreed encoding
  let ordered (bigEndian : Bool) : Declared :=
    if shown = .utf16 bigEndian then .agreed shown else .conflict
  match name.map Char.toUpper with
  | "UTF-8" => narrow .utf8
  | "ISO-8859-1" => narrow (.latin1 .withOrdinals)
  | "US-ASCII" => narrow .ascii
  | "UTF-16" => if wide then .agreed shown else .conflict
  | "UTF-16BE" => ordered true
  | "UTF-16LE" => ordered false
  | _ =>
    if latin1Spellings.contains (spelling name) then narrow (.latin1 .tables)
    else if asciiSpellings.contains (spelling name) then narrow .ascii
    else .unknown

end Encoding

structure Declaration where
  encoding : Option String := none
  standalone : Bool := false

namespace Scan

def isDeclarationChar (c : Char) : Bool :=
  c.isAlphanum || c = '.' || c = '-' || c = '_'

def declarationItem (name : String) : Scan String := do
  exactly name
  spaces
  char '='
  spaces
  let quote ← next
  guard (quote = '"' || quote = '\'')
  let value ← run isDeclarationChar
  char quote
  return String.ofList value

/-- A named value of the declaration that may be missing, after at least one blank. -/
def optionalItem (name : String) : Scan (Option String) := fun text =>
  match (do space; declarationItem name : Scan String) text with
  | some (value, rest) => some (some value, rest)
  | none => some (none, text)

/-- The declaration, after its opening: a version, perhaps an encoding, perhaps whether the document
stands alone. -/
def declaration : Scan Declaration := do
  space
  let _ ← declarationItem "version"
  let encoding ← optionalItem "encoding"
  guard (((encoding.bind (·.toList.head?)).map Char.isAlpha).getD encoding.isNone)
  let standalone ← optionalItem "standalone"
  guard (standalone = none || standalone = some "yes" || standalone = some "no")
  spaces
  exactly "?>"
  return { encoding, standalone := standalone = some "yes" }

end Scan

def startsDeclared (text : List Char) : Bool :=
  "<?xml".toList.isPrefixOf text &&
    match text.drop 5 with
    | c :: _ => isSpace c || c = '?'
    | [] => false

end ZigBindings.Markup
