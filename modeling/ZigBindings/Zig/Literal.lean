import ZigBindings.Text.Bytes
import ZigBindings.Text.Quoted

/-!
# String literals

A literal is written byte by byte: printable ASCII stands for itself, five control and quoting
characters have an escape of two characters, and every other byte is given by two hexadecimal
digits.
-/

namespace ZigBindings.Zig

open ZigBindings.Text

def escapeByte (byte : UInt8) : List Char :=
  if byte = 0x0A then ['\\', 'n']
  else if byte = 0x0D then ['\\', 'r']
  else if byte = 0x09 then ['\\', 't']
  else if byte = 0x5C then ['\\', '\\']
  else if byte = 0x22 then ['\\', '"']
  else if byte = 0x27 then ['\\', '\'']
  else if 0x20 ≤ byte && byte ≤ 0x7E then [Char.ofNat byte.toNat]
  else '\\' :: 'x' :: hexDigits 2 byte.toNat

def escape (text : List Char) : List Char :=
  (utf8Bytes text).flatMap escapeByte

def escapeString (text : String) : String :=
  String.ofList (escape text.toList)

def literal (text : String) : String :=
  "\"" ++ escapeString text ++ "\""

end ZigBindings.Zig
