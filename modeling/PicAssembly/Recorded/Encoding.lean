import PicAssembly.Text.Quoted

/-!
# Encodings of recorded texts

A recorded text is stored in the usual encoding, and it may say that it is to be read in another
one.  Of such an encoding only that is known which keeps a text of comments from being read.
-/

namespace PicAssembly.Recorded

/-- What is known of an encoding. -/
inductive Encoding where
  /-- Seven bits are read as in the usual encoding, and all other bytes as something. -/
  | extended
  /-- Bytes are read one by one, and some of them stand for nothing. -/
  | paged (name reason : String) (isUndefined : Nat → Bool)
  /-- Bytes beyond seven bits are read in pairs, apart from those that stand alone. -/
  | paired (name : String) (standsAlone leads trails : Nat → Bool)
  /-- Bytes are read two by two. -/
  | doubled (name : String) (bigEndian : Bool)
  /-- Bytes are read four by four, which none that begin a comment can be. -/
  | quadrupled (name : String)
  /-- The sign that begins a comment is read as another character. -/
  | renumbered (sign : Nat)
  /-- A backslash begins the number or the name of a character. -/
  | escaped
  /-- Nothing can be read. -/
  | undefined

namespace Encoding

/-- Whether a byte lies in one of several ranges, which are given by their ends. -/
def within : List (Nat × Nat) → Nat → Bool
  | ranges, byte => ranges.any fun range => range.1 ≤ byte && byte ≤ range.2

/-- The encodings that read seven bits as they are. -/
def extensions : List String :=
  [ "utf_8", "utf8", "utf_8_sig", "latin_1", "latin1", "iso_8859_1", "iso8859_1", "mac_roman",
    "cp437", "koi8_r" ]

/-- The encodings of which more is known. -/
def others : List (String × Encoding) :=
  let sevenBits := paged "ascii" "ordinal not in range(128)" (0x80 ≤ ·)
  let undefinedIn (ranges : List (Nat × Nat)) :=
    paged "charmap" "character maps to <undefined>" (within ranges)
  [ ("ascii", sevenBits), ("us_ascii", sevenBits), ("idna", sevenBits),
    ("cp1252",
      undefinedIn [(0x81, 0x81), (0x8D, 0x8D), (0x8F, 0x90), (0x9D, 0x9D)]),
    ("iso8859_3",
      undefinedIn [(0xA5, 0xA5), (0xAE, 0xAE), (0xBE, 0xBE), (0xC3, 0xC3), (0xD0, 0xD0),
        (0xE3, 0xE3), (0xF0, 0xF0)]),
    ("euc_jp", paired "euc_jp" (fun _ => false) (within [(0x8E, 0x8F), (0xA1, 0xFE)])
      (within [(0xA1, 0xFE)])),
    ("shift_jis", paired "shift_jis" (within [(0xA1, 0xDF)])
      (within [(0x81, 0x9F), (0xE0, 0xFC)]) (within [(0x40, 0x7E), (0x80, 0xFC)])),
    ("gbk", paired "gbk" (fun _ => false) (within [(0x81, 0xFE)])
      (within [(0x40, 0x7E), (0x80, 0xFE)])),
    ("big5", paired "big5" (fun _ => false) (within [(0xA1, 0xF9)])
      (within [(0x40, 0x7E), (0xA1, 0xFE)])),
    ("utf_16_be", doubled "utf-16-be" true), ("utf_16_le", doubled "utf-16-le" false),
    ("utf_16", doubled "utf-16-le" false), ("utf_32", quadrupled "utf-32-le"),
    ("cp037", renumbered 0x83), ("unicode_escape", escaped), ("undefined", undefined) ]

/-- The encoding with a name, in which marks count as low lines. -/
def ofName? (name : String) : Option Encoding :=
  let plain := name.map fun char => if char.isAlphanum then char.toLower else '_'
  if extensions.contains plain then some extended else others.lookup plain

/-- The bytes of a text in the usual encoding. -/
def bytes (text : String) : List Nat :=
  text.toUTF8.data.toList.map UInt8.toNat

/-- Why no text can be read from bytes from a place on, up to another. -/
def defect (name reason : String) (bytes : List Nat) (first stop : Nat) : String :=
  let places :=
    if stop = first + 1 then
      "byte 0x" ++ String.ofList (Quoted.hexadecimal 2 (bytes.getD first 0)) ++ " in position " ++
        toString first
    else "bytes in position " ++ toString first ++ "-" ++ toString (stop - 1)
  "'" ++ name ++ "' codec can't decode " ++ places ++ ": " ++ reason

/-- Why a character cannot begin a line. -/
def strange (code : Nat) : String :=
  let char := Char.ofNat code
  let number := "U+" ++ (String.ofList (Quoted.hexadecimal 4 code)).toUpper
  if Printable.isPrintable char then
    "invalid character '" ++ String.singleton char ++ "' (" ++ number ++ ")"
  else "invalid non-printable character " ++ number

/-- The first byte that makes no pair with the next one, where a place is given. -/
def unpaired? (standsAlone leads trails : Nat → Bool) (place : Nat) : List Nat → Option Nat
  | [] => none
  | byte :: rest =>
      if byte < 0x80 || standsAlone byte then unpaired? standsAlone leads trails (place + 1) rest
      else
        match rest with
        | trail :: rest =>
            if leads byte && trails trail then
              unpaired? standsAlone leads trails (place + 2) rest
            else some place
        | [] => some place

/-- The first character described by a backslash that is none: its place, where a place is given,
the place behind it, and why it is none. -/
def misdescribed? (place : Nat) : List Char → Option (Nat × Nat × String)
  | '\\' :: 'x' :: rest =>
      let digits := (rest.take 2).takeWhile fun char =>
        char.isDigit || "abcdefABCDEF".toList.contains char
      if digits.length < 2 then
        some (place, place + 2 + digits.length, "truncated \\xXX escape")
      else misdescribed? (place + 2) rest
  | '\\' :: 'N' :: rest =>
      let name := rest.takeWhile (· != '\x7d')
      some (place, place + 3 + name.length, "unknown Unicode character name")
  | _ :: rest => misdescribed? (place + 1) rest
  | [] => none

/-- What keeps a text that begins with a comment from being read in an encoding, with the number of
its line. -/
def problem? (text : String) : Encoding → Option (String × Nat)
  | extended => none
  | paged name reason isUndefined =>
      let bytes := bytes text
      (bytes.findIdx? isUndefined).map fun first =>
        (defect name reason bytes first (first + 1), 0)
  | paired name standsAlone leads trails =>
      let bytes := bytes text
      (unpaired? standsAlone leads trails 0 bytes).map fun first =>
        (defect name "illegal multibyte sequence" bytes first (first + 1), 0)
  | doubled name bigEndian =>
      let bytes := bytes text
      let last := bytes.length - 1
      if bytes.length % 2 = 1 then
        some (defect name "truncated data" bytes last bytes.length, 0)
      else
        match bytes with
        | first :: second :: _ =>
            some (strange (if bigEndian then 256 * first + second else 256 * second + first), 1)
        | _ => none
  | quadrupled name =>
      some (defect name "code point not in range(0x110000)" (bytes text) 0 4, 0)
  | renumbered sign => some (strange sign, 1)
  | escaped =>
      (misdescribed? 0 text.toList).map fun (first, stop, reason) =>
        (defect "unicodeescape" reason (bytes text) first stop, 0)
  | undefined =>
      some ("decoding with 'undefined' codec failed (UnicodeError: undefined encoding)", 0)

end Encoding

end PicAssembly.Recorded
