import Scriptorium.Standin.Encoding.Reader
import Scriptorium.Text.Percent

/-!
Texts with escapes. A backslash and what follows it stand for one character, which is told by a
letter, by octal or hexadecimal digits or by its name. In a raw text only hexadecimal digits behind
a `u` count. A byte beyond ASCII is the character of its number.
-/

namespace Scriptorium
set_option autoImplicit false

namespace Encoding

namespace Escaped

/-! ## Names of characters -/

def signNames : List (String × Nat) :=
  [("SPACE", 0x20), ("EXCLAMATION MARK", 0x21), ("QUOTATION MARK", 0x22), ("NUMBER SIGN", 0x23),
    ("DOLLAR SIGN", 0x24), ("PERCENT SIGN", 0x25), ("AMPERSAND", 0x26), ("APOSTROPHE", 0x27),
    ("LEFT PARENTHESIS", 0x28), ("RIGHT PARENTHESIS", 0x29), ("ASTERISK", 0x2a),
    ("PLUS SIGN", 0x2b), ("COMMA", 0x2c), ("HYPHEN-MINUS", 0x2d), ("FULL STOP", 0x2e),
    ("SOLIDUS", 0x2f), ("DIGIT ZERO", 0x30), ("DIGIT ONE", 0x31), ("DIGIT TWO", 0x32),
    ("DIGIT THREE", 0x33), ("DIGIT FOUR", 0x34), ("DIGIT FIVE", 0x35), ("DIGIT SIX", 0x36),
    ("DIGIT SEVEN", 0x37), ("DIGIT EIGHT", 0x38), ("DIGIT NINE", 0x39), ("COLON", 0x3a),
    ("SEMICOLON", 0x3b), ("LESS-THAN SIGN", 0x3c), ("EQUALS SIGN", 0x3d),
    ("GREATER-THAN SIGN", 0x3e), ("QUESTION MARK", 0x3f), ("COMMERCIAL AT", 0x40),
    ("LEFT SQUARE BRACKET", 0x5b), ("REVERSE SOLIDUS", 0x5c), ("RIGHT SQUARE BRACKET", 0x5d),
    ("CIRCUMFLEX ACCENT", 0x5e), ("LOW LINE", 0x5f), ("GRAVE ACCENT", 0x60),
    ("LEFT CURLY BRACKET", 0x7b), ("VERTICAL LINE", 0x7c), ("RIGHT CURLY BRACKET", 0x7d),
    ("TILDE", 0x7e)]

/-- Control characters have several names each. -/
def controlNames : List (Nat × List String) :=
  [(0x00, ["NULL", "NUL"]), (0x01, ["START OF HEADING", "SOH"]),
    (0x02, ["START OF TEXT", "STX"]), (0x03, ["END OF TEXT", "ETX"]),
    (0x04, ["END OF TRANSMISSION", "EOT"]), (0x05, ["ENQUIRY", "ENQ"]),
    (0x06, ["ACKNOWLEDGE", "ACK"]), (0x07, ["ALERT", "BEL"]), (0x08, ["BACKSPACE", "BS"]),
    (0x09, ["CHARACTER TABULATION", "HORIZONTAL TABULATION", "HT", "TAB"]),
    (0x0a, ["LINE FEED", "NEW LINE", "END OF LINE", "LF", "NL", "EOL"]),
    (0x0b, ["LINE TABULATION", "VERTICAL TABULATION", "VT"]), (0x0c, ["FORM FEED", "FF"]),
    (0x0d, ["CARRIAGE RETURN", "CR"]), (0x0e, ["SHIFT OUT", "LOCKING-SHIFT ONE", "SO"]),
    (0x0f, ["SHIFT IN", "LOCKING-SHIFT ZERO", "SI"]), (0x10, ["DATA LINK ESCAPE", "DLE"]),
    (0x11, ["DEVICE CONTROL ONE", "DC1"]), (0x12, ["DEVICE CONTROL TWO", "DC2"]),
    (0x13, ["DEVICE CONTROL THREE", "DC3"]), (0x14, ["DEVICE CONTROL FOUR", "DC4"]),
    (0x15, ["NEGATIVE ACKNOWLEDGE", "NAK"]), (0x16, ["SYNCHRONOUS IDLE", "SYN"]),
    (0x17, ["END OF TRANSMISSION BLOCK", "ETB"]), (0x18, ["CANCEL", "CAN"]),
    (0x19, ["END OF MEDIUM", "EOM"]), (0x1a, ["SUBSTITUTE", "SUB"]), (0x1b, ["ESCAPE", "ESC"]),
    (0x1c, ["INFORMATION SEPARATOR FOUR", "FILE SEPARATOR", "FS"]),
    (0x1d, ["INFORMATION SEPARATOR THREE", "GROUP SEPARATOR", "GS"]),
    (0x1e, ["INFORMATION SEPARATOR TWO", "RECORD SEPARATOR", "RS"]),
    (0x1f, ["INFORMATION SEPARATOR ONE", "UNIT SEPARATOR", "US"]), (0x20, ["SP"]),
    (0x7f, ["DELETE", "DEL"])]

/-- The number of the ASCII character of a name, in whatever letters the name is written. -/
def named? (name : List Char) : Option Nat :=
  let name := name.map Char.toUpper
  let letter := name.getLast?.getD ' '
  let isLetter (kind : String) : Bool :=
    letter.isUpper && name == kind.toList ++ " LETTER ".toList ++ [letter]
  if isLetter "LATIN CAPITAL" then some letter.toNat
  else if isLetter "LATIN SMALL" then some letter.toLower.toNat
  else
    let word := String.ofList name
    signNames.lookup word <|> (controlNames.find? fun e => word ∈ e.2).map Prod.fst

/-! ## Reading -/

inductive State where
  | plain
  /-- a backslash was just read -/
  | slash
  | octal (value left : Nat)
  | hex (value owed : Nat)
  /-- the name of a character is to follow in braces -/
  | unnamed
  | naming (name : List Char)
  deriving DecidableEq, Repr

private def backslash : UInt8 := 0x5c

private def char (b : UInt8) : Char := Char.ofNat b.toNat

def plainStep (b : UInt8) : Option (State × List Char) :=
  if b = backslash then some (.slash, []) else some (.plain, [charOf b.toNat])

/-- The characters that a letter or a sign stands for behind a backslash. -/
def meanings : List (Char × List Char) :=
  [('\n', []), ('\\', ['\\']), ('\'', ['\'']), ('"', ['"']), ('a', ['\x07']), ('b', ['\x08']),
    ('t', ['\t']), ('n', ['\n']), ('v', ['\x0b']), ('f', ['\x0c']), ('r', ['\r'])]

/-- How many hexadecimal digits a letter announces. -/
def rawWidth? (c : Char) : Option Nat :=
  if c = 'u' then some 4 else if c = 'U' then some 8 else none

def width? (c : Char) : Option Nat := if c = 'x' then some 2 else rawWidth? c

private def octal? (c : Char) : Option Nat :=
  if '0' ≤ c ∧ c ≤ '7' then some (c.toNat - 0x30) else none

/-- What follows a backslash. What has no meaning there stays, as the backslash does. -/
def slashStep (b : UInt8) : State × List Char :=
  match meanings.lookup (char b), octal? (char b), width? (char b) with
  | some cs, _, _ => (.plain, cs)
  | _, some d, _ => (.octal d 2, [])
  | _, _, some n => (.hex 0 n, [])
  | _, _, _ =>
    if char b = 'N' then (.unnamed, []) else (.plain, ['\\', charOf b.toNat])

/-- What follows a backslash in a raw text. -/
def rawSlashStep (b : UInt8) : State × List Char :=
  match rawWidth? (char b) with
  | some n => (.hex 0 n, [])
  | none => (.plain, ['\\', charOf b.toNat])

/-- A byte further on; `afterSlash` says what may stand behind a backslash. -/
def step (afterSlash : UInt8 → State × List Char) :
    State → UInt8 → Option (State × List Char)
  | .plain, b => plainStep b
  | .slash, b => some (afterSlash b)
  | .octal value left, b =>
    match octal? (char b) with
    | some d =>
      let value := value * 8 + d
      some (if left ≤ 1 then (.plain, [charOf value]) else (.octal value (left - 1), []))
    | none => (plainStep b).map fun (s, cs) => (s, charOf value :: cs)
  | .hex value owed, b =>
    (Text.nibble? (char b)).bind fun d =>
      let value := value * 16 + d
      if 1 < owed then some (.hex value (owed - 1), [])
      else if value ≤ 0x10ffff then some (.plain, [charOf value])
      else none
  | .unnamed, b => if b = 0x7b then some (.naming [], []) else none
  | .naming name, b =>
    if b = 0x7d then (named? name).map fun n => (.plain, [charOf n])
    else some (.naming (name ++ [char b]), [])

def finish : State → Option (List Char)
  | .plain => some []
  | .octal value _ => some [charOf value]
  | _ => none

def rawFinish : State → Option (List Char)
  | .slash => some ['\\']
  | s => finish s

def reader : Reader State := ⟨step slashStep, finish⟩

def rawReader : Reader State := ⟨step rawSlashStep, rawFinish⟩

def decode : Decoder := reader.readFrom .plain

def decodeRaw : Decoder := rawReader.readFrom .plain

end Escaped

end Encoding

end Scriptorium
