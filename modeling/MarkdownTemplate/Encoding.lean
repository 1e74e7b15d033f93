import MarkdownTemplate.Text.Basic

/-!
# Text encodings

Four encodings are known. This file fixes

* `Encoding.ofName?` -- the encoding that a name denotes;
* `Encoding.step` -- decoding, one byte at a time: a state, and the character that a byte
  completes;
* `Encoding.decode` -- decoding whole content;
* `Encoding.firstBad?` -- where the first byte stands that cannot follow those before it;
* `Encoding.encode` -- encoding a text.

UTF-8 is read strictly: no overlong forms, no surrogates, nothing beyond U+10FFFF. A byte is
refused as soon as no code point can begin that way; a surrogate is a code point, and is refused
with its last byte. UTF-8 with a signature drops one byte-order mark at the start and writes one
in front of every text, the empty one included.
-/

namespace MarkdownTemplate

/-- The encodings. -/
inductive Encoding where
  | utf8
  /-- UTF-8 with a byte-order mark in front. -/
  | utf8Signature
  | ascii
  | latin1
  deriving DecidableEq

namespace Encoding

/-! ## 1. Names -/

/-- A character of the words in a name. -/
def isNameChar (c : Char) : Bool :=
  c.isAlphanum || c == '.'

/-- The words of a name in small letters, with one underscore between neighbours. What is neither a
    letter nor a digit of ASCII nor a point only separates words. -/
def plainName (name : Text) : Text :=
  let spaced := name.map fun c => if isNameChar c then c.toLower else ' '
  Text.joined ['_'] ((Text.pieces ' ' spaced).filter (· != []))

/-- The name that an encoding is known by. -/
def properName : Encoding → String
  | utf8 => "utf_8"
  | utf8Signature => "utf_8_sig"
  | ascii => "ascii"
  | latin1 => "latin_1"

/-- The other names of an encoding. -/
def aliases : Encoding → List String
  | utf8 => ["utf8", "u8", "utf", "utf8_ucs2", "utf8_ucs4", "cp65001"]
  | utf8Signature => []
  | ascii => ["646", "ansi_x3.4_1968", "ansi_x3_4_1968", "ansi_x3.4_1986", "cp367", "csascii",
      "ibm367", "iso646_us", "iso_646.irv_1991", "iso_ir_6", "us", "us_ascii"]
  | latin1 => ["8859", "cp819", "csisolatin1", "ibm819", "iso8859", "iso8859_1", "iso_8859_1",
      "iso_8859_1_1987", "iso_ir_100", "l1", "latin", "latin1"]

/-- The encoding with this alias. -/
def ofAlias? (name : Text) : Option Encoding :=
  [utf8, utf8Signature, ascii, latin1].find? fun e => (e.aliases.map String.toList).contains name

/-- The encoding with this proper name. -/
def ofProperName? (name : Text) : Option Encoding :=
  [utf8, utf8Signature, ascii, latin1].find? fun e => e.properName.toList == name

/-- The encoding that a name denotes. In an alias, but not in a proper name, points may stand for
    underscores. -/
def ofName? (name : Text) : Option Encoding :=
  let plain := plainName name
  let unpointed := plain.map fun c => if c = '.' then '_' else c
  (ofAlias? plain).or ((ofAlias? unpointed).or (ofProperName? plain))

/-! ## 2. Decoding -/

/-- What the bytes so far have left open. -/
inductive State where
  /-- Between two characters. -/
  | ready
  /-- At the start, where a byte-order mark may stand. -/
  | atStart
  /-- After the first byte of a byte-order mark. -/
  | mark1
  /-- After two bytes of a byte-order mark. -/
  | mark2
  /-- Inside a character: the value so far, how many bytes are missing, and the bounds of the next
      one. -/
  | inside (value missing low high : Nat)
  deriving DecidableEq

/-- The state before the first byte. -/
def start : Encoding → State
  | utf8Signature => .atStart
  | _ => .ready

/-- The content may end in this state. -/
def State.mayEnd : State → Bool
  | .inside .. => false
  | _ => true

/-- The first byte of a character in UTF-8: the next state, and the character if it is whole. -/
def leadByte (b : Nat) : Option (State × Option Char) :=
  if b < 0x80 then some (.ready, some (Char.ofNat b))
  else if b < 0xC2 then none
  else if b < 0xE0 then some (.inside (b - 0xC0) 1 0x80 0xBF, none)
  else if b = 0xE0 then some (.inside 0 2 0xA0 0xBF, none)
  else if b < 0xF0 then some (.inside (b - 0xE0) 2 0x80 0xBF, none)
  else if b = 0xF0 then some (.inside 0 3 0x90 0xBF, none)
  else if b < 0xF4 then some (.inside (b - 0xF0) 3 0x80 0xBF, none)
  else if b = 0xF4 then some (.inside 4 3 0x80 0x8F, none)
  else none

/-- Two of three bytes that begin a surrogate. -/
def beginsSurrogate (value missing : Nat) : Bool :=
  missing == 1 && 0xD800 / 0x40 ≤ value && value ≤ 0xDFFF / 0x40

/-- A further byte of a character in UTF-8. No byte completes a surrogate. -/
def innerByte (value missing low high b : Nat) : Option (State × Option Char) :=
  if low ≤ b ∧ b ≤ high then
    let value := value * 0x40 + (b - 0x80)
    if missing ≤ 1 then some (.ready, some (Char.ofNat value))
    else if beginsSurrogate value (missing - 1) then some (.inside value 1 1 0, none)
    else some (.inside value (missing - 1) 0x80 0xBF, none)
  else none

/-- One byte of UTF-8. -/
def utf8Step : State → Nat → Option (State × Option Char)
  | .ready, b => leadByte b
  | .atStart, b => if b = 0xEF then some (.mark1, none) else leadByte b
  | .mark1, b => if b = 0xBB then some (.mark2, none) else innerByte 0xF 2 0x80 0xBF b
  | .mark2, b => if b = 0xBF then some (.ready, none) else innerByte 0x3FB 1 0x80 0xBF b
  | .inside value missing low high, b => innerByte value missing low high b

/-- One byte: the next state and the character that the byte completes, or nothing if the byte
    cannot follow. -/
def step (e : Encoding) (s : State) (byte : UInt8) : Option (State × Option Char) :=
  match e with
  | latin1 => some (.ready, some (Char.ofNat byte.toNat))
  | ascii => if byte.toNat < 0x80 then some (.ready, some (Char.ofNat byte.toNat)) else none
  | _ => utf8Step s byte.toNat

/-- Reads on from a state and the characters so far, newest first. -/
def feed (e : Encoding) (sofar : Option (State × Text)) (byte : UInt8) : Option (State × Text) :=
  sofar.bind fun (s, out) => (e.step s byte).map fun (s', c) => (s', c.toList ++ out)

/-- The state after some bytes and the text they complete, unless one of them is bad. -/
def run (e : Encoding) (bytes : List UInt8) : Option (State × Text) :=
  (bytes.foldl e.feed (some (e.start, []))).map fun (s, out) => (s, out.reverse)

/-- The text of whole content; nothing if a byte is bad or the last character is cut off. -/
def decode (e : Encoding) (bytes : List UInt8) : Option Text :=
  match e.run bytes with
  | some (s, text) => if s.mayEnd then some text else none
  | none => none

/-- Where the first bad byte stands, counted from `i`, reading on from state `s`. -/
def firstBadFrom (e : Encoding) : State → Nat → List UInt8 → Option Nat
  | _, _, [] => none
  | s, i, b :: rest =>
    match e.step s b with
    | none => some i
    | some (s', _) => firstBadFrom e s' (i + 1) rest

/-- Where the first bad byte stands. -/
def firstBad? (e : Encoding) (bytes : List UInt8) : Option Nat :=
  e.firstBadFrom e.start 0 bytes

/-! ## 3. Encoding -/

/-- The bytes of a character in UTF-8. -/
def utf8Bytes (c : Char) : List UInt8 :=
  let n := c.toNat
  if n < 0x80 then [UInt8.ofNat n]
  else if n < 0x800 then [UInt8.ofNat (0xC0 + n / 0x40), UInt8.ofNat (0x80 + n % 0x40)]
  else if n < 0x10000 then
    [UInt8.ofNat (0xE0 + n / 0x1000), UInt8.ofNat (0x80 + n / 0x40 % 0x40),
     UInt8.ofNat (0x80 + n % 0x40)]
  else
    [UInt8.ofNat (0xF0 + n / 0x40000), UInt8.ofNat (0x80 + n / 0x1000 % 0x40),
     UInt8.ofNat (0x80 + n / 0x40 % 0x40), UInt8.ofNat (0x80 + n % 0x40)]

/-- The bytes of a character, if the encoding has any. -/
def charBytes? (e : Encoding) (c : Char) : Option (List UInt8) :=
  match e with
  | latin1 => if c.toNat < 0x100 then some [UInt8.ofNat c.toNat] else none
  | ascii => if c.toNat < 0x80 then some [UInt8.ofNat c.toNat] else none
  | _ => some (utf8Bytes c)

/-- The byte-order mark in front of a text. -/
def mark : Encoding → List UInt8
  | utf8Signature => [0xEF, 0xBB, 0xBF]
  | _ => []

/-- The bytes of a text; nothing if the encoding lacks one of its characters. -/
def encode? (e : Encoding) (s : Text) : Option (List UInt8) :=
  (s.mapM e.charBytes?).map fun parts => e.mark ++ parts.flatten

end Encoding

end MarkdownTemplate
