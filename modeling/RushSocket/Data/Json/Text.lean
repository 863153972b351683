import RushSocket.Data.Json.Value

namespace RushSocket.Data.Json

/-! Compact texts.  A document is printed token by token, without white space. -/

inductive Token where
  | openArray
  | closeArray
  | openObject
  | closeObject
  | comma
  | colon
  | null
  | bool (value : Bool)
  | number (value : Number)
  | string (value : String)
  deriving DecidableEq

def hexDigit (value : Nat) : Char :=
  if value < 10 then Char.ofNat (48 + value) else Char.ofNat (87 + value)

def escapeChar (char : Char) : List Char :=
  if char = '"' then ['\\', '"']
  else if char = '\\' then ['\\', '\\']
  else if char.toNat = 8 then ['\\', 'b']
  else if char.toNat = 9 then ['\\', 't']
  else if char.toNat = 10 then ['\\', 'n']
  else if char.toNat = 12 then ['\\', 'f']
  else if char.toNat = 13 then ['\\', 'r']
  else if char.toNat < 32 then
    ['\\', 'u', '0', '0', hexDigit (char.toNat / 16), hexDigit (char.toNat % 16)]
  else [char]

def Token.text : Token → List Char
  | .openArray => ['[']
  | .closeArray => [']']
  | .openObject => ['\x7b']
  | .closeObject => ['\x7d']
  | .comma => [',']
  | .colon => [':']
  | .null => ['n', 'u', 'l', 'l']
  | .bool true => ['t', 'r', 'u', 'e']
  | .bool false => ['f', 'a', 'l', 's', 'e']
  | .number value => value.print
  | .string value => '"' :: value.toList.flatMap escapeChar ++ ['"']

def tokens : Json → List Token
  | .null => [.null]
  | .bool value => [.bool value]
  | .number value => [.number value]
  | .string value => [.string value]
  | .array [] => [.openArray, .closeArray]
  | .array (item :: rest) =>
      .openArray :: item.tokens ++ tailItems rest ++ [.closeArray]
  | .object [] => [.openObject, .closeObject]
  | .object ((key, value) :: rest) =>
      .openObject :: .string key :: .colon :: value.tokens ++ tailFields rest ++
        [.closeObject]
where
  tailItems : List Json → List Token
    | [] => []
    | item :: rest => .comma :: item.tokens ++ tailItems rest
  tailFields : List (String × Json) → List Token
    | [] => []
    | (key, value) :: rest =>
        .comma :: .string key :: .colon :: value.tokens ++ tailFields rest

def print (json : Json) : String :=
  String.ofList (json.tokens.flatMap Token.text)

/-! Reading characters into tokens. -/

def isSpace (char : Char) : Bool :=
  char = ' ' || char = '\n' || char = '\t' || char = '\r'

/-- The characters of `true`, `false`, `null`, of numbers, and of no token. -/
def isBare (char : Char) : Bool :=
  !isSpace char && char ∉ ['[', ']', '\x7b', '\x7d', ',', ':', '"']

/-- Where the reader stands; what it has read of a token is reversed. -/
inductive Mode where
  | between
  | bare (read : List Char)
  | quoted (read : List Char)
  | escape (read : List Char)
  | unicode (read : List Char) (high : Option Nat) (digits : List Nat)
  | lowBackslash (read : List Char) (high : Nat)
  | lowMark (read : List Char) (high : Nat)

variable (readFloat : DecimalText → Option DecimalText)

def rereadNumber : Number → Option Number
  | .integer value inRange => some (.integer value inRange)
  | .decimal text => (readFloat text).map .decimal

def bareToken (chars : List Char) : Option Token :=
  if chars = ['t', 'r', 'u', 'e'] then some (.bool true)
  else if chars = ['f', 'a', 'l', 's', 'e'] then some (.bool false)
  else if chars = ['n', 'u', 'l', 'l'] then some .null
  else ((Number.read chars).bind (rereadNumber readFloat)).map .number

def punctuation : Char → Option Token
  | '[' => some .openArray
  | ']' => some .closeArray
  | '\x7b' => some .openObject
  | '\x7d' => some .closeObject
  | ',' => some .comma
  | ':' => some .colon
  | _ => none

def stepBetween (char : Char) : List Token × Mode :=
  if isSpace char then ([], .between)
  else if char = '"' then ([], .quoted [])
  else match punctuation char with
    | some token => ([token], .between)
    | none => ([], .bare [char])

def simpleEscape : Char → Option Char
  | '"' => some '"'
  | '\\' => some '\\'
  | '/' => some '/'
  | 'b' => some (Char.ofNat 8)
  | 'f' => some (Char.ofNat 12)
  | 'n' => some (Char.ofNat 10)
  | 'r' => some (Char.ofNat 13)
  | 't' => some (Char.ofNat 9)
  | _ => none

def hexValue (char : Char) : Option Nat :=
  if '0' ≤ char ∧ char ≤ '9' then some (char.toNat - 48)
  else if 'a' ≤ char ∧ char ≤ 'f' then some (char.toNat - 87)
  else if 'A' ≤ char ∧ char ≤ 'F' then some (char.toNat - 55)
  else none

/-- What four hexadecimal digits stand for: a character, the leading half of
one, or the trailing half of the one begun. -/
def unicodeMode (read : List Char) (high : Option Nat) (value : Nat) : Option Mode :=
  match high with
  | none =>
      if 0xDC00 ≤ value ∧ value ≤ 0xDFFF then none
      else if 0xD800 ≤ value ∧ value ≤ 0xDBFF then some (.lowBackslash read value)
      else some (.quoted (Char.ofNat value :: read))
  | some leading =>
      if 0xDC00 ≤ value ∧ value ≤ 0xDFFF then
        some (.quoted (Char.ofNat
          ((leading - 0xD800) * 0x400 + (value - 0xDC00) + 0x10000) :: read))
      else none

def stepMode : Mode → Char → Option (List Token × Mode)
  | .between, char => some (stepBetween char)
  | .bare read, char =>
      if isBare char then some ([], .bare (char :: read))
      else (bareToken readFloat read.reverse).map fun token =>
        (token :: (stepBetween char).1, (stepBetween char).2)
  | .quoted read, char =>
      if char = '"' then some ([.string (String.ofList read.reverse)], .between)
      else if char = '\\' then some ([], .escape read)
      else if char.toNat < 32 then none
      else some ([], .quoted (char :: read))
  | .escape read, char =>
      if char = 'u' then some ([], .unicode read none [])
      else (simpleEscape char).map fun meant => ([], .quoted (meant :: read))
  | .unicode read high digits, char =>
      (hexValue char).bind fun digit =>
        match digits with
        | [third, second, first] =>
            (unicodeMode read high
              (((first * 16 + second) * 16 + third) * 16 + digit)).map ([], ·)
        | _ => some ([], .unicode read high (digit :: digits))
  | .lowBackslash read high, char =>
      if char = '\\' then some ([], .lowMark read high) else none
  | .lowMark read high, char =>
      if char = 'u' then some ([], .unicode read (some high) []) else none

def finishMode : Mode → Option (List Token)
  | .between => some []
  | .bare read => (bareToken readFloat read.reverse).map ([·])
  | _ => none

def scanFrom : Mode → List Char → Option (List Token)
  | mode, [] => finishMode readFloat mode
  | mode, char :: rest =>
      (stepMode readFloat mode char).bind fun (emitted, next) =>
        (scanFrom next rest).map (emitted ++ ·)

/-! Reading tokens into a document.  A frame is an array or object that is
still open, with what was read of it reversed. -/

inductive Frame where
  | array (read : List Json)
  | object (read : List (String × Json)) (key : String)

inductive Focus where
  | value
  | firstItem
  | firstKey
  | nextKey (read : List (String × Json))
  | colon (read : List (String × Json)) (key : String)
  | done (json : Json)

structure Reading where
  frames : List Frame
  focus : Focus

/-- Arrays and objects nest at most this deep. -/
def recursionLimit : Nat := 127

def feedValue (frames : List Frame) : Token → Option Reading
  | .null => some ⟨frames, .done .null⟩
  | .bool value => some ⟨frames, .done (.bool value)⟩
  | .number value => some ⟨frames, .done (.number value)⟩
  | .string value => some ⟨frames, .done (.string value)⟩
  | .openArray =>
      if frames.length < recursionLimit then some ⟨.array [] :: frames, .firstItem⟩
      else none
  | .openObject =>
      if frames.length < recursionLimit then some ⟨frames, .firstKey⟩ else none
  | _ => none

def feed : Reading → Token → Option Reading
  | ⟨frames, .value⟩, token => feedValue frames token
  | ⟨.array [] :: frames, .firstItem⟩, .closeArray =>
      some ⟨frames, .done (.array [])⟩
  | ⟨frames, .firstItem⟩, token => feedValue frames token
  | ⟨frames, .firstKey⟩, .closeObject => some ⟨frames, .done (.object [])⟩
  | ⟨frames, .firstKey⟩, .string key => some ⟨frames, .colon [] key⟩
  | ⟨frames, .nextKey read⟩, .string key => some ⟨frames, .colon read key⟩
  | ⟨frames, .colon read key⟩, .colon => some ⟨.object read key :: frames, .value⟩
  | ⟨.array read :: frames, .done json⟩, .comma =>
      some ⟨.array (json :: read) :: frames, .value⟩
  | ⟨.array read :: frames, .done json⟩, .closeArray =>
      some ⟨frames, .done (.array (json :: read).reverse)⟩
  | ⟨.object read key :: frames, .done json⟩, .comma =>
      some ⟨frames, .nextKey ((key, json) :: read)⟩
  | ⟨.object read key :: frames, .done json⟩, .closeObject =>
      some ⟨frames, .done (.object ((key, json) :: read).reverse)⟩
  | _, _ => none

def feedAll : Reading → List Token → Option Reading
  | reading, [] => some reading
  | reading, token :: rest =>
      (feed reading token).bind fun next => feedAll next rest

def ofTokens (tokens : List Token) : Option Json :=
  match feedAll ⟨[], .value⟩ tokens with
  | some ⟨[], .done json⟩ => some json
  | _ => none

def parse (text : String) : Option Json :=
  (scanFrom readFloat .between text.toList).bind ofTokens

/-- Read every number of the document again from its text. -/
def reread : Json → Option Json
  | .number value => (rereadNumber readFloat value).map .number
  | .array items => (rereadItems items).map .array
  | .object fields => (rereadFields fields).map .object
  | other => some other
where
  rereadItems : List Json → Option (List Json)
    | [] => some []
    | item :: rest =>
        item.reread.bind fun again => (rereadItems rest).map (again :: ·)
  rereadFields : List (String × Json) → Option (List (String × Json))
    | [] => some []
    | (key, value) :: rest =>
        value.reread.bind fun again =>
          (rereadFields rest).map ((key, again) :: ·)

end RushSocket.Data.Json
