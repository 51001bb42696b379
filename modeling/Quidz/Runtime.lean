import Quidz.Json
import Quidz.Clock

/-! What the package takes from Python rather than computes itself: the `json`,
`hmac`, `base64` and `datetime` modules, the generator it draws jitter from, and
the character tables, which differ between interpreter versions. -/

namespace Quidz

structure Runtime (T R : Type) where
  /-- `json.loads`. -/
  loads : Bytes → Except Exc Json
  /-- `json.loads` of a text. -/
  loadsText : Str → Except Exc Json
  /-- `json.dumps(value, sort_keys=True)`. -/
  dumps : Json → Str
  /-- The Unix time `datetime.fromisoformat` reads, in UTC where the text names
  no offset. -/
  timestamp : Str → Option T
  /-- `bytes.fromhex`. -/
  fromhex : Str → Option Bytes
  /-- `base64.b64decode(text, validate=True)`. -/
  b64decode : Str → Option Bytes
  /-- What `b64decode` says of a text it refuses. -/
  b64refusal : Str → Str
  /-- `base64.b64encode(raw).decode("ascii")`. -/
  b64encode : Bytes → Str
  hmacSha256 : Bytes → Bytes → Bytes
  /-- `random.SystemRandom()`, or `random.Random(seed)`. -/
  random : Option Int → R
  /-- `rng.uniform(low, high)` and the generator after it. -/
  uniform : R → T → T → T × R
  /-- `f"{x}"` of a number. -/
  format : T → Str
  /-- `round(n / d)`. -/
  rounded : Int → Int → Int
  /-- The tables beyond ASCII. -/
  printable : CodePoint → Bool
  space : CodePoint → Bool
  digit : CodePoint → Bool
  /-- The digit `int` reads a character as, if it reads it. -/
  decimal : CodePoint → Option Nat
  lowered : Str → Str
  uppered : Str → Str

/-- The nearest integer to a quotient, the even one of two. -/
def roundHalfEven (n d : Int) : Int :=
  let below := n / d
  if 2 * (n % d) < d ∨ 2 * (n % d) = d ∧ below % 2 = 0 then below else below + 1

/-- A runtime that knows some documents and dates, and draws the whole of every
delay. -/
def Runtime.recorded (documents : List Mapping) (dates : List (Str × Int)) : Runtime Int Unit where
  loads raw := match documents.find? fun document => Json.body document = raw with
    | some document => .ok (.dict document)
    | none => raise .jsonDecodeError (str "Expecting value: line 1 column 1 (char 0)")
  loadsText _ := raise .jsonDecodeError (str "Expecting value: line 1 column 1 (char 0)")
  dumps value := value.written
  timestamp text := dates.lookup text
  fromhex _ := none
  b64decode _ := none
  b64refusal _ := str "Incorrect padding"
  b64encode _ := []
  hmacSha256 _ _ := []
  random _ := ()
  uniform rng _ high := (high, rng)
  format := Str.ofInt
  rounded := roundHalfEven
  printable _ := true
  space _ := false
  digit _ := false
  decimal _ := none
  lowered := id
  uppered := id

def isascii (c : CodePoint) : Bool := c.val < 128

private def shift (low high : Char) (offset : Int) (c : CodePoint) : CodePoint :=
  if codePoint low ≤ c ∧ c ≤ codePoint high then Fin.ofNat _ (c.val + offset).toNat else c

/-- `sys.get_int_max_str_digits()`, as the interpreter is shipped. -/
def intMaxStrDigits : Nat := 4300

namespace Runtime
variable {T R : Type} (rt : Runtime T R)

def isprintable (c : CodePoint) : Bool := if isascii c then 32 ≤ c.val && c.val < 127 else rt.printable c

def isspace (c : CodePoint) : Bool :=
  if isascii c then (9 ≤ c.val && c.val ≤ 13) || (28 ≤ c.val && c.val ≤ 32) else rt.space c

def isdigit (text : Str) : Bool :=
  text ≠ [] && text.all fun c => if isascii c then codePoint '0' ≤ c && c ≤ codePoint '9' else rt.digit c

/-- `int(text)` of a text that `isdigit` accepts. -/
def int (text : Str) : Except Exc Int :=
  if intMaxStrDigits < text.length then
    raise .valueError (str "Exceeds the limit (" ++ Str.ofNat intMaxStrDigits ++ str " digits) for integer string conversion: " ++
      str "value has " ++ Str.ofNat text.length ++ str " digits; use sys.set_int_max_str_digits() to increase the limit")
  else
    match text.mapM fun c => if isascii c then some (c.val - (codePoint '0').val) else rt.decimal c with
    | some digits => .ok (digits.foldl (fun value digit => 10 * value + digit) 0 : Nat)
    | none => raise .valueError (str "invalid literal for int() with base 10: " ++ Json.reprStr rt.isprintable text)

def lower (text : Str) : Str := if text.all isascii then text.map (shift 'A' 'Z' 32) else rt.lowered text

def upper (text : Str) : Str := if text.all isascii then text.map (shift 'a' 'z' (-32)) else rt.uppered text

end Runtime
end Quidz
