import Mathlib.Algebra.Group.Nat.Defs
import Mathlib.Algebra.Order.Ring.Int
import Mathlib.Data.List.Basic
import Mathlib.Order.Fin.Basic

/-! Python strings. A `str` is a sequence of code points, so a JSON escape can put
a lone surrogate in one; it then has no UTF-8 encoding. -/

namespace Quidz

abbrev CodePoint := Fin 0x110000

instance codePoints : NeZero 0x110000 := ⟨by decide⟩

abbrev Str := List CodePoint

instance : LawfulBEq Str := inferInstance

abbrev Bytes := List UInt8

def codePoint (c : Char) : CodePoint :=
  ⟨c.toNat, by
    rcases c.valid with small | ⟨_, bounded⟩
    · exact Nat.lt_trans small (by decide)
    · exact bounded⟩

def str (text : String) : Str := text.toList.map codePoint

theorem codePoint_injective : Function.Injective codePoint :=
  fun _ _ same => Char.toNat_inj.mp (Fin.mk.inj same)

namespace Str

def ofNat (n : Nat) : Str := (Nat.toDigits 10 n).map codePoint

/-- `str(n)` of an integer. -/
def ofInt : Int → Str
  | .ofNat n => ofNat n
  | .negSucc n => codePoint '-' :: ofNat (n + 1)

def isSurrogate (c : CodePoint) : Bool := 0xD800 ≤ c.val && c.val ≤ 0xDFFF

/-- Whether `encode("utf-8")` accepts the string. -/
def encodable (text : Str) : Bool := text.all fun c => !isSurrogate c

private def utf8 (c : CodePoint) : Bytes :=
  let n := c.val
  let continuation (shift : Nat) : UInt8 := .ofNat (0x80 + n / 2 ^ shift % 0x40)
  if n < 0x80 then [.ofNat n]
  else if n < 0x800 then [.ofNat (0xC0 + n / 2 ^ 6), continuation 0]
  else if n < 0x10000 then [.ofNat (0xE0 + n / 2 ^ 12), continuation 6, continuation 0]
  else [.ofNat (0xF0 + n / 2 ^ 18), continuation 12, continuation 6, continuation 0]

/-- `encode("utf-8")`. -/
def encode (text : Str) : Except Unit Bytes :=
  if text.encodable then .ok (text.flatMap utf8) else .error ()

/-- `replace` for a one character pattern. -/
def replace (text : Str) (old : CodePoint) (new : Str) : Str :=
  text.flatMap fun c => if c = old then new else [c]

/-- `separator.join(parts)`. -/
def join (separator : Str) (parts : List Str) : Str := separator.intercalate parts

/-- `split` on one character. -/
def split (text : Str) (separator : CodePoint) : List Str := List.splitOn separator text

/-- What stands before and after the first separator, if there is one. -/
def partition (text : Str) (separator : CodePoint) : Option (Str × Str) :=
  match text.dropWhile (· ≠ separator) with
  | [] => none
  | _ :: rest => some (text.takeWhile (· ≠ separator), rest)

/-- The characters a line ends at. -/
def isLineBreak (c : CodePoint) : Bool := [10, 11, 12, 13, 28, 29, 30, 0x85, 0x2028, 0x2029].contains c.val

/-- `splitlines`, right behind a carriage return or not: a line feed there ends no line of
its own. -/
def splitlinesFrom (returned : Bool) : Str → List Str
  | [] => []
  | c :: rest =>
    if returned && c = codePoint '\n' then splitlinesFrom false rest
    else if isLineBreak c then [] :: splitlinesFrom (c = codePoint '\r') rest
    else
      match splitlinesFrom false rest with
      | [] => [[c]]
      | line :: lines => (c :: line) :: lines

def splitlines (text : Str) : List Str := splitlinesFrom false text

def strip (isspace : CodePoint → Bool) (text : Str) : Str :=
  ((text.dropWhile isspace).reverse.dropWhile isspace).reverse

theorem ofNat_injective : Function.Injective ofNat := by
  intro first second same
  have digits := List.map_injective_iff.mpr codePoint_injective same
  rw [← Nat.ofDigitChars_ten_toDigits (n := first), digits, Nat.ofDigitChars_ten_toDigits]

theorem ofNat_ne_nil (n : Nat) : ofNat n ≠ [] := by simp [ofNat, Nat.toDigits_ne_nil]

private theorem ofNat_unsigned (n m : Nat) : ofNat n ≠ codePoint '-' :: ofNat m := by
  intro same
  have member : codePoint '-' ∈ ofNat n := by simp [same]
  obtain ⟨digit, inside, equal⟩ := List.mem_map.mp member
  have isDigit := Nat.isDigit_of_mem_toDigits (by decide) (by decide) inside
  rw [codePoint_injective equal] at isDigit
  exact absurd isDigit (by decide)

/-- Decimal text determines the integer it was written from. -/
theorem ofInt_injective : Function.Injective ofInt := by
  intro first second same
  cases first with
  | ofNat n =>
    cases second with
    | ofNat m => rw [ofNat_injective same]
    | negSucc m => exact absurd same (ofNat_unsigned n (m + 1))
  | negSucc n =>
    cases second with
    | ofNat m => exact absurd same.symm (ofNat_unsigned m (n + 1))
    | negSucc m => rw [Nat.succ.inj (ofNat_injective (List.cons.inj same).2)]

theorem ofInt_ne_nil (n : Int) : ofInt n ≠ [] := by
  cases n with
  | ofNat n => exact ofNat_ne_nil n
  | negSucc n => simp [ofInt]

end Str
end Quidz
