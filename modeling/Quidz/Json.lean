import Quidz.Errors

/-! JSON documents as `json.loads` returns them, and the text Python prints for
them. -/

namespace Quidz

/-- A float is identified by its `repr`, which reads back as the same float. -/
inductive Json where
  | null
  | bool (value : Bool)
  | int (value : Int)
  | float (text : Str)
  | str (value : Str)
  | list (items : List Json)
  | dict (entries : List (Str × Json))

/-- A `Mapping[str, object]`. -/
abbrev Mapping := List (Str × Json)

namespace Mapping

/-- `get`, whose default `None` is also what JSON `null` decodes to. -/
def get (source : Mapping) (key : Str) : Json := (source.lookup key).getD .null

/-- `key in source`. -/
def has (source : Mapping) (key : Str) : Bool := (source.lookup key).isSome

end Mapping

namespace Json

/-- The mapping a value is, if it is one. -/
def mapping : Json → Option Mapping
  | .dict entries => some entries
  | _ => none

section Repr
variable (isprintable : CodePoint → Bool)

private def hexDigits : Nat → Nat → Str
  | 0, _ => []
  | width + 1, n => hexDigits width (n / 16) ++ [codePoint (Nat.digitChar (n % 16))]

private def escapeChar (quote c : CodePoint) : Str :=
  if c = quote then [codePoint '\\', c]
  else if c = codePoint '\\' then [c, c]
  else if c = codePoint '\t' then Quidz.str "\\t"
  else if c = codePoint '\n' then Quidz.str "\\n"
  else if c = codePoint '\r' then Quidz.str "\\r"
  else if isprintable c then [c]
  else if c.val < 0x100 then Quidz.str "\\x" ++ hexDigits 2 c.val
  else if c.val < 0x10000 then Quidz.str "\\u" ++ hexDigits 4 c.val
  else Quidz.str "\\U" ++ hexDigits 8 c.val

/-- Single quotes, unless the text holds one and no double quote. -/
def reprStr (text : Str) : Str :=
  let quote := if text.contains (codePoint '\'') && !text.contains (codePoint '"') then codePoint '"' else codePoint '\''
  [quote] ++ text.flatMap (escapeChar isprintable quote) ++ [quote]

mutual
/-- `repr(value)`. -/
def repr : Json → Str
  | .null => Quidz.str "None"
  | .bool true => Quidz.str "True"
  | .bool false => Quidz.str "False"
  | .int n => Str.ofInt n
  | .float text => text
  | .str text => reprStr isprintable text
  | .list items => Quidz.str "[" ++ Str.join (Quidz.str ", ") (reprItems items) ++ Quidz.str "]"
  | .dict entries => Quidz.str "\x7b" ++ Str.join (Quidz.str ", ") (reprEntries entries) ++ Quidz.str "\x7d"

def reprItems : List Json → List Str
  | [] => []
  | item :: rest => repr item :: reprItems rest

def reprEntries : List (Str × Json) → List Str
  | [] => []
  | (key, value) :: rest => (reprStr isprintable key ++ Quidz.str ": " ++ repr value) :: reprEntries rest
end

/-- `str(value)`. -/
def toStr : Json → Str
  | .str text => text
  | value => repr isprintable value

end Repr

mutual
/-- The JSON text of a document whose strings need no escapes. -/
def written : Json → Str
  | .null => Quidz.str "null"
  | .bool true => Quidz.str "true"
  | .bool false => Quidz.str "false"
  | .int n => Str.ofInt n
  | .float text => text
  | .str text => Quidz.str "\"" ++ text ++ Quidz.str "\""
  | .list items => Quidz.str "[" ++ Str.join (Quidz.str ", ") (writtenItems items) ++ Quidz.str "]"
  | .dict entries => Quidz.str "\x7b" ++ Str.join (Quidz.str ", ") (writtenEntries entries) ++ Quidz.str "\x7d"

def writtenItems : List Json → List Str
  | [] => []
  | item :: rest => written item :: writtenItems rest

def writtenEntries : List (Str × Json) → List Str
  | [] => []
  | (key, value) :: rest => (Quidz.str "\"" ++ key ++ Quidz.str "\": " ++ written value) :: writtenEntries rest
end

/-- The body that carries a document. -/
def body (document : Mapping) : Bytes := (written (.dict document)).map fun c => .ofNat c.val

end Json
end Quidz
