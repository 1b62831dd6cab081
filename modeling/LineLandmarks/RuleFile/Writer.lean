import LineLandmarks.RuleFile.Field

/-!
# Writing rule files

A list of settings under section headers as the text of a rule file: one key and value on a row.
Texts are written between double quotes; the quote and the backslash get a backslash before them,
control characters are written by their code points.
-/

namespace LineLandmarks.RuleFile

/-- A field with the value it is set to. -/
inductive Setting where
  | text (f : TextField) (s : String)
  | count (f : CountField) (n : Nat)
  deriving DecidableEq, Repr

namespace Setting

/-- The `field` that a setting sets. -/
def field : Setting → Field
  | text f _ => .text f
  | count f _ => .count f

/-- The rules `r` with the field of `s` set. -/
def apply (s : Setting) (r : Rules) : Rules :=
  match s with
  | text f t => f.set t r
  | count f n => f.set (UInt64.ofNat n) r

end Setting

/-- The character `c` as it is written between double quotes. -/
def writeChar (c : Char) : List Char :=
  if c = '"' then ['\\', '"']
  else if c = '\\' then ['\\', '\\']
  else if c.toNat < 0x20 ∨ c.toNat = 0x7F then
    ['\\', 'u', '0', '0', Nat.digitChar (c.toNat / 16), Nat.digitChar (c.toNat % 16)]
  else [c]

/-- The text `s` between double quotes. -/
def writeText (s : String) : List Char :=
  '"' :: s.toList.flatMap writeChar ++ ['"']

namespace Setting

/-- The row of the setting `s`, `key = value` and a line feed. -/
def row (s : Setting) : List Char :=
  s.field.name.toList ++ [' ', '=', ' '] ++ value s ++ ['\n']
where
  /-- The value as it is written. -/
  value : Setting → List Char
    | text _ t => writeText t
    | count _ n => Nat.toDigits 10 n

end Setting

/-- The row of the header of `s`. -/
def headerRow (s : Section) : List Char :=
  '[' :: s.name.toList ++ [']', '\n']

/-- The text of a rule file with `sections` and the settings of each, in this order. -/
def write (sections : List (Section × List Setting)) : String :=
  String.ofList (sections.flatMap fun s => headerRow s.1 ++ s.2.flatMap Setting.row)

end LineLandmarks.RuleFile
