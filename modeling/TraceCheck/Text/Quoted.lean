import TraceCheck.Text.Hex
import TraceCheck.Unicode.Binary
import TraceCheck.Unicode.GeneralCategory

/-!
# Quoted text in messages

A text in double quotes, with escapes for the quote, the backslash and
everything that has no visible form of its own.
-/

namespace TraceCheck.Text

open TraceCheck.Unicode

/-- The categories of the characters without a visible form. -/
def invisibleCategories : List String :=
  ["cc", "cf", "cs", "co", "cn", "zl", "zp", "zs"]

/-- The code points without a visible form, and the marks that would attach to
the character before them. -/
def invisibleSet : CodePoints :=
  .ofRanges <|
    (categoryTable.flatMap fun (names, rows) =>
      if names.any invisibleCategories.contains then (CodePoints.ofText rows).ranges else []) ++
    binaryTable.flatMap fun (names, rows) =>
      if names.contains "graphemeextend" then (CodePoints.ofText rows).ranges else []

/-- One character inside double quotes. -/
def quotedChar (c : Char) : List Char :=
  match c with
  | '"' => ['\\', '"']
  | '\\' => ['\\', '\\']
  | '\n' => ['\\', 'n']
  | '\r' => ['\\', 'r']
  | '\t' => ['\\', 't']
  | '\x00' => ['\\', '0']
  | c =>
    if 0x20 ≤ c.toNat && c.toNat < 0x7F then [c]
    else if invisibleSet.contains c then
      ['\\', 'u', '\x7b'] ++ hex .lower 1 c.toNat ++ ['\x7d']
    else [c]

/-- The text in double quotes, with escapes for what cannot be shown. -/
def quoted (s : String) : String :=
  String.ofList ('"' :: s.toList.flatMap quotedChar ++ ['"'])

end TraceCheck.Text
