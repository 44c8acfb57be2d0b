import QueryConditions.Text.Basic
import QueryConditions.Text.InvisibleRanges

/-!
Quotations of a text inside a message: every character is visible or named.
-/

namespace QueryConditions.Text

def hexText (n : Nat) : Text := Nat.toDigits 16 n

def quoteChar (c : Char) : Text :=
  match c with
  | '"' => ['\\', '"']
  | '\\' => ['\\', '\\']
  | '\n' => ['\\', 'n']
  | '\r' => ['\\', 'r']
  | '\t' => ['\\', 't']
  | '\x00' => ['\\', '0']
  | c =>
      if inRanges invisibleRanges c then
        ['\\', 'u', '\x7b'] ++ hexText c.toNat ++ ['\x7d']
      else [c]

def quotation (s : Text) : Text := '"' :: s.flatMap quoteChar ++ ['"']

end QueryConditions.Text
