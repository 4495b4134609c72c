import CounterBoard.Text.Digits
import CounterBoard.Text.Hidden

/-!
Texts in messages: between double quotes, with the quote, the backslash and every character that
would not show written as an escape.
-/

set_option autoImplicit false
set_option relaxedAutoImplicit false

namespace CounterBoard.Text

def hexadecimal (n : Nat) : List Char :=
  if n < 16 then [n.digitChar] else hexadecimal (n / 16) ++ [(n % 16).digitChar]

def quotedChar (c : Char) : List Char :=
  if c = '\x00' then ['\\', '0']
  else if c = '\t' then ['\\', 't']
  else if c = '\n' then ['\\', 'n']
  else if c = '\r' then ['\\', 'r']
  else if c = '"' then ['\\', '"']
  else if c = '\\' then ['\\', '\\']
  else if isHidden c then '\\' :: 'u' :: '\x7b' :: hexadecimal c.toNat ++ ['\x7d']
  else [c]

def quoted (s : String) : String :=
  String.ofList ('"' :: s.toList.flatMap quotedChar ++ ['"'])

end CounterBoard.Text
