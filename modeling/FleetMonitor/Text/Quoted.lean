import FleetMonitor.Text.Category
import FleetMonitor.Text.Property

/-!
# Quoted texts

The form in which a message shows a text: between double quotes, with every
character escaped that would not show as itself.
-/

set_option autoImplicit false

namespace FleetMonitor.Text

def codePoint (c : Char) : List Char :=
  ['\\', 'u', '\x7b'] ++ Nat.toDigits 16 c.toNat ++ ['\x7d']

/-- A character that is drawn together with the one before it, so that it would not
show as itself; the halfwidth sound marks do. -/
def clings (c : Char) : Bool :=
  graphemeExtend.contains c && c.toNat != 0xFF9E && c.toNat != 0xFF9F

def quotedChar (c : Char) : List Char :=
  if c = '\x00' then ['\\', '0']
  else if c = '\t' then ['\\', 't']
  else if c = '\r' then ['\\', 'r']
  else if c = '\n' then ['\\', 'n']
  else if c = '"' then ['\\', '"']
  else if c = '\\' then ['\\', '\\']
  else if clings c || !isPrintable c then codePoint c
  else [c]

def quoted (s : String) : String :=
  String.ofList ('"' :: s.toList.flatMap quotedChar ++ ['"'])

end FleetMonitor.Text
