import SparqlExpr.Text.Hex
import SparqlExpr.Unicode.Property

/-! Texts in quotes, with escapes for what cannot be seen. -/
namespace SparqlExpr.Text

/-- One character between quotes. -/
def escape (c : Char) : List Char :=
  if c = '"' then ['\\', '"']
  else if c = '\\' then ['\\', '\\']
  else if c = '\n' then ['\\', 'n']
  else if c = '\r' then ['\\', 'r']
  else if c = '\t' then ['\\', 't']
  else if c = '\x00' then ['\\', '0']
  else if Unicode.visible.contains c then [c]
  else '\\' :: 'u' :: '\x7b' :: hexText c.toNat ++ ['\x7d']

def quoted (text : String) : String :=
  "\"" ++ String.ofList (text.toList.flatMap escape) ++ "\""

end SparqlExpr.Text
