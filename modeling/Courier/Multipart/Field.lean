import Courier.Text.Split

/-!
# Parameters of part headers

A parameter of a part header is a name and a value in double quotes. What would end the value or its
line is written as a percent escape, and nothing else is. Main statements: the escaped value holds no
double quote and no line break (`not_mem_escape`), and escaping goes character by character
(`escape_append`).
-/

namespace Courier.Multipart

/-- The escape of a character that cannot stand in a value. -/
def escapeChar (c : Char) : List Char :=
  if c = '"' then "%22".toList
  else if c = '\r' then "%0D".toList
  else if c = '\n' then "%0A".toList
  else [c]

/-- A value with what cannot stand in it escaped. -/
def escape (value : List Char) : List Char :=
  value.flatMap escapeChar

/-- Turns the three escapes back, from left to right. -/
def unescape : List Char → List Char
  | '%' :: '2' :: '2' :: rest => '"' :: unescape rest
  | '%' :: '0' :: 'D' :: rest => '\r' :: unescape rest
  | '%' :: '0' :: 'A' :: rest => '\n' :: unescape rest
  | c :: rest => c :: unescape rest
  | [] => []

/-- A parameter of a part header. -/
def parameter (name value : String) : String :=
  name ++ "=\"" ++ String.ofList (escape value.toList) ++ "\""

@[simp] theorem escape_nil : escape [] = [] := rfl

theorem escape_append (a b : List Char) : escape (a ++ b) = escape a ++ escape b := by
  simp [escape]

theorem not_mem_escapeChar {c d : Char} (h : d = '"' ∨ d = '\r' ∨ d = '\n') :
    d ∉ escapeChar c := by
  unfold escapeChar
  rcases h with rfl | rfl | rfl <;> (repeat' split) <;> simp_all <;> grind

theorem not_mem_escape {value : List Char} {d : Char} (h : d = '"' ∨ d = '\r' ∨ d = '\n') :
    d ∉ escape value := by
  simp only [escape, List.mem_flatMap, not_exists, not_and]
  exact fun c _ => not_mem_escapeChar h

end Courier.Multipart
