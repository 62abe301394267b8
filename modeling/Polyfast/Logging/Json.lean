import Mathlib.Data.List.Basic
import Mathlib.Data.Nat.Notation

/-!
# Payloads and their JSON text

`Data` is what a payload holds; `dumps` is `json.dumps` with its default separators, which escapes
everything outside printable ASCII.

* `length_le_dict`, `length_le_list`: a part is not longer than the whole.
-/

namespace Polyfast.Logging

mutual

/-- A value of a payload. A number is given by its JSON text, another object by what `str` makes of it. -/
inductive Data
  | null
  | bool (b : Bool)
  | num (text : String)
  | str (s : String)
  | other (text : String)
  | list (items : Items)
  | dict (fields : Fields)

/-- The values of a list. -/
inductive Items
  | nil
  | cons (d : Data) (rest : Items)

/-- The entries of a dictionary, in their order. -/
inductive Fields
  | nil
  | cons (key : String) (d : Data) (rest : Fields)

end

/-- A double quote. -/
def quoteChar : Char := Char.ofNat 34

/-- A backslash. -/
def backslash : Char := Char.ofNat 92

def hexDigit (d : ℕ) : Char := if d < 10 then Char.ofNat (48 + d) else Char.ofNat (87 + d)

/-- `\u` and four digits. -/
def escapeCode (n : ℕ) : List Char :=
  [backslash, 'u', hexDigit (n / 4096 % 16), hexDigit (n / 256 % 16), hexDigit (n / 16 % 16), hexDigit (n % 16)]

/-- A character inside a JSON string. -/
def escapeChar (c : Char) : List Char :=
  if c.toNat = 34 ∨ c.toNat = 92 then [backslash, c]
  else if c.toNat = 10 then [backslash, 'n']
  else if c.toNat = 13 then [backslash, 'r']
  else if c.toNat = 9 then [backslash, 't']
  else if c.toNat = 12 then [backslash, 'f']
  else if c.toNat = 8 then [backslash, 'b']
  else if 32 ≤ c.toNat ∧ c.toNat ≤ 126 then [c]
  else if c.toNat < 65536 then escapeCode c.toNat
  else escapeCode (55296 + (c.toNat - 65536) / 1024) ++ escapeCode (56320 + (c.toNat - 65536) % 1024)

/-- A JSON string. -/
def dumpsChars (s : List Char) : List Char := quoteChar :: s.flatMap escapeChar ++ [quoteChar]

mutual

/-- `json.dumps(…, default=str)`. -/
def Data.dumps : Data → List Char
  | .null => ['n', 'u', 'l', 'l']
  | .bool b => if b then ['t', 'r', 'u', 'e'] else ['f', 'a', 'l', 's', 'e']
  | .num text => text.toList
  | .str s => dumpsChars s.toList
  | .other text => dumpsChars text.toList
  | .list items => '[' :: [',', ' '].intercalate items.dumps ++ [']']
  | .dict fields => Char.ofNat 123 :: [',', ' '].intercalate fields.dumps ++ [Char.ofNat 125]

def Items.dumps : Items → List (List Char)
  | .nil => []
  | .cons d rest => d.dumps :: rest.dumps

def Fields.dumps : Fields → List (List Char)
  | .nil => []
  | .cons key d rest => (dumpsChars key.toList ++ [':', ' '] ++ d.dumps) :: rest.dumps

end

/-! ### Lengths -/

theorem length_le_intercalate (sep : List Char) {t : List Char} {ts : List (List Char)} (h : t ∈ ts) :
    t.length ≤ (sep.intercalate ts).length := by
  induction ts with
  | nil => cases h
  | cons u ts ih =>
    cases ts with
    | nil =>
      rw [List.mem_singleton] at h
      simp [h]
    | cons v ts =>
      rw [List.intercalate_cons_cons, List.length_append, List.length_append]
      rcases List.mem_cons.mp h with rfl | h
      · omega
      · have := ih h
        omega

theorem length_le_escaped (s : List Char) : s.length ≤ (s.flatMap escapeChar).length := by
  have hone : ∀ c, 1 ≤ (escapeChar c).length := by
    intro c
    unfold escapeChar escapeCode
    split_ifs <;> simp
  induction s with
  | nil => exact Nat.le_refl 0
  | cons c s ih =>
    have hc := hone c
    rw [List.flatMap_cons, List.length_append, List.length_cons]
    omega

/-- A JSON string is at least as long as its text. -/
theorem length_le_dumpsChars (s : List Char) : s.length ≤ (dumpsChars s).length := by
  have hall := length_le_escaped s
  simp only [dumpsChars, List.length_cons, List.length_append]
  omega

/-- An entry is written out in its dictionary. -/
theorem length_le_dict {fields : Fields} {t : List Char} (h : t ∈ fields.dumps) :
    t.length ≤ (Data.dict fields).dumps.length := by
  have hle := length_le_intercalate [',', ' '] h
  simp only [Data.dumps, List.length_append, List.length_cons]
  omega

/-- An element is written out in its list. -/
theorem length_le_list {items : Items} {t : List Char} (h : t ∈ items.dumps) :
    t.length ≤ (Data.list items).dumps.length := by
  have hle := length_le_intercalate [',', ' '] h
  simp only [Data.dumps, List.length_append, List.length_cons]
  omega

end Polyfast.Logging
