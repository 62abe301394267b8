import Mathlib.Tactic.Common
import Polyfast.Lib.Scan
import Polyfast.Logging.Json

/-!
# Reading JSON

`loads` is `json.loads` on texts without lone surrogates. A number is kept as its text; of entries with the same key
the last one counts.

* `scanString_escapeChar`, `scanString_dumpsChars`: what `escapeChar` writes is read as the character;
* `scanNumber_append`: a number ends where the list or the dictionary around it goes on;
* `scanOnce_dumps`: a value is read behind whatever stands before it and before whatever ends it;
* `loads_dumps`: what `dumps` writes reads back, other objects as their texts.
-/

namespace Polyfast.Logging

/-! ### Strings -/

/-- The value of a hexadecimal digit. -/
def hexValue (c : Char) : Option ℕ :=
  if c.isDigit then some (c.toNat - 48)
  else if 'a' ≤ c ∧ c ≤ 'f' then some (c.toNat - 87)
  else if 'A' ≤ c ∧ c ≤ 'F' then some (c.toNat - 55)
  else none

/-- Four hexadecimal digits. -/
def scanCode : List Char → Option (ℕ × List Char)
  | a :: b :: c :: d :: cs => do
    let a ← hexValue a
    let b ← hexValue b
    let c ← hexValue c
    let d ← hexValue d
    some (a * 4096 + b * 256 + c * 16 + d, cs)
  | _ => none

def isHighSurrogate (n : ℕ) : Bool := 55296 ≤ n && n < 56320

def isLowSurrogate (n : ℕ) : Bool := 56320 ≤ n && n < 57344

/-- The character behind `\u`: one code, or two that are the halves of a character. -/
def scanUnicode (cs : List Char) : Option (Char × List Char) := do
  let (n, cs) ← scanCode cs
  if isHighSurrogate n then
    match cs with
    | b :: u :: cs =>
      if b = backslash ∧ u = 'u' then do
        let (m, cs) ← scanCode cs
        if isLowSurrogate m then some (Char.ofNat (65536 + (n - 55296) * 1024 + (m - 56320)), cs) else none
      else none
    | _ => none
  else if isLowSurrogate n then none
  else some (Char.ofNat n, cs)

/-- The character that a backslash and `c` stand for. -/
def simpleEscape (c : Char) : Option Char :=
  if c = quoteChar ∨ c = backslash ∨ c = '/' then some c
  else if c = 'n' then some (Char.ofNat 10)
  else if c = 'r' then some (Char.ofNat 13)
  else if c = 't' then some (Char.ofNat 9)
  else if c = 'f' then some (Char.ofNat 12)
  else if c = 'b' then some (Char.ofNat 8)
  else none

/-- The character behind a backslash. -/
def scanEscape : List Char → Option (Char × List Char)
  | [] => none
  | c :: cs => if c = 'u' then scanUnicode cs else (simpleEscape c).map (·, cs)

/-- `scanstring`: the characters up to the closing quote, `fuel` at most, none of them a control character. -/
def scanString : ℕ → List Char → Option (List Char × List Char)
  | 0, _ | _ + 1, [] => none
  | fuel + 1, c :: cs =>
    if c = quoteChar then some ([], cs)
    else if c = backslash then do
      let (d, cs) ← scanEscape cs
      (scanString fuel cs).map (Prod.map (d :: ·) id)
    else if c.toNat < 32 then none
    else (scanString fuel cs).map (Prod.map (c :: ·) id)

/-! ### Numbers -/

/-- A sign, and a zero or digits that do not begin with one. -/
def scanInt : Lib.Scanner Char
  | '0' :: cs => (['0'], cs)
  | cs => Lib.Scanner.run Char.isDigit cs

def integerPart : Lib.Scanner Char := (Lib.Scanner.optional (· = '-')).both scanInt

def fractionPart : Lib.Scanner Char := Lib.Scanner.behind (· = '.') (.run Char.isDigit)

def exponentPart : Lib.Scanner Char :=
  Lib.Scanner.behind (fun c => c = 'e' || c = 'E')
    ((Lib.Scanner.optional fun c => c = '+' || c = '-').both (.run Char.isDigit))

/-- `match_number`. -/
def scanNumber (cs : List Char) : Option (List Char × List Char) :=
  if (integerPart cs).1.isEmpty then none
  else some ((integerPart.andThen (fractionPart.andThen exponentPart)) cs)

/-- The words that are values. -/
def literals : List (String × Data) :=
  [("null", .null), ("true", .bool true), ("false", .bool false), ("NaN", .num "NaN"), ("Infinity", .num "Infinity"),
    ("-Infinity", .num "-Infinity")]

/-- A word or a number. -/
def scanAtom (cs : List Char) : Option (Data × List Char) :=
  match literals.find? (fun l => l.1.toList.isPrefixOf cs) with
  | some (word, d) => some (d, cs.drop word.length)
  | none => (scanNumber cs).map (Prod.map (fun text => .num (String.ofList text)) id)

/-! ### Values -/

def openBrace : Char := Char.ofNat 123

def closeBrace : Char := Char.ofNat 125

/-- White space between the parts of a text. -/
def isJsonSpace (c : Char) : Bool := c.toNat = 32 || c.toNat = 9 || c.toNat = 10 || c.toNat = 13

def skipSpace (cs : List Char) : List Char := cs.dropWhile isJsonSpace

/-- The value of the last entry with a key. -/
def Fields.last? (key : String) : Fields → Option Data
  | .nil => none
  | .cons key' d rest => (rest.last? key).or (if key' = key then some d else none)

def Fields.without (key : String) : Fields → Fields
  | .nil => .nil
  | .cons key' d rest => if key' = key then rest.without key else .cons key' d (rest.without key)

/-- The dictionary of entries that come one after the other: a key has its first place and its last value. -/
def Fields.unique : Fields → Fields
  | .nil => .nil
  | .cons key d rest => .cons key ((rest.last? key).getD d) (rest.unique.without key)

/-- Behind an element: the end of the whole, or a comma and more of it. -/
def scanMore {α : Type} (close : Char) (last : α) (more : List Char → Option (α × List Char)) (cs : List Char) :
    Option (α × List Char) :=
  match skipSpace cs with
  | [] => none
  | c :: cs => if c = close then some (last, cs) else if c = ',' then more (skipSpace cs) else none

mutual

/-- `scan_once`. -/
def scanOnce : ℕ → List Char → Option (Data × List Char)
  | 0, _ | _ + 1, [] => none
  | fuel + 1, c :: cs =>
    if c = quoteChar then (scanString (cs.length + 1) cs).map (Prod.map (fun s => .str (String.ofList s)) id)
    else if c = openBrace then
      match skipSpace cs with
      | [] => none
      | d :: cs =>
        if d = closeBrace then some (.dict .nil, cs)
        else (scanFields fuel (d :: cs)).map (Prod.map (fun fields => .dict fields.unique) id)
    else if c = '[' then
      match skipSpace cs with
      | [] => none
      | d :: cs => if d = ']' then some (.list .nil, cs) else (scanItems fuel (d :: cs)).map (Prod.map .list id)
    else scanAtom (c :: cs)

/-- The elements up to the end of the list. -/
def scanItems : ℕ → List Char → Option (Items × List Char)
  | 0, _ => none
  | fuel + 1, cs => do
    let (d, cs) ← scanOnce fuel cs
    scanMore ']' (.cons d .nil) (fun cs => (scanItems fuel cs).map (Prod.map (.cons d) id)) cs

/-- The entries up to the end of the dictionary, in the order of the text. -/
def scanFields : ℕ → List Char → Option (Fields × List Char)
  | 0, _ | _ + 1, [] => none
  | fuel + 1, c :: cs =>
    if c = quoteChar then do
      let (key, cs) ← scanString (cs.length + 1) cs
      match skipSpace cs with
      | ':' :: cs => do
        let (d, cs) ← scanOnce fuel (skipSpace cs)
        scanMore closeBrace (.cons (String.ofList key) d .nil)
          (fun cs => (scanFields fuel cs).map (Prod.map (.cons (String.ofList key) d) id)) cs
      | _ => none
    else none

end

/-- `json.loads`: one value, and nothing but white space around it. -/
def loads (cs : List Char) : Option Data := do
  let (d, rest) ← scanOnce (2 * cs.length) (skipSpace cs)
  if (skipSpace rest).isEmpty then some d else none

/-! ### Strings read back -/

theorem hexValue_hexDigit {d : ℕ} (h : d < 16) : hexValue (hexDigit d) = some d := by
  have hall : ∀ d < 16, hexValue (hexDigit d) = some d := by decide
  exact hall d h

/-- The digits of a code, behind its `\u`. -/
theorem scanCode_escapeCode {n : ℕ} (h : n < 65536) (cs : List Char) :
    scanCode ((escapeCode n).drop 2 ++ cs) = some (n, cs) := by
  have hdigit : ∀ m, hexValue (hexDigit (m % 16)) = some (m % 16) := fun m =>
    hexValue_hexDigit (Nat.mod_lt m (by omega))
  have hsum : n / 4096 % 16 * 4096 + n / 256 % 16 * 256 + n / 16 % 16 * 16 + n % 16 = n := by omega
  simp [escapeCode, scanCode, hdigit, hsum]

/-- A code that is a character. -/
theorem scanUnicode_code {n : ℕ} (h : n < 65536) (hhigh : isHighSurrogate n = false)
    (hlow : isLowSurrogate n = false) (cs : List Char) :
    scanUnicode ((escapeCode n).drop 2 ++ cs) = some (Char.ofNat n, cs) := by
  simp [scanUnicode, scanCode_escapeCode h, hhigh, hlow]

/-- Two codes that are the halves of a character. -/
theorem scanUnicode_pair {n m : ℕ} (hn : isHighSurrogate n = true) (hm : isLowSurrogate m = true) (cs : List Char) :
    scanUnicode ((escapeCode n).drop 2 ++ (escapeCode m ++ cs)) =
      some (Char.ofNat (65536 + (n - 55296) * 1024 + (m - 56320)), cs) := by
  have hn' : n < 65536 := by
    simp only [isHighSurrogate, Bool.and_eq_true, decide_eq_true_eq] at hn
    omega
  have hm' : m < 65536 := by
    simp only [isLowSurrogate, Bool.and_eq_true, decide_eq_true_eq] at hm
    omega
  have hcode : escapeCode m ++ cs = backslash :: 'u' :: ((escapeCode m).drop 2 ++ cs) := rfl
  rw [hcode, scanUnicode, scanCode_escapeCode hn']
  simp [hn, hm, scanCode_escapeCode hm']

theorem scanString_escaped {c : Char} {t cs : List Char} (h : scanEscape t = some (c, cs)) (fuel : ℕ) :
    scanString (fuel + 1) (backslash :: t) = (scanString fuel cs).map (Prod.map (c :: ·) id) := by
  have hquote : backslash ≠ quoteChar := by decide
  rw [scanString, if_neg hquote, if_pos rfl, h]
  rfl

/-- **What `escapeChar` writes** is read as the character. -/
theorem scanString_escapeChar (fuel : ℕ) (c : Char) (cs : List Char) :
    scanString (fuel + 1) (escapeChar c ++ cs) = (scanString fuel cs).map (Prod.map (c :: ·) id) := by
  have hofNat : ∀ n, c.toNat = n → Char.ofNat n = c := fun n hn => by rw [← hn, Char.ofNat_toNat]
  have hvalid : c.toNat < 55296 ∨ 57344 ≤ c.toNat ∧ c.toNat < 1114112 := by
    rcases c.valid with h | ⟨h, h'⟩
    · exact .inl h
    · exact .inr ⟨h, h'⟩
  -- a letter behind a backslash
  have hletter : ∀ (l : Char) (n : ℕ), c.toNat = n → scanEscape (l :: cs) = some (Char.ofNat n, cs) →
      scanString (fuel + 1) ([backslash, l] ++ cs) = (scanString fuel cs).map (Prod.map (c :: ·) id) := by
    intro l n hn hread
    rw [hofNat n hn] at hread
    exact scanString_escaped hread fuel
  unfold escapeChar
  split_ifs with hself hn hr ht hf hb hplain hcode
  · rcases hself with h | h
    · obtain rfl := hofNat _ h
      exact hletter _ _ rfl rfl
    · obtain rfl := hofNat _ h
      exact hletter _ _ rfl rfl
  · exact hletter 'n' 10 hn rfl
  · exact hletter 'r' 13 hr rfl
  · exact hletter 't' 9 ht rfl
  · exact hletter 'f' 12 hf rfl
  · exact hletter 'b' 8 hb rfl
  · have hquote : c ≠ quoteChar := by
      rintro rfl
      exact hself (.inl rfl)
    have hslash : c ≠ backslash := by
      rintro rfl
      exact hself (.inr rfl)
    rw [List.singleton_append, scanString, if_neg hquote, if_neg hslash, if_neg (by omega)]
  · have hhigh : isHighSurrogate c.toNat = false := by
      simp only [isHighSurrogate, Bool.and_eq_false_iff, decide_eq_false_iff_not]
      omega
    have hlow : isLowSurrogate c.toNat = false := by
      simp only [isLowSurrogate, Bool.and_eq_false_iff, decide_eq_false_iff_not]
      omega
    have hread := scanUnicode_code hcode hhigh hlow cs
    rw [Char.ofNat_toNat] at hread
    exact scanString_escaped (t := 'u' :: ((escapeCode c.toNat).drop 2 ++ cs)) hread fuel
  · have hhigh : isHighSurrogate (55296 + (c.toNat - 65536) / 1024) = true := by
      simp only [isHighSurrogate, Bool.and_eq_true, decide_eq_true_eq]
      omega
    have hlow : isLowSurrogate (56320 + (c.toNat - 65536) % 1024) = true := by
      simp only [isLowSurrogate, Bool.and_eq_true, decide_eq_true_eq]
      omega
    have hread := scanUnicode_pair hhigh hlow cs
    rw [hofNat _ (by omega)] at hread
    rw [List.append_assoc]
    exact scanString_escaped (t := 'u' :: ((escapeCode (55296 + (c.toNat - 65536) / 1024)).drop 2 ++
      (escapeCode (56320 + (c.toNat - 65536) % 1024) ++ cs))) hread fuel

/-- **A string reads back**, whatever stands behind it. -/
theorem scanString_dumpsChars (s rest : List Char) {fuel : ℕ} (h : s.length < fuel) :
    scanString fuel (s.flatMap escapeChar ++ quoteChar :: rest) = some (s, rest) := by
  induction s generalizing fuel with
  | nil =>
    obtain ⟨fuel, rfl⟩ := Nat.exists_eq_add_one.mpr h
    rw [List.flatMap_nil, List.nil_append, scanString, if_pos rfl]
  | cons c s ih =>
    obtain ⟨fuel, rfl⟩ := Nat.exists_eq_add_one.mpr (Nat.zero_lt_of_lt h)
    rw [List.flatMap_cons, List.append_assoc, scanString_escapeChar, ih (Nat.lt_of_succ_lt_succ h)]
    rfl

/-! ### Numbers and words read back -/

/-- What stands behind a value: nothing, or what goes on with the list or the dictionary around it. -/
def Ends (rest : List Char) : Prop := ∀ c ∈ rest.head?, c = ',' ∨ c = ']' ∨ c = closeBrace

theorem ends_nil : Ends [] := by simp [Ends]

theorem ends_comma (rest : List Char) : Ends (',' :: rest) := by simp [Ends]

theorem ends_bracket (rest : List Char) : Ends (']' :: rest) := by simp [Ends]

theorem ends_brace (rest : List Char) : Ends (closeBrace :: rest) := by simp [Ends]

variable {rest : List Char}

theorem Ends.stops (h : Ends rest) {p : Char → Bool} (hcomma : p ',' = false) (hbracket : p ']' = false)
    (hbrace : p closeBrace = false) : ∀ c ∈ rest.head?, p c = false := by
  intro c hc
  obtain rfl | rfl | rfl := h c hc
  · exact hcomma
  · exact hbracket
  · exact hbrace

theorem Ends.digits (h : Ends rest) : (Lib.Scanner.run Char.isDigit).StopsAt rest :=
  Lib.Scanner.stopsAt_run (h.stops rfl rfl rfl)

theorem Ends.scanInt (h : Ends rest) : scanInt.StopsAt rest := by
  intro cs
  by_cases hzero : cs.head? = some '0'
  · obtain ⟨cs, rfl⟩ := List.head?_eq_some_iff.mp hzero
    rfl
  · have hother : ∀ t : List Char, t.head? ≠ some '0' → Logging.scanInt t = Lib.Scanner.run Char.isDigit t := by
      intro t ht
      unfold Logging.scanInt
      split
      · exact absurd rfl ht
      · rfl
    have happend : (cs ++ rest).head? ≠ some '0' := by
      cases cs with
      | nil =>
        intro hrest
        have hdigit := h.stops (p := Char.isDigit) rfl rfl rfl '0' hrest
        cases hdigit
      | cons c cs => simpa using hzero
    rw [hother _ happend, hother _ hzero]
    exact h.digits cs

theorem Ends.integerPart (h : Ends rest) : integerPart.StopsAt rest :=
  (Lib.Scanner.stopsAt_optional (h.stops rfl rfl rfl)).both h.scanInt

theorem Ends.fractionPart (h : Ends rest) : fractionPart.StopsAt rest := h.digits.behind (h.stops rfl rfl rfl)

theorem Ends.exponentPart (h : Ends rest) : exponentPart.StopsAt rest :=
  ((Lib.Scanner.stopsAt_optional (h.stops rfl rfl rfl)).both h.digits).behind (h.stops rfl rfl rfl)

/-- **A number ends** where the list or the dictionary around it goes on. -/
theorem scanNumber_append (h : Ends rest) (cs : List Char) :
    scanNumber (cs ++ rest) = (scanNumber cs).map (Prod.map id (· ++ rest)) := by
  unfold scanNumber
  rw [h.integerPart cs, (h.integerPart.andThen (h.fractionPart.andThen h.exponentPart)) cs]
  split_ifs <;> rfl

/-- No number begins with one of the words. -/
theorem scanNumber_literal {word : String} {d : Data} (h : (word, d) ∈ literals) (cs : List Char) :
    scanNumber (word.toList ++ cs) = none := by
  simp only [literals, List.mem_cons, Prod.mk.injEq, List.not_mem_nil, or_false] at h
  rcases h with ⟨rfl, -⟩ | ⟨rfl, -⟩ | ⟨rfl, -⟩ | ⟨rfl, -⟩ | ⟨rfl, -⟩ | ⟨rfl, -⟩ <;> rfl

/-- A text that `json.dumps` writes for a number. -/
def isNumber (text : String) : Bool :=
  text = "NaN" || text = "Infinity" || text = "-Infinity" || scanNumber text.toList = some (text.toList, [])

/-- **A number reads back.** -/
theorem scanAtom_number {text : String} (h : isNumber text = true) (hrest : Ends rest) :
    scanAtom (text.toList ++ rest) = some (.num text, rest) := by
  simp only [isNumber, Bool.or_eq_true, decide_eq_true_eq] at h
  rcases h with ((rfl | rfl) | rfl) | hnumber
  · rfl
  · rfl
  · rfl
  · have hread : scanNumber (text.toList ++ rest) = some (text.toList, rest) := by
      rw [scanNumber_append hrest, hnumber]
      rfl
    have hwords : literals.find? (fun l => l.1.toList.isPrefixOf (text.toList ++ rest)) = none := by
      rw [List.find?_eq_none]
      intro l hl hbegins
      obtain ⟨t, ht⟩ := List.isPrefixOf_iff_prefix.mp hbegins
      rw [← ht, scanNumber_literal hl] at hread
      cases hread
    rw [scanAtom, hwords, hread]
    simp

/-! ### Values read back -/

def Fields.keys : Fields → List String
  | .nil => []
  | .cons key _ rest => key :: rest.keys

mutual

/-- What is read back: of another object, the text that `str` made of it. -/
def Data.loaded : Data → Data
  | .other text => .str text
  | .list items => .list items.loaded
  | .dict fields => .dict fields.loaded
  | d => d

def Items.loaded : Items → Items
  | .nil => .nil
  | .cons d rest => .cons d.loaded rest.loaded

def Fields.loaded : Fields → Fields
  | .nil => .nil
  | .cons key d rest => .cons key d.loaded rest.loaded

end

mutual

/-- What a payload of Python values is: its numbers are numbers, and no dictionary has a key twice. -/
def Data.isPlain : Data → Bool
  | .num text => isNumber text
  | .list items => items.isPlain
  | .dict fields => fields.isPlain
  | _ => true

def Items.isPlain : Items → Bool
  | .nil => true
  | .cons d rest => d.isPlain && rest.isPlain

def Fields.isPlain : Fields → Bool
  | .nil => true
  | .cons key d rest => !rest.keys.contains key && d.isPlain && rest.isPlain

end

mutual

/-- How many turns the reader takes at most. -/
def Data.size : Data → ℕ
  | .list items => items.size + 1
  | .dict fields => fields.size + 1
  | _ => 1

def Items.size : Items → ℕ
  | .nil => 0
  | .cons d rest => d.size + rest.size + 1

def Fields.size : Fields → ℕ
  | .nil => 0
  | .cons _ d rest => d.size + rest.size + 1

end

theorem Fields.keys_loaded (fields : Fields) : fields.loaded.keys = fields.keys := by
  match fields with
  | .nil => rfl
  | .cons key d rest => rw [loaded, keys, keys, rest.keys_loaded]

theorem Fields.last?_of_not_mem {key : String} (fields : Fields) (h : key ∉ fields.keys) :
    fields.last? key = none := by
  match fields with
  | .nil => rfl
  | .cons key' d rest =>
    simp only [keys, List.mem_cons, not_or] at h
    rw [last?, rest.last?_of_not_mem h.2, if_neg (Ne.symm h.1)]
    rfl

theorem Fields.without_of_not_mem {key : String} (fields : Fields) (h : key ∉ fields.keys) :
    fields.without key = fields := by
  match fields with
  | .nil => rfl
  | .cons key' d rest =>
    simp only [keys, List.mem_cons, not_or] at h
    rw [without, if_neg (Ne.symm h.1), rest.without_of_not_mem h.2]

/-- A dictionary has no key twice. -/
theorem Fields.unique_loaded (fields : Fields) (h : fields.isPlain = true) :
    fields.loaded.unique = fields.loaded := by
  match fields with
  | .nil => rfl
  | .cons key d rest =>
    simp only [isPlain, Bool.and_eq_true, Bool.not_eq_true', List.contains_eq_mem, decide_eq_false_iff_not] at h
    have hkey : key ∉ rest.loaded.keys := by
      rw [rest.keys_loaded]
      exact h.1.1
    rw [loaded, unique, rest.unique_loaded h.2, rest.loaded.last?_of_not_mem hkey,
      rest.loaded.without_of_not_mem hkey]
    rfl

/-- The characters that a word or a number begins with. -/
def beginsAtom (c : Char) : Bool := c.isDigit || c.isAlpha || c = '-'

theorem scanOnce_atom {c : Char} (h : beginsAtom c = true) (fuel : ℕ) (cs : List Char) :
    scanOnce (fuel + 1) (c :: cs) = scanAtom (c :: cs) := by
  have hne : ∀ d, beginsAtom d = false → c ≠ d := by
    rintro d hd rfl
    rw [h] at hd
    cases hd
  rw [scanOnce, if_neg (hne quoteChar (by decide)), if_neg (hne openBrace (by decide)), if_neg (hne '[' (by decide))]

/-- A number begins with a digit, a minus sign or a letter. -/
theorem isNumber_begins {text : String} (h : isNumber text = true) :
    ∃ c cs, text.toList = c :: cs ∧ beginsAtom c = true := by
  simp only [isNumber, Bool.or_eq_true, decide_eq_true_eq] at h
  rcases h with ((rfl | rfl) | rfl) | hnumber
  · exact ⟨'N', _, rfl, rfl⟩
  · exact ⟨'I', _, rfl, rfl⟩
  · exact ⟨'-', _, rfl, rfl⟩
  · cases htext : text.toList with
    | nil =>
      rw [htext] at hnumber
      cases hnumber
    | cons c cs =>
      refine ⟨c, cs, rfl, ?_⟩
      by_contra hbegins
      simp only [beginsAtom, Bool.or_eq_true, decide_eq_true_eq, not_or, Bool.not_eq_true] at hbegins
      obtain ⟨⟨hdigit, -⟩, hminus⟩ := hbegins
      have hzero : c ≠ '0' := by
        rintro rfl
        cases hdigit
      have hint : scanInt (c :: cs) = Lib.Scanner.run Char.isDigit (c :: cs) := by
        unfold scanInt
        split
        · rename_i heq
          exact absurd (List.cons.inj heq).1 hzero
        · rfl
      rw [htext, scanNumber] at hnumber
      simp [integerPart, Lib.Scanner.both, Lib.Scanner.optional, hminus, hint, Lib.Scanner.run, hdigit] at hnumber

theorem skipSpace_cons {c : Char} (h : isJsonSpace c = false) (cs : List Char) : skipSpace (c :: cs) = c :: cs := by
  rw [skipSpace, List.dropWhile_cons, h]
  rfl

theorem isJsonSpace_of_beginsAtom {c : Char} (h : beginsAtom c = true) : isJsonSpace c = false := by
  rw [Bool.eq_false_iff]
  intro hspace
  have hofNat : ∀ n, c.toNat = n → Char.ofNat n = c := fun n hn => by rw [← hn, Char.ofNat_toNat]
  simp only [isJsonSpace, Bool.or_eq_true, decide_eq_true_eq] at hspace
  obtain ((hn | hn) | hn) | hn := hspace <;> rw [← hofNat _ hn] at h <;> revert h <;> decide

/-- A value begins with neither white space nor the end of a list. -/
theorem Data.begins {d : Data} (h : d.isPlain = true) :
    ∃ c cs, d.dumps = c :: cs ∧ isJsonSpace c = false ∧ c ≠ ']' := by
  cases d with
  | null => exact ⟨_, _, rfl, by decide, by decide⟩
  | bool b => cases b <;> exact ⟨_, _, rfl, by decide, by decide⟩
  | num text =>
    obtain ⟨c, cs, htext, hc⟩ := isNumber_begins h
    refine ⟨c, cs, htext, isJsonSpace_of_beginsAtom hc, ?_⟩
    rintro rfl
    cases hc
  | str s => exact ⟨_, _, rfl, by decide, by decide⟩
  | other text => exact ⟨_, _, rfl, by decide, by decide⟩
  | list items => exact ⟨_, _, rfl, by decide, by decide⟩
  | dict fields => exact ⟨_, _, rfl, by decide, by decide⟩

/-- A string is read with as many turns as there are characters left. -/
theorem scanString_dumpsChars' (s rest : List Char) :
    scanString ((s.flatMap escapeChar ++ quoteChar :: rest).length + 1) (s.flatMap escapeChar ++ quoteChar :: rest) =
      some (s, rest) := by
  have hall := length_le_escaped s
  refine scanString_dumpsChars s rest ?_
  rw [List.length_append]
  omega

theorem dumpsChars_append (s rest : List Char) :
    dumpsChars s ++ rest = quoteChar :: (s.flatMap escapeChar ++ quoteChar :: rest) := by
  simp [dumpsChars]

theorem scanOnce_string (fuel : ℕ) (s rest : List Char) :
    scanOnce (fuel + 1) (dumpsChars s ++ rest) = some (.str (String.ofList s), rest) := by
  rw [dumpsChars_append, scanOnce, if_pos rfl, scanString_dumpsChars']
  rfl

section More

variable {α : Type} {close : Char} {last : α} {more : List Char → Option (α × List Char)}

theorem scanMore_close (h : isJsonSpace close = false) (cs : List Char) :
    scanMore close last more (close :: cs) = some (last, cs) := by
  rw [scanMore, skipSpace_cons h]
  exact if_pos rfl

theorem scanMore_comma (h : close ≠ ',') {c : Char} (hc : isJsonSpace c = false) (cs : List Char) :
    scanMore close last more (',' :: ' ' :: c :: cs) = more (c :: cs) := by
  have hspace : skipSpace (' ' :: c :: cs) = skipSpace (c :: cs) := rfl
  rw [scanMore, skipSpace_cons (by decide)]
  dsimp only
  rw [if_neg (Ne.symm h), if_pos rfl, hspace, skipSpace_cons hc]

end More

theorem Data.size_pos (d : Data) : 0 < d.size := by
  cases d <;> simp [size]

/-- A text with separators begins with its first part. -/
theorem exists_intercalate_cons (sep t : List Char) (ts : List (List Char)) :
    ∃ tail, sep.intercalate (t :: ts) = t ++ tail := by
  cases ts with
  | nil => exact ⟨[], by simp⟩
  | cons u ts => exact ⟨sep ++ sep.intercalate (u :: ts), by rw [List.intercalate_cons_cons, List.append_assoc]⟩

/-- The entries of a dictionary, and what follows them, begin with the first key. -/
theorem exists_entries_cons (key : String) (d : Data) (fields : Fields) (rest : List Char) :
    ∃ tail, [',', ' '].intercalate (Fields.cons key d fields).dumps ++ closeBrace :: rest = quoteChar ::
      (key.toList.flatMap escapeChar ++ quoteChar :: ':' :: ' ' :: (d.dumps ++ (tail ++ closeBrace :: rest))) := by
  obtain ⟨tail, htail⟩ := exists_intercalate_cons [',', ' '] (dumpsChars key.toList ++ [':', ' '] ++ d.dumps)
    fields.dumps
  refine ⟨tail, ?_⟩
  rw [Fields.dumps, htail]
  simp only [List.append_assoc, dumpsChars_append, List.cons_append, List.nil_append]

/-- An entry, and what is left behind it. -/
theorem scanFields_entry {fuel : ℕ} (key : String) {d : Data} {c : Char} {cs tail : List Char}
    (hdumps : d.dumps = c :: cs) (hc : isJsonSpace c = false)
    (hd : scanOnce fuel (d.dumps ++ tail) = some (d.loaded, tail)) :
    scanFields (fuel + 1) (dumpsChars key.toList ++ [':', ' '] ++ d.dumps ++ tail) =
      scanMore closeBrace (.cons key d.loaded .nil)
        (fun cs => (scanFields fuel cs).map (Prod.map (.cons key d.loaded) id)) tail := by
  have htext : dumpsChars key.toList ++ [':', ' '] ++ d.dumps ++ tail =
      quoteChar :: (key.toList.flatMap escapeChar ++ quoteChar :: ':' :: ' ' :: (d.dumps ++ tail)) := by
    simp only [List.append_assoc, dumpsChars_append, List.cons_append, List.nil_append]
  have hvalue : skipSpace (' ' :: (d.dumps ++ tail)) = d.dumps ++ tail := by
    have hspace : skipSpace (' ' :: (d.dumps ++ tail)) = skipSpace (d.dumps ++ tail) := rfl
    rw [hspace, hdumps, List.cons_append, skipSpace_cons hc]
  rw [htext, scanFields, if_pos rfl, scanString_dumpsChars', Option.bind_eq_bind, Option.bind_some]
  dsimp only
  rw [skipSpace_cons (by decide)]
  change (scanOnce fuel (skipSpace (' ' :: (d.dumps ++ tail)))).bind _ = _
  rw [hvalue, hd, Option.bind_some, String.ofList_toList]

/-- Values read back, with `fuel` turns. -/
def ReadsValues (fuel : ℕ) : Prop :=
  ∀ d : Data, d.isPlain = true → d.size ≤ fuel → ∀ rest, Ends rest →
    scanOnce fuel (d.dumps ++ rest) = some (d.loaded, rest)

/-- Elements read back up to the end of their list. -/
def ReadsItems (fuel : ℕ) : Prop :=
  ∀ d items, (Items.cons d items).isPlain = true → (Items.cons d items).size ≤ fuel → ∀ rest,
    scanItems fuel ([',', ' '].intercalate (Items.cons d items).dumps ++ ']' :: rest) =
      some ((Items.cons d items).loaded, rest)

/-- Entries read back up to the end of their dictionary. -/
def ReadsFields (fuel : ℕ) : Prop :=
  ∀ key d fields, (Fields.cons key d fields).isPlain = true → (Fields.cons key d fields).size ≤ fuel → ∀ rest,
    scanFields fuel ([',', ' '].intercalate (Fields.cons key d fields).dumps ++ closeBrace :: rest) =
      some ((Fields.cons key d fields).loaded, rest)

variable {fuel : ℕ}

theorem ReadsItems.list (hitems : ReadsItems fuel) {d : Data} {items : Items}
    (h : (Items.cons d items).isPlain = true) (hfuel : (Items.cons d items).size ≤ fuel) (rest : List Char) :
    scanOnce (fuel + 1) ((Data.list (.cons d items)).dumps ++ rest) =
      some ((Data.list (.cons d items)).loaded, rest) := by
  obtain ⟨c, cs, hdumps, hspace, hclose⟩ := Data.begins (Bool.and_eq_true_iff.mp h).1
  obtain ⟨tail, htail⟩ := exists_intercalate_cons [',', ' '] d.dumps items.dumps
  have hread := hitems d items h hfuel rest
  have htext : (Data.list (.cons d items)).dumps ++ rest = '[' :: c :: (cs ++ (tail ++ ']' :: rest)) := by
    rw [Data.dumps, Items.dumps, htail, hdumps]
    simp
  rw [Items.dumps, htail, hdumps, List.append_assoc, List.cons_append] at hread
  rw [htext, scanOnce, if_neg (by decide), if_neg (by decide), if_pos rfl, skipSpace_cons hspace]
  dsimp only
  rw [if_neg hclose, hread]
  rfl

theorem ReadsFields.dict (hfields : ReadsFields fuel) {key : String} {d : Data} {fields : Fields}
    (h : (Fields.cons key d fields).isPlain = true) (hfuel : (Fields.cons key d fields).size ≤ fuel)
    (rest : List Char) :
    scanOnce (fuel + 1) ((Data.dict (.cons key d fields)).dumps ++ rest) =
      some ((Data.dict (.cons key d fields)).loaded, rest) := by
  obtain ⟨tail, hentries⟩ := exists_entries_cons key d fields rest
  have hread := hfields key d fields h hfuel rest
  have htext : (Data.dict (.cons key d fields)).dumps ++ rest = openBrace :: quoteChar ::
      (key.toList.flatMap escapeChar ++ quoteChar :: ':' :: ' ' :: (d.dumps ++ (tail ++ closeBrace :: rest))) := by
    rw [← hentries, Data.dumps]
    simp [openBrace, closeBrace]
  rw [hentries] at hread
  rw [htext, scanOnce, if_neg (by decide), if_pos rfl, skipSpace_cons (by decide)]
  dsimp only
  rw [if_neg (by decide), hread, Option.map_some, Prod.map_apply, Fields.unique_loaded _ h]
  rfl

theorem ReadsValues.succ (hitems : ReadsItems fuel) (hfields : ReadsFields fuel) : ReadsValues (fuel + 1) := by
  intro d h hfuel rest hrest
  cases d with
  | null => rfl
  | bool b => cases b <;> rfl
  | num text =>
    obtain ⟨c, cs, htext, hc⟩ := isNumber_begins h
    have hread := scanAtom_number h hrest
    rw [htext, List.cons_append, ← scanOnce_atom hc fuel] at hread
    rw [Data.dumps, htext]
    exact hread
  | str s =>
    rw [Data.dumps, scanOnce_string, String.ofList_toList]
    rfl
  | other text =>
    rw [Data.dumps, scanOnce_string, String.ofList_toList]
    rfl
  | list items =>
    cases items with
    | nil => rfl
    | cons d items => exact hitems.list h (Nat.le_of_succ_le_succ hfuel) rest
  | dict fields =>
    cases fields with
    | nil => rfl
    | cons key d fields => exact hfields.dict h (Nat.le_of_succ_le_succ hfuel) rest

theorem ReadsItems.succ (hvalues : ReadsValues fuel) (hitems : ReadsItems fuel) : ReadsItems (fuel + 1) := by
  intro d items h hfuel rest
  have hd : d.isPlain = true := (Bool.and_eq_true_iff.mp h).1
  have hsize : d.size + items.size ≤ fuel := Nat.le_of_succ_le_succ hfuel
  cases items with
  | nil =>
    have hread := hvalues d hd (Nat.le_of_add_right_le hsize) _ (ends_bracket rest)
    rw [Items.dumps, Items.dumps, List.intercalate_singleton, scanItems, hread, Option.bind_eq_bind, Option.bind_some]
    exact scanMore_close (by decide) rest
  | cons e items =>
    have hplain : (Items.cons e items).isPlain = true := (Bool.and_eq_true_iff.mp h).2
    obtain ⟨c, cs, hdumps, hspace, -⟩ := Data.begins (Bool.and_eq_true_iff.mp hplain).1
    obtain ⟨tail, htail⟩ := exists_intercalate_cons [',', ' '] e.dumps items.dumps
    have hmore := hitems e items hplain (Nat.le_of_add_left_le hsize) rest
    have hread := hvalues d hd (Nat.le_of_add_right_le hsize) _
      (ends_comma (' ' :: ([',', ' '].intercalate (Items.cons e items).dumps ++ ']' :: rest)))
    have htext : [',', ' '].intercalate (Items.cons d (.cons e items)).dumps ++ ']' :: rest =
        d.dumps ++ ',' :: ' ' :: ([',', ' '].intercalate (Items.cons e items).dumps ++ ']' :: rest) := by
      rw [Items.dumps, Items.dumps, List.intercalate_cons_cons]
      simp
    rw [htext, scanItems, hread, Option.bind_eq_bind, Option.bind_some]
    rw [Items.dumps, htail, hdumps, List.cons_append, List.cons_append] at hmore ⊢
    dsimp only
    rw [scanMore_comma (by decide) hspace, hmore]
    rfl

theorem ReadsFields.succ (hvalues : ReadsValues fuel) (hfields : ReadsFields fuel) : ReadsFields (fuel + 1) := by
  intro key d fields h hfuel rest
  have hboth := Bool.and_eq_true_iff.mp h
  have hd : d.isPlain = true := (Bool.and_eq_true_iff.mp hboth.1).2
  have hsize : d.size + fields.size ≤ fuel := Nat.le_of_succ_le_succ hfuel
  obtain ⟨c, cs, hdumps, hspace, -⟩ := Data.begins hd
  cases fields with
  | nil =>
    have hread := hvalues d hd (Nat.le_of_add_right_le hsize) _ (ends_brace rest)
    rw [Fields.dumps, Fields.dumps, List.intercalate_singleton, scanFields_entry key hdumps hspace hread]
    exact scanMore_close (by decide) rest
  | cons key' e fields =>
    obtain ⟨tail, hquote⟩ := exists_entries_cons key' e fields rest
    have hmore := hfields key' e fields hboth.2 (Nat.le_of_add_left_le hsize) rest
    have hread := hvalues d hd (Nat.le_of_add_right_le hsize) _
      (ends_comma (' ' :: ([',', ' '].intercalate (Fields.cons key' e fields).dumps ++ closeBrace :: rest)))
    have htext : [',', ' '].intercalate (Fields.cons key d (.cons key' e fields)).dumps ++ closeBrace :: rest =
        dumpsChars key.toList ++ [':', ' '] ++ d.dumps ++
          ',' :: ' ' :: ([',', ' '].intercalate (Fields.cons key' e fields).dumps ++ closeBrace :: rest) := by
      rw [Fields.dumps, Fields.dumps, List.intercalate_cons_cons]
      simp
    rw [htext, scanFields_entry key hdumps hspace hread]
    rw [hquote] at hmore ⊢
    rw [scanMore_comma (by decide) (by decide), hmore]
    rfl

/-- **Values read back**, whatever ends them. -/
theorem reads_dumps (fuel : ℕ) : ReadsValues fuel ∧ ReadsItems fuel ∧ ReadsFields fuel := by
  induction fuel with
  | zero =>
    refine ⟨fun d _ hfuel => ?_, fun d items _ hfuel => ?_, fun key d fields _ hfuel => ?_⟩
    · exact absurd (Nat.lt_of_lt_of_le d.size_pos hfuel) (Nat.lt_irrefl 0)
    · exact absurd hfuel (Nat.not_succ_le_zero _)
    · exact absurd hfuel (Nat.not_succ_le_zero _)
  | succ fuel ih =>
    obtain ⟨hvalues, hitems, hfields⟩ := ih
    exact ⟨.succ hitems hfields, .succ hvalues hitems, .succ hvalues hfields⟩

/-! ### Whole texts -/

mutual

/-- The reader has turns enough. -/
theorem Data.size_le (d : Data) (h : d.isPlain = true) : d.size ≤ d.dumps.length := by
  match d with
  | .null => simp [Data.size, Data.dumps]
  | .bool b => cases b <;> simp [Data.size, Data.dumps]
  | .num text =>
    obtain ⟨c, cs, htext, -⟩ := isNumber_begins h
    rw [Data.size, Data.dumps, htext]
    · exact Nat.succ_le_succ (Nat.zero_le _)
    all_goals simp
  | .str s => simp [Data.size, Data.dumps, dumpsChars]
  | .other text => simp [Data.size, Data.dumps, dumpsChars]
  | .list items =>
    have hitems := items.size_le h
    simp only [Data.size, Data.dumps, List.length_append, List.length_cons, List.length_nil]
    omega
  | .dict fields =>
    have hfields := fields.size_le h
    simp only [Data.size, Data.dumps, List.length_append, List.length_cons, List.length_nil]
    omega

theorem Items.size_le (items : Items) (h : items.isPlain = true) :
    items.size ≤ ([',', ' '].intercalate items.dumps).length + 1 := by
  match items with
  | .nil => exact Nat.zero_le _
  | .cons d .nil =>
    have hd := d.size_le (Bool.and_eq_true_iff.mp h).1
    simp only [Items.size, Items.dumps, List.intercalate_singleton]
    omega
  | .cons d (.cons e rest) =>
    have hd := d.size_le (Bool.and_eq_true_iff.mp h).1
    have hrest := (Items.cons e rest).size_le (Bool.and_eq_true_iff.mp h).2
    rw [Items.size, Items.dumps]
    rw [Items.dumps] at hrest ⊢
    rw [List.intercalate_cons_cons, List.length_append, List.length_append, List.length_cons, List.length_singleton]
    omega

theorem Fields.size_le (fields : Fields) (h : fields.isPlain = true) :
    fields.size ≤ ([',', ' '].intercalate fields.dumps).length + 1 := by
  match fields with
  | .nil => exact Nat.zero_le _
  | .cons key d .nil =>
    have hd := d.size_le (Bool.and_eq_true_iff.mp (Bool.and_eq_true_iff.mp h).1).2
    simp only [Fields.size, Fields.dumps, List.intercalate_singleton, List.length_append]
    omega
  | .cons key d (.cons key' e rest) =>
    have hd := d.size_le (Bool.and_eq_true_iff.mp (Bool.and_eq_true_iff.mp h).1).2
    have hrest := (Fields.cons key' e rest).size_le (Bool.and_eq_true_iff.mp h).2
    rw [Fields.size, Fields.dumps]
    rw [Fields.dumps] at hrest ⊢
    rw [List.intercalate_cons_cons]
    simp only [List.length_append, List.length_cons, List.length_nil]
    omega

end

/-- **What `dumps` writes reads back**, other objects as their texts. -/
theorem loads_dumps {d : Data} (h : d.isPlain = true) : loads d.dumps = some d.loaded := by
  obtain ⟨c, cs, hdumps, hspace, -⟩ := Data.begins h
  have hfuel : d.size ≤ 2 * d.dumps.length := Nat.le_trans (d.size_le h) (Nat.le_mul_of_pos_left _ Nat.two_pos)
  have hread := (reads_dumps (2 * d.dumps.length)).1 d h hfuel [] ends_nil
  have hskip : skipSpace d.dumps = d.dumps := by rw [hdumps, skipSpace_cons hspace]
  rw [List.append_nil] at hread
  rw [loads, hskip, hread]
  rfl

end Polyfast.Logging
