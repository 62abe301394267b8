import Polyfast.Lib.Rewrite
import Polyfast.Logging.Json

/-!
# The masking filter

`mask_string` replaces what two patterns match: the value of a pair whose name is a credential word, and all
but the first digits of a long hexadecimal number. The third pattern of the table has no replacement and is
skipped. `mask_dict` masks the fields of a dictionary by their names; the filter applies it to the arguments
of a record, never to its payload.

* `opening`, `pairMatch`, `addressMatch`: the patterns, each as a match at the start of a text;
* `pairMatch_suffix`, `pairMatch_shrinks`, `addressMatch_shrinks`: every match takes a character;
* `opening_colon`: what an opening does not depend on.
-/

namespace Polyfast.Logging

/-! ### Characters -/

/-- A double or a single quote. -/
def isQuote (c : Char) : Bool := c.toNat = 34 || c.toNat = 39

/-- `\s`: the characters `str.isspace` accepts. -/
def isSpace (c : Char) : Bool :=
  (9 ≤ c.toNat && c.toNat ≤ 13) || (28 ≤ c.toNat && c.toNat ≤ 32) || (8192 ≤ c.toNat && c.toNat ≤ 8202) ||
    [133, 160, 5760, 8232, 8233, 8239, 8287, 12288].contains c.toNat

/-- `[:=]`. -/
def isSep (c : Char) : Bool := c = ':' || c = '='

/-- `[_-]`. -/
def isDash (c : Char) : Bool := c = '_' || c = '-'

/-- What a value is made of: no quote, no blank, no comma and no brace. -/
def isValueChar (c : Char) : Bool :=
  !isQuote c && !isSpace c && !(c.toNat = 44) && !(c.toNat = 123) && !(c.toNat = 125)

def isHexDigit (c : Char) : Bool :=
  ('0' ≤ c && c ≤ '9') || ('a' ≤ c && c ≤ 'f') || ('A' ≤ c && c ≤ 'F')

/-- The letter that a character matches where the case is ignored: besides the letters themselves the two Turkish
ones, the long s and the Kelvin sign do. -/
def foldCase (c : Char) : Char :=
  if c.toNat = 304 ∨ c.toNat = 305 then 'i'
  else if c.toNat = 383 then 's'
  else if c.toNat = 8490 then 'k'
  else c.toLower

/-! ### The patterns -/

/-- A character that may be there or not. -/
def takeIf (p : Char → Bool) : List Char → List Char × List Char
  | c :: s => if p c then ([c], s) else ([], c :: s)
  | [] => ([], [])

/-- A word, in whatever case. -/
def takeWord : List Char → List Char → Option (List Char × List Char)
  | [], s => some ([], s)
  | _ :: _, [] => none
  | w :: ws, c :: s => if foldCase c = w then (takeWord ws s).map (fun x => (c :: x.1, x.2)) else none

/-- The credential words; some have a second part after an optional dash. -/
def credentialWords : List (List Char × List Char) :=
  [(['a', 'p', 'i'], ['k', 'e', 'y']),
    (['s', 'e', 'c', 'r', 'e', 't'], []),
    (['p', 'a', 's', 's', 'p', 'h', 'r', 'a', 's', 'e'], []),
    (['p', 'r', 'i', 'v', 'a', 't', 'e'], ['k', 'e', 'y']),
    (['r', 'e', 'l', 'a', 'y', 'e', 'r'], ['k', 'e', 'y']),
    (['t', 'o', 'k', 'e', 'n'], []),
    (['p', 'a', 's', 's', 'w', 'o', 'r', 'd'], []),
    (['c', 'r', 'e', 'd', 'e', 'n', 't', 'i', 'a', 'l'], [])]

/-- One of the words, with the text after it. -/
def takeName (w : List Char × List Char) (s : List Char) : Option (List Char × List Char) :=
  match takeWord w.1 s with
  | none => none
  | some (a, s) =>
    if w.2 = [] then some (a, s)
    else
      let (dash, s) := takeIf isDash s
      (takeWord w.2 s).map (fun x => (a ++ dash ++ x.1, x.2))

/-- The first group of the pair pattern: a quote, a credential word, a quote, blanks, a separator, blanks and a
quote, all but word and separator optional. No choice it makes can be taken back with success. -/
def opening (s : List Char) : Option (List Char × List Char) :=
  let (q₁, s) := takeIf isQuote s
  match credentialWords.findSome? (takeName · s) with
  | none => none
  | some (name, s) =>
    let (q₂, s) := takeIf isQuote s
    match s.dropWhile isSpace with
    | [] => none
    | sep :: t =>
      if isSep sep then
        let (q₃, rest) := takeIf isQuote (t.dropWhile isSpace)
        some (q₁ ++ name ++ q₂ ++ s.takeWhile isSpace ++ [sep] ++ t.takeWhile isSpace ++ q₃, rest)
      else none

/-- What stands in for a value. -/
def stars : List Char := ['*', '*', '*', '*']

/-- The pair pattern: its first group, a value, which is replaced, and an optional quote. -/
def pairMatch : Lib.Matcher Char := fun s =>
  match opening s with
  | none => none
  | some (o, s) =>
    if s.takeWhile isValueChar = [] then none
    else
      let (q, rest) := takeIf isQuote (s.dropWhile isValueChar)
      some (o ++ stars ++ q, rest)

/-- The number pattern: `0x` and at least 36 digits, of which six stay. -/
def addressMatch : Lib.Matcher Char
  | '0' :: 'x' :: s =>
    let digits := s.takeWhile isHexDigit
    if 36 ≤ digits.length then some ('0' :: 'x' :: digits.take 6 ++ stars, s.dropWhile isHexDigit) else none
  | _ => none

/-- `mask_string`, on the characters of a text. -/
def maskChars (s : List Char) : List Char := Lib.sub addressMatch (Lib.sub pairMatch s)

def maskString (text : String) : String := String.ofList (maskChars text.toList)

/-! ### Dictionaries -/

/-- `_SENSITIVE_FIELDS`. -/
def sensitiveFields : List String :=
  ["api_key", "api_secret", "secret", "passphrase", "private_key", "relayer_key", "funder", "funder_address",
    "relayer_addr", "token", "password", "credential"]

/-- What stands for the value of a sensitive field: the first four characters of a longer text, and stars. -/
def maskValue : Data → String
  | .str s => if 4 < s.length then String.ofList (s.toList.take 4 ++ stars) else String.ofList stars
  | _ => String.ofList stars

/-- `lower`, as far as a name can tell: outside ASCII only the Kelvin sign becomes a plain letter. -/
def lowerChar (c : Char) : Char := if c.toNat = 8490 then 'k' else c.toLower

/-- `mask_dict`; lists are left as they are. -/
def maskDict : Fields → Fields
  | .nil => .nil
  | .cons key d rest =>
    if key.map lowerChar ∈ sensitiveFields then .cons key (.str (maskValue d)) (maskDict rest)
    else match d with
      | .dict fields => .cons key (.dict (maskDict fields)) (maskDict rest)
      | .str s => .cons key (.str (maskString s)) (maskDict rest)
      | d => .cons key d (maskDict rest)

/-! ### Every match takes a character -/

theorem takeIf_append (p : Char → Bool) (s : List Char) : (takeIf p s).1 ++ (takeIf p s).2 = s := by
  cases s with
  | nil => rfl
  | cons c s =>
    simp only [takeIf]
    split_ifs <;> rfl

theorem takeWord_append : ∀ {w s a b : List Char}, takeWord w s = some (a, b) → a ++ b = s ∧ a.length = w.length
  | [], s, a, b, h => by
    cases h
    exact ⟨rfl, rfl⟩
  | w :: ws, [], a, b, h => by cases h
  | w :: ws, c :: s, a, b, h => by
    simp only [takeWord] at h
    split_ifs at h
    obtain ⟨⟨a', b'⟩, hx, heq⟩ := Option.map_eq_some_iff.mp h
    obtain ⟨rfl, rfl⟩ := Prod.mk.inj heq
    obtain ⟨happ, hlen⟩ := takeWord_append hx
    exact ⟨congrArg (c :: ·) happ, congrArg (· + 1) hlen⟩

theorem takeName_append {w : List Char × List Char} {s a b : List Char} (h : takeName w s = some (a, b)) :
    a ++ b = s ∧ w.1.length ≤ a.length := by
  unfold takeName at h
  cases hfirst : takeWord w.1 s with
  | none =>
    rw [hfirst] at h
    cases h
  | some x =>
    obtain ⟨happ, hlen⟩ := takeWord_append (a := x.1) (b := x.2) hfirst
    rw [hfirst] at h
    dsimp only at h
    split_ifs at h
    · obtain ⟨rfl, rfl⟩ := Prod.mk.inj (Option.some.inj h)
      exact ⟨happ, hlen.ge⟩
    · obtain ⟨⟨a', b'⟩, hx, heq⟩ := Option.map_eq_some_iff.mp h
      obtain ⟨rfl, rfl⟩ := Prod.mk.inj heq
      obtain ⟨happ', -⟩ := takeWord_append hx
      refine ⟨?_, ?_⟩
      · rw [List.append_assoc, List.append_assoc, happ', takeIf_append, happ]
      · rw [List.length_append, List.length_append, hlen]
        omega

theorem takeCredentialWord_append {s a b : List Char}
    (h : credentialWords.findSome? (takeName · s) = some (a, b)) : a ++ b = s ∧ a ≠ [] := by
  obtain ⟨w, hw, heq⟩ := List.exists_of_findSome?_eq_some h
  obtain ⟨happ, hlen⟩ := takeName_append heq
  refine ⟨happ, ?_⟩
  rintro rfl
  have hpos : ∀ w ∈ credentialWords, 0 < w.1.length := by decide
  exact absurd hlen (Nat.not_le.mpr (hpos w hw))

/-- The parts of an opening, put together. -/
theorem opening_parts {u name s : List Char} (hname : name ++ s = (takeIf isQuote u).2) {sep : Char} {t : List Char}
    (hdrop : (takeIf isQuote s).2.dropWhile isSpace = sep :: t) :
    (takeIf isQuote u).1 ++ name ++ (takeIf isQuote s).1 ++ (takeIf isQuote s).2.takeWhile isSpace ++ [sep] ++
      t.takeWhile isSpace ++ (takeIf isQuote (t.dropWhile isSpace)).1 ++
        (takeIf isQuote (t.dropWhile isSpace)).2 = u := by
  have hspaces := List.takeWhile_append_dropWhile (p := isSpace) (l := (takeIf isQuote s).2)
  rw [hdrop] at hspaces
  simp only [List.append_assoc, takeIf_append, List.takeWhile_append_dropWhile, List.nil_append,
    List.cons_append]
  rw [hspaces, takeIf_append, hname, takeIf_append]

theorem opening_append {s o r : List Char} (h : opening s = some (o, r)) : o ++ r = s ∧ o ≠ [] := by
  unfold opening at h
  dsimp only at h
  cases hname : credentialWords.findSome? (takeName · (takeIf isQuote s).2) with
  | none =>
    rw [hname] at h
    cases h
  | some x =>
    obtain ⟨happ, hne⟩ := takeCredentialWord_append (a := x.1) (b := x.2) hname
    rw [hname] at h
    dsimp only at h
    cases hdrop : (takeIf isQuote x.2).2.dropWhile isSpace with
    | nil =>
      rw [hdrop] at h
      cases h
    | cons sep t =>
      rw [hdrop] at h
      dsimp only at h
      split_ifs at h
      obtain ⟨rfl, rfl⟩ := Prod.mk.inj (Option.some.inj h)
      exact ⟨opening_parts happ hdrop, by simp [hne]⟩

theorem takeIf_suffix (p : Char → Bool) (s : List Char) : (takeIf p s).2 <:+ s := ⟨_, takeIf_append p s⟩

/-- What comes after a match is a proper end of the text. -/
theorem pairMatch_suffix {c : Char} {t out rest : List Char} (h : pairMatch (c :: t) = some (out, rest)) :
    rest <:+ t := by
  unfold pairMatch at h
  cases hopen : opening (c :: t) with
  | none =>
    rw [hopen] at h
    cases h
  | some x =>
    obtain ⟨happ, hne⟩ := opening_append (o := x.1) (r := x.2) hopen
    rw [hopen] at h
    dsimp only at h
    split_ifs at h
    obtain ⟨-, rfl⟩ := Prod.mk.inj (Option.some.inj h)
    have hrest := (takeIf_suffix isQuote (x.2.dropWhile isValueChar)).trans (List.dropWhile_suffix isValueChar)
    obtain ⟨d, o, ho⟩ := List.exists_cons_of_ne_nil hne
    rw [ho, List.cons_append] at happ
    obtain ⟨-, rfl⟩ := List.cons.inj happ
    exact hrest.trans (List.suffix_append o x.2)

theorem pairMatch_shrinks : Lib.Shrinks pairMatch :=
  ⟨rfl, fun _ _ _ _ h => (pairMatch_suffix h).length_le⟩

theorem addressMatch_shrinks : Lib.Shrinks addressMatch := by
  refine ⟨rfl, fun c t out rest h => ?_⟩
  unfold addressMatch at h
  split at h
  · rename_i s heq
    obtain ⟨-, rfl⟩ := List.cons.inj heq
    dsimp only at h
    split_ifs at h
    obtain ⟨-, rfl⟩ := Prod.mk.inj (Option.some.inj h)
    exact ((List.dropWhile_suffix isHexDigit).length_le).trans (Nat.le_succ _)
  · cases h

/-! ### Cutting at a character that a part of the pattern stops at -/

theorem takeIf_cut {p : Char → Bool} {x : Char} (hx : p x = false) (u t : List Char) :
    takeIf p (u ++ x :: t) = ((takeIf p u).1, (takeIf p u).2 ++ x :: t) := by
  cases u with
  | nil => simp [takeIf, hx]
  | cons c u =>
    simp only [List.cons_append, takeIf]
    split_ifs <;> rfl

theorem takeIf_of_not {p : Char → Bool} {c : Char} (h : p c = false) (s : List Char) :
    takeIf p (c :: s) = ([], c :: s) := by
  simp [takeIf, h]

theorem takeWhile_cut {p : Char → Bool} {x : Char} (hx : p x = false) (u t : List Char) :
    (u ++ x :: t).takeWhile p = u.takeWhile p := by
  induction u with
  | nil => simp [hx]
  | cons c u ih =>
    simp only [List.cons_append, List.takeWhile_cons, ih]

theorem dropWhile_cut {p : Char → Bool} {x : Char} (hx : p x = false) (u t : List Char) :
    (u ++ x :: t).dropWhile p = u.dropWhile p ++ x :: t := by
  induction u with
  | nil => simp [hx]
  | cons c u ih =>
    simp only [List.cons_append, List.dropWhile_cons, ih]
    split_ifs <;> rfl

theorem takeWord_cut {x : Char} : ∀ {w : List Char}, foldCase x ∉ w → ∀ u t : List Char,
    takeWord w (u ++ x :: t) = (takeWord w u).map (fun y => (y.1, y.2 ++ x :: t))
  | [], _, u, t => rfl
  | w :: ws, hx, [], t => by
    rw [List.mem_cons, not_or] at hx
    simp [takeWord, hx.1]
  | w :: ws, hx, c :: u, t => by
    rw [List.mem_cons, not_or] at hx
    simp only [List.cons_append, takeWord, takeWord_cut hx.2 u t]
    split_ifs
    · cases takeWord ws u <;> rfl
    · rfl

theorem takeName_cut {x : Char} {w : List Char × List Char} (h₁ : foldCase x ∉ w.1) (h₂ : foldCase x ∉ w.2)
    (hdash : isDash x = false) (u t : List Char) :
    takeName w (u ++ x :: t) = (takeName w u).map (fun y => (y.1, y.2 ++ x :: t)) := by
  unfold takeName
  rw [takeWord_cut h₁]
  cases takeWord w.1 u with
  | none => rfl
  | some y =>
    simp only [Option.map_some, takeIf_cut hdash, takeWord_cut h₂]
    split_ifs
    · rfl
    · cases takeWord w.2 (takeIf isDash y.2).2 <;> rfl

theorem takeCredentialWord_cut {x : Char} (hx : ∀ w ∈ credentialWords, foldCase x ∉ w.1 ∧ foldCase x ∉ w.2)
    (hdash : isDash x = false) (u t : List Char) :
    credentialWords.findSome? (takeName · (u ++ x :: t)) =
      (credentialWords.findSome? (takeName · u)).map (fun y => (y.1, y.2 ++ x :: t)) := by
  rw [List.map_findSome?]
  revert hx
  induction credentialWords with
  | nil => intro; rfl
  | cons w ws ih =>
    intro hx
    obtain ⟨h₁, h₂⟩ := hx w List.mem_cons_self
    simp only [List.findSome?_cons, Function.comp, takeName_cut h₁ h₂ hdash]
    cases takeName w u with
    | none => exact ih fun w' hw' => hx w' (List.mem_cons_of_mem w hw')
    | some y => rfl

/-- A text that begins with a character of a value. -/
def StartsValue (y : List Char) : Prop := ∃ x t, y = x :: t ∧ isValueChar x = true

theorem isValueChar_iff {c : Char} : isValueChar c = true ↔
    isQuote c = false ∧ isSpace c = false ∧ c.toNat ≠ 44 ∧ c.toNat ≠ 123 ∧ c.toNat ≠ 125 := by
  simp [isValueChar, and_assoc]

/-- **What an opening does not depend on.** Before a colon, a blank and the text of a value, the opening does
not see what the value is: there is none, or it ends right at the value, or before the colon. -/
theorem opening_colon (u : List Char) :
    (∀ y, StartsValue y → opening (u ++ ':' :: ' ' :: y) = none) ∨
    (∀ y, StartsValue y → opening (u ++ ':' :: ' ' :: y) = some (u ++ [':', ' '], y)) ∨
    ∃ o b, o ++ b = u ∧ ∀ y, StartsValue y → opening (u ++ ':' :: ' ' :: y) = some (o, b ++ ':' :: ' ' :: y) := by
  have hquote : isQuote ':' = false := by decide
  have hspace : isSpace ':' = false := by decide
  have hwords : ∀ w ∈ credentialWords, foldCase ':' ∉ w.1 ∧ foldCase ':' ∉ w.2 := by decide
  have happ := takeIf_append isQuote u
  unfold opening
  simp only [takeIf_cut hquote, takeCredentialWord_cut hwords (by decide : isDash ':' = false)]
  cases hname : credentialWords.findSome? (takeName · (takeIf isQuote u).2) with
  | none => exact .inl fun y _ => rfl
  | some x =>
    obtain ⟨hx, -⟩ := takeCredentialWord_append (a := x.1) (b := x.2) hname
    simp only [Option.map_some, takeIf_cut hquote, dropWhile_cut hspace, takeWhile_cut hspace]
    have hq := takeIf_append isQuote x.2
    cases hdrop : (takeIf isQuote x.2).2.dropWhile isSpace with
    | nil =>
      have hspaces := List.takeWhile_append_dropWhile (p := isSpace) (l := (takeIf isQuote x.2).2)
      -- the separator is the colon itself
      refine .inr (.inl ?_)
      rintro y ⟨c, t, rfl, hc⟩
      obtain ⟨hcq, hcs, -⟩ := isValueChar_iff.mp hc
      rw [hdrop, List.append_nil] at hspaces
      have hend : takeIf isQuote (c :: t) = ([], c :: t) := takeIf_of_not hcq t
      have hblank : (' ' :: c :: t).takeWhile isSpace = [' '] ∧ (' ' :: c :: t).dropWhile isSpace = c :: t := by
        simp [hcs, show isSpace ' ' = true by decide]
      simp only [List.nil_append, show isSep ':' = true by decide, if_true, hblank, hend, hspaces,
        List.append_nil, List.append_assoc, List.singleton_append]
      rw [← List.append_assoc (takeIf isQuote x.2).1, hq, ← List.append_assoc x.1, hx, ← List.append_assoc, happ]
    | cons sep t =>
      by_cases hsep : isSep sep = true
      · -- the opening ends before the colon
        refine .inr (.inr ⟨_, _, opening_parts hx hdrop, fun y _ => ?_⟩)
        simp only [List.cons_append, hsep, if_true, dropWhile_cut hspace, takeWhile_cut hspace, takeIf_cut hquote]
      · refine .inl fun y _ => ?_
        simp only [List.cons_append, hsep, Bool.false_eq_true, if_false]

end Polyfast.Logging
