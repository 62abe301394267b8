import Mathlib.Data.List.TakeWhile
import Polyfast.Logging.Filters

/-!
# Which values the pair pattern takes

A message with its values left open is a list of tokens: characters, and `none` for a value. `Covered` goes
over it as the pattern would, with `#` for every value: no value may be left standing outside a match.

* `Fills`: a text is such a message with words for its values; `Placed`: every value follows a colon and a
  blank, up to what a match has taken;
* `pairMatch_fills`: a match does not see the values;
* `sub_covered`: a covered message is masked to one text, whatever its values;
* `uncovered_leaks`: a message that is not covered shows a value made of `#`.
-/

namespace Polyfast.Logging

/-- A message with its values left open. -/
abbrev Tokens := List (Option Char)

/-- The message with `#` for every value. -/
def canon (T : Tokens) : List Char := T.map (·.getD '#')

/-- No value stands outside the matches of the pair pattern, in `n` turns. -/
def coveredTurns : ℕ → Tokens → Bool
  | _, [] => true
  | 0, _ :: _ => false
  | _ + 1, none :: _ => false
  | n + 1, some c :: T =>
    match pairMatch (canon (some c :: T)) with
    | none => coveredTurns n T
    | some (_, rest) => coveredTurns n ((some c :: T).drop ((some c :: T).length - rest.length))

/-- **Every value is taken by the pair pattern.** -/
def Covered (T : Tokens) : Prop := coveredTurns T.length T = true

instance (T : Tokens) : Decidable (Covered T) := inferInstanceAs (Decidable (_ = true))

/-- A word: a text that the pair pattern takes as a value. -/
def IsWord (w : List Char) : Prop := w ≠ [] ∧ ∀ c ∈ w, isValueChar c = true

/-- A text is the message with words of the kind `W` for its values. -/
inductive Fills (W : List Char → Prop) : Tokens → List Char → Prop
  | nil : Fills W [] []
  | char (c : Char) {T : Tokens} {s : List Char} (h : Fills W T s) : Fills W (some c :: T) (c :: s)
  | value (w : List Char) {T : Tokens} {s : List Char} (hw : W w) (h : Fills W T s) :
      Fills W (none :: T) (w ++ s)

/-- Every value follows a colon and a blank. -/
inductive Full : Tokens → Prop
  | text (p : List Char) : Full (p.map some)
  | value (p : List Char) {T : Tokens} (h : Full T) : Full (p.map some ++ some ':' :: some ' ' :: none :: T)

/-- What is left of such a message when the pattern has gone over a part of it. -/
inductive Placed : Tokens → Prop
  | full {T : Tokens} (h : Full T) : Placed T
  | blank {T : Tokens} (h : Full T) : Placed (some ' ' :: none :: T)
  | value {T : Tokens} (h : Full T) : Placed (none :: T)

variable {W : List Char → Prop} {T : Tokens} {s : List Char}

theorem IsWord.startsValue {w : List Char} (h : IsWord w) (s : List Char) : StartsValue (w ++ s) := by
  obtain ⟨c, t, rfl⟩ := List.exists_cons_of_ne_nil h.1
  exact ⟨c, t ++ s, rfl, h.2 c List.mem_cons_self⟩

theorem fills_text {p : List Char} : Fills W (p.map some ++ T) s ↔ ∃ t, s = p ++ t ∧ Fills W T t := by
  induction p generalizing s with
  | nil => simp
  | cons c p ih =>
    constructor
    · intro h
      cases h with
      | char c h =>
        obtain ⟨t, rfl, ht⟩ := ih.mp h
        exact ⟨t, rfl, ht⟩
    · rintro ⟨t, rfl, ht⟩
      exact .char c (ih.mpr ⟨t, rfl, ht⟩)

theorem fills_chars {p : List Char} (h : Fills W (p.map some) s) : s = p := by
  rw [← List.append_nil (p.map some)] at h
  obtain ⟨t, rfl, ht⟩ := fills_text.mp h
  cases ht
  exact List.append_nil p

theorem fills_map (p : List Char) : Fills W (p.map some) p := by
  rw [← List.append_nil (p.map some)]
  exact fills_text.mpr ⟨[], (List.append_nil p).symm, .nil⟩

theorem fills_canon (T : Tokens) : Fills (· = ['#']) T (canon T) := by
  induction T with
  | nil => exact .nil
  | cons a T ih =>
    cases a with
    | none => exact .value ['#'] rfl ih
    | some c => exact .char c ih

theorem Fills.eq_canon (h : Fills (· = ['#']) T s) : s = canon T := by
  induction h with
  | nil => rfl
  | char c _ ih => exact congrArg (c :: ·) ih
  | value w hw _ ih =>
    subst hw
    exact congrArg ('#' :: ·) ih

theorem Full.prepend (h : Full T) (p : List Char) : Full (p.map some ++ T) := by
  cases h with
  | text q =>
    rw [← List.map_append]
    exact .text _
  | value q h =>
    rw [← List.append_assoc, ← List.map_append]
    exact .value _ h

theorem Full.tail {c : Char} (h : Full (some c :: T)) : Placed T := by
  generalize hT : some c :: T = U at h
  cases h with
  | text p =>
    cases p with
    | nil => cases hT
    | cons d p =>
      obtain ⟨-, rfl⟩ := List.cons.inj hT
      exact .full (.text p)
  | value p h =>
    cases p with
    | nil =>
      obtain ⟨-, rfl⟩ := List.cons.inj hT
      exact .blank h
    | cons d p =>
      obtain ⟨-, rfl⟩ := List.cons.inj hT
      exact .full (.value p h)

theorem Placed.tail {c : Char} (h : Placed (some c :: T)) : Placed T := by
  cases h with
  | full h => exact h.tail
  | blank h => exact .value h

/-- After a value, up to the next blank before a value: the text there is the end of one with a colon. -/
theorem drop_colon (b : List Char) :
    ∃ d q, (d = [] ∨ ∃ d', d = d' ++ [':']) ∧ d <:+ b ++ [':'] ∧
      ∀ t, takeIf isQuote ((b ++ ':' :: ' ' :: t).dropWhile isValueChar) = (q, d ++ ' ' :: t) := by
  have hquote : isQuote ' ' = false := by decide
  have hvalue : isValueChar ' ' = false := by decide
  have hsuffix : (takeIf isQuote ((b ++ [':']).dropWhile isValueChar)).2 <:+ b ++ [':'] :=
    (takeIf_suffix _ _).trans (List.dropWhile_suffix _)
  refine ⟨_, (takeIf isQuote ((b ++ [':']).dropWhile isValueChar)).1, ?_, hsuffix, fun t => ?_⟩
  · rcases List.eq_nil_or_concat (takeIf isQuote ((b ++ [':']).dropWhile isValueChar)).2 with h | ⟨d, x, h⟩
    · exact .inl h
    · obtain ⟨u, hu⟩ := hsuffix
      rw [h, List.concat_eq_append, ← List.append_assoc] at hu
      obtain ⟨-, hx⟩ := List.append_inj' hu rfl
      exact .inr ⟨d, by rw [h, List.concat_eq_append, hx]⟩
  · have hcut := dropWhile_cut hvalue (b ++ [':']) t
    rw [List.append_assoc] at hcut
    exact (congrArg _ hcut).trans (takeIf_cut hquote _ t)

/-- The rest of a message after a text that ends with a colon, or after nothing. -/
theorem placed_rest {d : List Char} (hd : d = [] ∨ ∃ d', d = d' ++ [':']) (h : Full T) :
    Placed (d.map some ++ some ' ' :: none :: T) := by
  rcases hd with rfl | ⟨d', rfl⟩
  · exact .blank h
  · rw [List.map_append, List.append_assoc]
    exact .full (.value d' h)

theorem fills_colon {p : List Char} (h : Fills W (p.map some ++ some ':' :: some ' ' :: none :: T) s) :
    ∃ w t, W w ∧ s = p ++ ':' :: ' ' :: (w ++ t) ∧ Fills W T t := by
  obtain ⟨t, rfl, ht⟩ := fills_text.mp h
  cases ht with
  | char c ht =>
    cases ht with
    | char c ht =>
      cases ht with
      | value w hw ht => exact ⟨w, _, hw, rfl, ht⟩

theorem fills_rest_colon {d t : List Char} {w : List Char} (hw : W w) (h : Fills W T t) :
    Fills W (d.map some ++ some ' ' :: none :: T) (d ++ ' ' :: (w ++ t)) :=
  fills_text.mpr ⟨_, rfl, .char ' ' (.value w hw h)⟩

theorem suffix_colon {d p : List Char} (h : d <:+ p ++ [':']) (T : Tokens) :
    d.map some ++ some ' ' :: none :: T <:+ p.map some ++ some ':' :: some ' ' :: none :: T := by
  obtain ⟨u, hu⟩ := h
  refine ⟨u.map some, ?_⟩
  rw [← List.append_assoc, ← List.map_append, hu, List.map_append, List.append_assoc]
  rfl

/-- What follows a value in the match is the same for every filling. -/
theorem fills_rest {W' : List Char → Prop} {s' : List Char} (h : Full T) (hs : Fills W T s) (hs' : Fills W' T s') :
    ∃ q R r r', R <:+ T ∧ Placed R ∧ takeIf isQuote (s.dropWhile isValueChar) = (q, r) ∧
      takeIf isQuote (s'.dropWhile isValueChar) = (q, r') ∧ Fills W R r ∧ Fills W' R r' := by
  cases h with
  | text p =>
    obtain rfl := fills_chars hs
    obtain rfl := fills_chars hs'
    have hsuffix := (takeIf_suffix isQuote (s'.dropWhile isValueChar)).trans (List.dropWhile_suffix _)
    exact ⟨_, _, _, _, hsuffix.map some, .full (.text _), rfl, rfl, fills_map _, fills_map _⟩
  | @value p U hU =>
    obtain ⟨w, t, hw, rfl, ht⟩ := fills_colon hs
    obtain ⟨w', t', hw', rfl, ht'⟩ := fills_colon hs'
    obtain ⟨d, q, hd, hsuffix, hdrop⟩ := drop_colon p
    exact ⟨q, _, _, _, suffix_colon hsuffix U, placed_rest hd hU, hdrop _, hdrop _, fills_rest_colon hw ht,
      fills_rest_colon hw' ht'⟩

/-- No opening begins with a character that is neither a quote nor of a word. -/
theorem opening_none {x : Char} (hquote : isQuote x = false) (hdash : isDash x = false)
    (hx : ∀ w ∈ credentialWords, foldCase x ∉ w.1 ∧ foldCase x ∉ w.2) (t : List Char) : opening (x :: t) = none := by
  have hname : credentialWords.findSome? (takeName · (x :: t)) = none := takeCredentialWord_cut hx hdash [] t
  unfold opening
  rw [takeIf_of_not hquote]
  dsimp only
  rw [hname]

theorem opening_blank (t : List Char) : opening (' ' :: t) = none :=
  opening_none (by decide) (by decide) (by decide) t

theorem opening_hash (t : List Char) : opening ('#' :: t) = none :=
  opening_none (by decide) (by decide) (by decide) t

theorem pairMatch_of_opening_none {s : List Char} (h : opening s = none) : pairMatch s = none := by
  rw [pairMatch, h]

theorem takeWhile_value {w : List Char} (hw : IsWord w) (t : List Char) :
    (w ++ t).takeWhile isValueChar ≠ [] ∧ (w ++ t).dropWhile isValueChar = t.dropWhile isValueChar := by
  obtain ⟨hne, hall⟩ := hw
  rw [List.takeWhile_append_of_pos hall, List.dropWhile_append_of_pos hall]
  exact ⟨by simp [hne], rfl⟩

/-- At the same place of two fillings the pair pattern matches in both or in none, writes the same, and goes on
at the same place. -/
def SameMatch (W W' : List Char → Prop) (T : Tokens) (s s' : List Char) : Prop :=
  (pairMatch s = none ∧ pairMatch s' = none) ∨
    ∃ out R r r', R <:+ T ∧ Placed R ∧ pairMatch s = some (out, r) ∧ pairMatch s' = some (out, r') ∧
      Fills W R r ∧ Fills W' R r'

section Match

variable {W' : List Char → Prop} {s' : List Char}

/-- Without values there is one filling. -/
theorem sameMatch_text (c : Char) (p : List Char) : SameMatch W W' ((c :: p).map some) (c :: p) (c :: p) := by
  cases hmatch : pairMatch (c :: p) with
  | none => exact .inl ⟨hmatch, hmatch⟩
  | some x =>
    obtain ⟨out, rest⟩ := x
    have hsuffix := (pairMatch_suffix hmatch).trans (List.suffix_cons c p)
    exact .inr ⟨_, _, _, _, hsuffix.map some, .full (.text _), hmatch, hmatch, fills_map _, fills_map _⟩

variable {p w w' t t' : List Char}

/-- The opening ends at the value: the match takes it. -/
theorem sameMatch_at (hopen : ∀ y, StartsValue y → opening (p ++ ':' :: ' ' :: y) = some (p ++ [':', ' '], y))
    (hw : IsWord w) (hw' : IsWord w') (h : Full T) (ht : Fills W T t) (ht' : Fills W' T t') :
    SameMatch W W' (p.map some ++ some ':' :: some ' ' :: none :: T) (p ++ ':' :: ' ' :: (w ++ t))
      (p ++ ':' :: ' ' :: (w' ++ t')) := by
  obtain ⟨q, R, r, r', hsuffix, hplaced, hq, hq', hr, hr'⟩ := fills_rest h ht ht'
  obtain ⟨hne, hdrop⟩ := takeWhile_value hw t
  obtain ⟨hne', hdrop'⟩ := takeWhile_value hw' t'
  refine .inr ⟨p ++ [':', ' '] ++ stars ++ q, R, r, r', ?_, hplaced, ?_, ?_, hr, hr'⟩
  · exact hsuffix.trans ⟨p.map some ++ [some ':', some ' ', none], by simp⟩
  · simp only [pairMatch, hopen _ (hw.startsValue t), if_neg hne, hdrop, hq]
  · simp only [pairMatch, hopen _ (hw'.startsValue t'), if_neg hne', hdrop', hq']

/-- The opening ends before the colon: the match takes something else for the value. -/
theorem sameMatch_before {o b : List Char}
    (hopen : ∀ y, StartsValue y → opening (o ++ b ++ ':' :: ' ' :: y) = some (o, b ++ ':' :: ' ' :: y))
    (hw : W w) (hw' : W' w') (hy : StartsValue (w ++ t)) (hy' : StartsValue (w' ++ t')) (h : Full T)
    (ht : Fills W T t) (ht' : Fills W' T t') :
    SameMatch W W' ((o ++ b).map some ++ some ':' :: some ' ' :: none :: T) (o ++ b ++ ':' :: ' ' :: (w ++ t))
      (o ++ b ++ ':' :: ' ' :: (w' ++ t')) := by
  obtain ⟨d, q, hd, hsuffix, hdrop⟩ := drop_colon b
  have hvalue : ∀ y, (b ++ ':' :: ' ' :: y).takeWhile isValueChar = (b ++ [':']).takeWhile isValueChar := by
    intro y
    have h := takeWhile_cut (by decide : isValueChar ' ' = false) (b ++ [':']) y
    rw [List.append_assoc] at h
    exact h
  by_cases hempty : (b ++ [':']).takeWhile isValueChar = []
  · refine .inl ⟨?_, ?_⟩
    · simp only [pairMatch, hopen _ hy, hvalue, if_pos hempty]
    · simp only [pairMatch, hopen _ hy', hvalue, if_pos hempty]
  · refine .inr ⟨o ++ stars ++ q, d.map some ++ some ' ' :: none :: T, d ++ ' ' :: (w ++ t), d ++ ' ' :: (w' ++ t'),
      ?_, placed_rest hd h, ?_, ?_, fills_rest_colon hw ht, fills_rest_colon hw' ht'⟩
    · refine (suffix_colon hsuffix T).trans ⟨o.map some, ?_⟩
      rw [List.map_append, List.append_assoc]
    · simp only [pairMatch, hopen _ hy, hvalue, if_neg hempty, hdrop]
    · simp only [pairMatch, hopen _ hy', hvalue, if_neg hempty, hdrop]

/-- **A match does not see the values.** -/
theorem pairMatch_fills {c : Char} (h : Placed (some c :: T)) (hs : Fills W (some c :: T) s)
    (hs' : Fills W' (some c :: T) s') (hW : ∀ w, W w → IsWord w) (hW' : ∀ w, W' w → IsWord w) :
    SameMatch W W' (some c :: T) s s' := by
  cases h with
  | blank h =>
    cases hs with
    | char _ hs =>
      cases hs' with
      | char _ hs' =>
        exact .inl ⟨pairMatch_of_opening_none (opening_blank _), pairMatch_of_opening_none (opening_blank _)⟩
  | full h =>
    generalize hU : some c :: T = U at h hs hs' ⊢
    cases h with
    | text p =>
      obtain rfl := fills_chars hs
      obtain rfl := fills_chars hs'
      cases s' with
      | nil => cases hU
      | cons d t => exact sameMatch_text d t
    | @value p V hV =>
      obtain ⟨w, t, hw, rfl, ht⟩ := fills_colon hs
      obtain ⟨w', t', hw', rfl, ht'⟩ := fills_colon hs'
      have hy := (hW w hw).startsValue t
      have hy' := (hW' w' hw').startsValue t'
      obtain hopen | hopen | ⟨o, b, rfl, hopen⟩ := opening_colon p
      · exact .inl ⟨pairMatch_of_opening_none (hopen _ hy), pairMatch_of_opening_none (hopen _ hy')⟩
      · exact sameMatch_at hopen (hW w hw) (hW' w' hw') hV ht ht'
      · exact sameMatch_before hopen hw hw' hy hy' hV ht ht'

end Match

/-! ### Going over a message -/

theorem isWord_hash : ∀ w, w = ['#'] → IsWord w := by
  rintro _ rfl
  refine ⟨by simp, fun c hc => ?_⟩
  rw [List.mem_singleton.mp hc]
  decide

theorem canon_length (T : Tokens) : (canon T).length = T.length := List.length_map _

/-- **One turn** over a message: both go on behind the character, or both behind the same match. -/
theorem turn {n : ℕ} {c : Char} (h : Placed (some c :: T)) (hs : Fills W (some c :: T) s) (hW : ∀ w, W w → IsWord w) :
    (∃ t, s = c :: t ∧ pairMatch s = none ∧ pairMatch (canon (some c :: T)) = none ∧ Fills W T t ∧ Placed T ∧
      coveredTurns (n + 1) (some c :: T) = coveredTurns n T) ∨
    ∃ out R r, pairMatch s = some (out, r) ∧ pairMatch (canon (some c :: T)) = some (out, canon R) ∧ Fills W R r ∧
      Placed R ∧ R.length ≤ T.length ∧ coveredTurns (n + 1) (some c :: T) = coveredTurns n R := by
  obtain ⟨hnone, hcanon⟩ | ⟨out, R, r, r', hsuffix, hplaced, hmatch, hcanon, hr, hr'⟩ :=
    pairMatch_fills h hs (fills_canon (some c :: T)) hW isWord_hash
  · refine .inl ?_
    cases hs with
    | char _ hs =>
      refine ⟨_, rfl, hnone, hcanon, hs, h.tail, ?_⟩
      rw [coveredTurns, hcanon]
  · refine .inr ⟨out, R, r, hmatch, ?_, hr, hplaced, ?_, ?_⟩
    · rw [hcanon, hr'.eq_canon]
    · have hlen := (pairMatch_suffix hcanon).length_le
      rw [hr'.eq_canon, canon_length] at hlen
      exact hlen.trans (by simp)
    · have hdrop := List.suffix_iff_eq_drop.mp hsuffix
      rw [coveredTurns, hcanon]
      dsimp only
      rw [hr'.eq_canon, canon_length, ← hdrop]

/-- **A covered message is masked to one text**, whatever words its values are. -/
theorem sub_covered (hW : ∀ w, W w → IsWord w) : ∀ n T s, Placed T → Fills W T s → coveredTurns n T = true →
    Lib.sub pairMatch s = Lib.sub pairMatch (canon T) := by
  intro n
  induction n with
  | zero =>
    intro T s _ hs hc
    cases hs with
    | nil => rfl
    | char c hs => cases hc
    | value w hw hs => cases hc
  | succ n ih =>
    intro T s hT hs hc
    cases T with
    | nil =>
      cases hs
      rfl
    | cons a T =>
      cases a with
      | none => cases hc
      | some c =>
        obtain ⟨t, rfl, hnone, hcanon, ht, hplaced, heq⟩ | ⟨out, R, r, hmatch, hcanon, hr, hplaced, -, heq⟩ :=
          turn (n := n) hT hs hW
        · rw [heq] at hc
          rw [Lib.sub_cons_none hnone, ih T t hplaced ht hc]
          exact (Lib.sub_cons_none hcanon).symm
        · rw [heq] at hc
          cases hs with
          | char _ hs =>
            rw [Lib.sub_cons_some pairMatch_shrinks hmatch, ih R r hplaced hr hc]
            exact (Lib.sub_cons_some pairMatch_shrinks hcanon).symm

/-- Values made of `#`. -/
def Hashes (k : ℕ) (w : List Char) : Prop := w = List.replicate (k + 1) '#'

theorem Hashes.isWord {k : ℕ} : ∀ w, Hashes k w → IsWord w := by
  rintro _ rfl
  refine ⟨by simp, fun c hc => ?_⟩
  rw [List.eq_of_mem_replicate hc]
  decide

theorem sub_hashes (k : ℕ) (s : List Char) :
    Lib.sub pairMatch (List.replicate k '#' ++ s) = List.replicate k '#' ++ Lib.sub pairMatch s := by
  induction k with
  | zero => rfl
  | succ k ih =>
    rw [List.replicate_succ, List.cons_append, Lib.sub_cons_none (pairMatch_of_opening_none (opening_hash _)), ih]
    rfl

/-- **A message that is not covered shows its value**, where that is made of `#`. -/
theorem count_uncovered {k : ℕ} : ∀ n T s, T.length ≤ n → Placed T → Fills (Hashes k) T s →
    coveredTurns n T = false → k ≤ (Lib.sub pairMatch s).count '#' := by
  intro n
  induction n with
  | zero =>
    intro T s hn _ _ hc
    obtain rfl := List.eq_nil_of_length_eq_zero (Nat.le_zero.mp hn)
    cases hc
  | succ n ih =>
    intro T s hn hT hs hc
    cases T with
    | nil => cases hc
    | cons a T =>
      rw [List.length_cons] at hn
      cases a with
      | none =>
        cases hs with
        | value w hw hs =>
          obtain rfl := hw
          rw [sub_hashes, List.count_append, List.count_replicate_self]
          omega
      | some c =>
        obtain ⟨t, rfl, hnone, -, ht, hplaced, heq⟩ | ⟨out, R, r, hmatch, -, hr, hplaced, hlen, heq⟩ :=
          turn (n := n) hT hs Hashes.isWord
        · rw [heq] at hc
          have hle := ih T t (by omega) hplaced ht hc
          rw [Lib.sub_cons_none hnone, List.count_cons]
          omega
        · rw [heq] at hc
          have hle := ih R r (by omega) hplaced hr hc
          cases hs with
          | char _ hs =>
            rw [Lib.sub_cons_some pairMatch_shrinks hmatch, List.count_append]
            omega

/-- The number pattern removes digits only. -/
theorem addressMatch_keeps (s out rest : List Char) (h : addressMatch s = some (out, rest)) :
    s.count '#' ≤ out.count '#' + rest.count '#' := by
  unfold addressMatch at h
  split at h
  · rename_i t
    dsimp only at h
    split_ifs at h
    obtain ⟨-, rfl⟩ := Prod.mk.inj (Option.some.inj h)
    have hdigits : (t.takeWhile isHexDigit).count '#' = 0 := by
      rw [List.count_eq_zero]
      intro hmem
      exact absurd (List.mem_takeWhile_imp hmem) (by decide)
    have hsplit := congrArg (List.count '#') (List.takeWhile_append_dropWhile (p := isHexDigit) (l := t))
    rw [List.count_append, hdigits, Nat.zero_add] at hsplit
    rw [List.count_cons_of_ne (by decide), List.count_cons_of_ne (by decide), ← hsplit]
    exact Nat.le_add_left _ _
  · cases h

theorem maskChars_covered (hT : Full T) (hW : ∀ w, W w → IsWord w) (hs : Fills W T s) (hc : Covered T) :
    maskChars s = maskChars (canon T) :=
  congrArg (Lib.sub addressMatch) (sub_covered hW _ T s (.full hT) hs hc)

theorem uncovered_leaks {k : ℕ} (hT : Full T) (hs : Fills (Hashes k) T s) (hc : ¬Covered T) :
    k ≤ (maskChars s).length := by
  have hcount := count_uncovered _ T s le_rfl (.full hT) hs (Bool.eq_false_iff.mpr hc)
  have hkeep := addressMatch_shrinks.count_le_sub addressMatch_keeps (Lib.sub pairMatch s)
  exact (hcount.trans hkeep).trans List.count_le_length

end Polyfast.Logging
